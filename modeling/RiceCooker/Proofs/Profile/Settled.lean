import RiceCooker.Proofs.Profile.Delay
import RiceCooker.Proofs.Profile.RoundTrip

/-! Adjustments made twice. A payload is settled when it has all that the
options ask of it. Adjusting settles it, since the limits and abilities that
decide what is asked are not adjusted themselves, and there is nothing left to
adjust in a settled payload. -/
namespace RiceCooker.Profile

namespace Payload
variable {p q : Payload} {options : Options}

/-- What the options ask of a payload, as far as it is able. -/
structure Settled (p : Payload) (options : Options) : Prop where
  /-- The duration is the nearest one allowed, in whole hours and minutes below sixty. -/
  duration : ∀ minutes, options.duration = some minutes → p.canSetDuration = true →
    p.duration = .ofMinutes (p.clampDuration minutes)
  /-- A delay that would be taken is there already. -/
  delay : ∀ delay, p.TakesDelay options.schedule delay → p.delayed delay = p
  /-- Keeping warm is on if it is wanted. -/
  autoKeepWarm : options.autoKeepWarm = some true → p.canSetAutoKeepWarm = true →
    p.autoKeepWarm = true
  /-- The taste is the one wanted, and in range. -/
  taste : ∀ taste, options.taste = some taste → p.menuId = 1 → taste ≤ 2 ∧ p.taste = taste

/-! ## Nothing left to adjust -/

theorem adjustDuration_of_canSetDuration (able : p.canSetDuration = true) (minutes : UInt16) :
    p.adjustDuration (some minutes) =
      { p with duration := .ofMinutes (p.clampDuration minutes) } := by
  simp [adjustDuration, setDuration?, able]

theorem adjustDuration_eq_self (settled : p.Settled options) :
    p.adjustDuration options.duration = p := by
  cases wanted : options.duration with
  | none => rfl
  | some minutes =>
    by_cases able : p.canSetDuration = true
    · rw [adjustDuration_of_canSetDuration able, ← settled.duration minutes wanted able]
    · simp [adjustDuration, setDuration?, able]

theorem adjustSchedule_eq_self (settled : p.Settled options) :
    p.adjustSchedule options.schedule = p := by
  by_cases takes : ∃ delay, p.TakesDelay options.schedule delay
  · obtain ⟨delay, takes⟩ := takes
    rw [adjustSchedule_of_takes takes, settled.delay delay takes]
  · exact adjustSchedule_of_refused takes

theorem adjustAutoKeepWarm_eq_self (settled : p.Settled options) :
    p.adjustAutoKeepWarm options.autoKeepWarm = p := by
  rw [adjustAutoKeepWarm_eq]
  by_cases asked : options.autoKeepWarm = some true ∧ p.canSetAutoKeepWarm = true
  · have on := settled.autoKeepWarm asked.1 asked.2
    rw [on, Bool.true_or, ← on]
  · have off : (options.autoKeepWarm == some true && p.canSetAutoKeepWarm) = false :=
      Bool.eq_false_iff.mpr fun both => asked (by simpa using both)
    rw [off, Bool.or_false]

theorem adjustTaste_eq_self (settled : p.Settled options) :
    p.adjustTaste options.taste = .ok p := by
  obtain ⟨taste, wanted, menu, firm, _⟩ | ⟨_, tasted⟩ := p.adjustTaste_cases options.taste
  · obtain ⟨inRange, _⟩ := settled.taste taste wanted menu
    exact absurd firm (UInt8.not_lt.mpr inRange)
  · have same : (if p.menuId = 1 then options.taste.getD p.taste else p.taste) = p.taste := by
      split
      · rename_i menu
        cases wanted : options.taste with
        | none => rfl
        | some taste => exact (settled.taste taste wanted menu).2.symm
      · rfl
    rw [tasted, same]

theorem adjust_of_settled (settled : p.Settled options) : p.adjust options = .ok p := by
  rw [adjust, adjustDuration_eq_self settled, adjustSchedule_eq_self settled,
    adjustAutoKeepWarm_eq_self settled, adjustTaste_eq_self settled]

/-! ## Settled by adjusting -/

theorem settled_of_adjust (made : p.adjust options = .ok q) : q.Settled options := by
  obtain ⟨time, enabled, hours, minutes, timed, taken, _, written⟩ := p.adjust_fields options
  rw [written] at made
  obtain ⟨_, _, _, _, failed⟩ | ⟨fine, tasted⟩ := adjustTaste_cases _ options.taste
  · cases failed.symm.trans made
  · cases tasted.symm.trans made
    -- Abilities, limits and menu are those of the payload that was adjusted.
    exact {
      duration := by
        intro minutes wanted able
        have sameAble : p.canSetDuration = true := able
        rw [wanted, adjustDuration_of_canSetDuration sameAble] at timed
        exact (congrArg Payload.duration timed).symm
      delay := by
        intro delay takes
        obtain ⟨rfl, rfl, rfl⟩ := taken delay takes
        rfl
      autoKeepWarm := by
        intro wanted able
        have sameAble : p.canSetAutoKeepWarm = true := able
        change (p.autoKeepWarm ||
          (options.autoKeepWarm == some true && p.canSetAutoKeepWarm)) = true
        rw [wanted, sameAble]
        exact Bool.or_true _
      taste := by
        intro taste wanted menu
        have sameMenu : p.menuId = 1 := menu
        refine ⟨UInt8.not_lt.mp fun firm => fine ⟨taste, wanted, menu, firm⟩, ?_⟩
        simp [sameMenu, wanted] }

/-- Adjusting leaves a payload alone exactly when it is settled. -/
theorem adjust_eq_self_iff : p.adjust options = .ok p ↔ p.Settled options :=
  ⟨settled_of_adjust, adjust_of_settled⟩

end Payload

/-! ## Opened again -/

/-- A profile that was adjusted, written and read is adjusted already. -/
theorem withOptions_toHex {text : String} {options : Options} {q : Profile}
    (opened : withOptions text options = .ok q) : withOptions q.toHex options = .ok q.refresh := by
  obtain ⟨_, _, made⟩ := exists_adjust_of_withOptions opened
  have again : q.payload.adjust options = .ok q.payload :=
    Payload.adjust_eq_self_iff.mpr (Payload.settled_of_adjust made)
  rw [withOptions, parse_toHex, Except.bind, adjust, refresh_payload, again]
  rfl

end RiceCooker.Profile
