import RiceCooker.Proofs.Profile.Adjustment

/-! The delay among the adjustments. The other adjustments neither look at the
delay nor change what it is measured by, so it may as well be adjusted last; and
where none is taken, the profile keeps the delay that it was stored with. -/
namespace RiceCooker.Profile

namespace Payload
variable {p : Payload} {wanted : Option UInt16}

/-- The payload with a delay written into it and switched on. -/
def delayed (p : Payload) (delay : UInt16) : Payload := { p with
  scheduleEnabled := true
  scheduleHours := BitVec.ofNat 7 (delay.toNat / 60)
  scheduleMinutes := BitVec.ofNat 7 (delay.toNat % 60) }

theorem adjustSchedule_of_takes {delay : UInt16} (takes : p.TakesDelay wanted delay) :
    p.adjustSchedule wanted = p.delayed delay := by
  obtain ⟨_, _, _, written, taken, _⟩ := p.adjustSchedule_fields wanted
  obtain ⟨rfl, rfl, rfl⟩ := taken delay takes
  exact written

theorem adjustSchedule_of_refused (refused : ¬∃ delay, p.TakesDelay wanted delay) :
    p.adjustSchedule wanted = p := by
  obtain ⟨_, _, _, written, _, kept⟩ := p.adjustSchedule_fields wanted
  obtain ⟨rfl, rfl, rfl⟩ := kept refused
  exact written

/-- Whether and how a delay is written does not depend on what is adjusted after it. -/
theorem adjustSchedule_with (p : Payload) (wanted : Option UInt16) (autoKeepWarm : Bool)
    (taste : UInt8) :
    { p with autoKeepWarm, taste }.adjustSchedule wanted =
      { p.adjustSchedule wanted with autoKeepWarm, taste } := by
  by_cases takes : ∃ delay, p.TakesDelay wanted delay
  · obtain ⟨delay, takes⟩ := takes
    have sameTakes : { p with autoKeepWarm, taste }.TakesDelay wanted delay := takes
    rw [adjustSchedule_of_takes takes, adjustSchedule_of_takes sameTakes]
    rfl
  · have sameRefused : ¬∃ delay, { p with autoKeepWarm, taste }.TakesDelay wanted delay := takes
    rw [adjustSchedule_of_refused takes, adjustSchedule_of_refused sameRefused]

theorem adjustAutoKeepWarm_adjustSchedule (p : Payload) (wanted : Option UInt16)
    (keep : Option Bool) :
    (p.adjustSchedule wanted).adjustAutoKeepWarm keep =
      (p.adjustAutoKeepWarm keep).adjustSchedule wanted := by
  have moved := p.adjustSchedule_with wanted
    (p.autoKeepWarm || (keep == some true && p.canSetAutoKeepWarm)) p.taste
  obtain ⟨_, _, _, written, _, _⟩ := p.adjustSchedule_fields wanted
  rw [adjustAutoKeepWarm_eq p, moved, written, adjustAutoKeepWarm_eq]
  rfl

theorem adjustTaste_adjustSchedule (p : Payload) (wanted : Option UInt16) (taste : Option UInt8) :
    (p.adjustSchedule wanted).adjustTaste taste =
      (p.adjustTaste taste).map fun q => q.adjustSchedule wanted := by
  have sameAble : (p.adjustSchedule wanted).canConfigureTaste = p.canConfigureTaste := by
    obtain ⟨_, _, _, written, _, _⟩ := p.adjustSchedule_fields wanted
    rw [written, canConfigureTaste, canConfigureTaste]
  have sameKeep : (p.adjustSchedule wanted).autoKeepWarm = p.autoKeepWarm := by
    obtain ⟨_, _, _, written, _, _⟩ := p.adjustSchedule_fields wanted
    rw [written]
  cases taste with
  | none => rfl
  | some index =>
    have moved : { p.adjustSchedule wanted with taste := index } =
        { p with taste := index }.adjustSchedule wanted := by
      rw [p.adjustSchedule_with wanted p.autoKeepWarm index, ← sameKeep]
    simp only [adjustTaste, setTaste?, sameAble]
    split
    · split
      · rfl
      · exact congrArg Except.ok moved
    · rfl

/-- The delay may as well be adjusted last. -/
theorem adjust_eq_map (p : Payload) (options : Options) :
    p.adjust options =
      (p.adjust { options with schedule := none }).map fun q =>
        q.adjustSchedule options.schedule := by
  simp only [adjust]
  rw [adjustAutoKeepWarm_adjustSchedule, adjustTaste_adjustSchedule]
  rfl

/-- The same delay, switched on in both or in neither. -/
structure SameDelay (p q : Payload) : Prop where
  enabled : q.scheduleEnabled = p.scheduleEnabled
  hours : q.scheduleHours = p.scheduleHours
  minutes : q.scheduleMinutes = p.scheduleMinutes

theorem sameDelay_of_adjust {p q : Payload} {options : Options} (unscheduled : options.schedule = none)
    (made : p.adjust options = .ok q) : p.SameDelay q := by
  obtain ⟨_, _, _, _, _, _, kept, written⟩ := p.adjust_fields options
  have untaken : ∀ r : Payload, ¬∃ delay, r.TakesDelay options.schedule delay := by
    rintro r ⟨delay, wanted, _⟩
    cases unscheduled.symm.trans wanted
  obtain ⟨rfl, rfl, rfl⟩ := kept (untaken _)
  rw [written] at made
  obtain ⟨_, _, _, _, failed⟩ | ⟨_, tasted⟩ := adjustTaste_cases _ options.taste
  · cases failed.symm.trans made
  · cases tasted.symm.trans made
    exact ⟨rfl, rfl, rfl⟩

end Payload

/-! ## Opened profiles -/

theorem withOptions_eq_map (text : String) (options : Options) :
    withOptions text options =
      (withOptions text { options with schedule := none }).map fun q =>
        { q with payload := q.payload.adjustSchedule options.schedule } := by
  rw [withOptions, withOptions]
  cases parse text with
  | error error => rfl
  | ok stored =>
    simp only [Except.bind, adjust]
    rw [Payload.adjust_eq_map]
    cases stored.payload.adjust { options with schedule := none } <;> rfl

/-- A profile that was opened is one that was read, with an adjusted payload. -/
theorem exists_adjust_of_withOptions {text : String} {opened : Profile} {options : Options}
    (made : withOptions text options = .ok opened) :
    ∃ stored, parse text = .ok stored ∧ stored.payload.adjust options = .ok opened.payload := by
  rw [withOptions] at made
  cases read : parse text with
  | error error =>
    rw [read] at made
    cases made
  | ok stored =>
    rw [read] at made
    simp only [Except.bind, adjust] at made
    cases adjusted : stored.payload.adjust options with
    | error error =>
      rw [adjusted] at made
      cases made
    | ok payload =>
      rw [adjusted] at made
      cases made
      exact ⟨stored, rfl, adjusted⟩

theorem sameDelay_of_withOptions {text : String} {stored opened : Profile} {options : Options}
    (read : parse text = .ok stored) (unscheduled : options.schedule = none)
    (made : withOptions text options = .ok opened) : stored.payload.SameDelay opened.payload := by
  obtain ⟨other, again, adjusted⟩ := exists_adjust_of_withOptions made
  cases read.symm.trans again
  exact Payload.sameDelay_of_adjust unscheduled adjusted

end RiceCooker.Profile
