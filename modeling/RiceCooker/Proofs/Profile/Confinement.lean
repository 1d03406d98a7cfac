import Mathlib.Tactic.FinCases
import RiceCooker.Proofs.Profile.Adjustment
import RiceCooker.Proofs.Profile.Session

/-! What a session cannot reach. The parts of a payload that say what can be
set are not settable, so the abilities of a profile bound every session with
it, and no setting spills into the field next to its own, not even where two
fields share a byte. -/
namespace RiceCooker.Profile

/-- A profile that differs from another only where the abilities of that other
one allow it. -/
structure Confined (p q : Profile) : Prop where
  fixed : ∀ position ∈ [0, 1, 3, 4, 5, 6, 7, 10, 11, 12, 13, 16],
    q.byteAt position = p.byteAt position
  canSchedule : q.payload.canSchedule = p.payload.canSchedule
  canSetAutoKeepWarm : q.payload.canSetAutoKeepWarm = p.payload.canSetAutoKeepWarm
  canSetDuration : q.payload.canSetDuration = p.payload.canSetDuration
  canChooseRice : q.payload.canChooseRice = p.payload.canChooseRice
  canConfigureTaste : q.payload.canConfigureTaste = p.payload.canConfigureTaste
  menuId : q.payload.menuId = p.payload.menuId
  cookTimeMin : q.payload.cookTimeMin.total = p.payload.cookTimeMin.total
  cookTimeMax : q.payload.cookTimeMax.total = p.payload.cookTimeMax.total
  /-- The duration, hours and minutes. -/
  duration : ∀ position ∈ [8, 9], q.byteAt position ≠ p.byteAt position →
    p.payload.canSetDuration = true
  /-- The hours and the minutes of the delay, each below a switch. -/
  delay : ∀ position ∈ [14, 15], numberOf (q.byteAt position) ≠ numberOf (p.byteAt position) →
    p.payload.canSchedule = true
  autoKeepWarm : switchOf (q.byteAt 15) ≠ switchOf (p.byteAt 15) →
    p.payload.canSetAutoKeepWarm = true
  riceId : ∀ position ∈ [17, 18], q.byteAt position ≠ p.byteAt position →
    p.payload.canChooseRice = true
  taste : q.byteAt 19 ≠ p.byteAt 19 → p.payload.canConfigureTaste = true ∧ q.byteAt 19 ≤ 2

/-- Only a taste writes the taste. -/
private theorem taste_of_writes {setting : Setting} (writes : setting.writes .taste = true) :
    ∃ taste, setting = .taste taste := by
  cases setting with
  | taste taste => exact ⟨taste, rfl⟩
  | _ => cases writes

/-- Fields that a session left alone are as they were, and the others were
written by settings that were taken. -/
theorem confined_withFields {p : Profile} {source : Field → Payload} {checksum : UInt16}
    (origin : ∀ field, source field = p.payload ∨ ∃ setting : Setting,
      setting.writes field = true ∧ p.payload.takes setting = true ∧
        source field = p.payload.written setting) :
    Confined p ⟨p.payload.withFields source, checksum⟩ := by
  have allowed (field : Field) (changed : source field ≠ p.payload) :
      p.payload.allows field = true := by
    obtain same | ⟨setting, writes, taken, _⟩ := origin field
    · exact absurd same changed
    · exact Payload.allows_of_takes taken writes
  exact {
    fixed := by
      intro position member
      fin_cases member <;> rfl
    canSchedule := rfl
    canSetAutoKeepWarm := rfl
    canSetDuration := rfl
    canChooseRice := rfl
    canConfigureTaste := rfl
    menuId := rfl
    cookTimeMin := rfl
    cookTimeMax := rfl
    duration := by
      intro position member changed
      refine allowed .duration fun same => changed ?_
      fin_cases member <;> simp [byteAt, Payload.bytes, Payload.withFields, same]
    delay := by
      intro position member changed
      refine allowed .scheduleDuration fun same => changed ?_
      fin_cases member <;> simp [byteAt, Payload.bytes, Payload.withFields, same]
    autoKeepWarm := by
      intro changed
      refine allowed .autoKeepWarm fun same => changed ?_
      simp [byteAt, Payload.bytes, Payload.withFields, same]
    riceId := by
      intro position member changed
      refine allowed .riceId fun same => changed ?_
      fin_cases member <;> simp [byteAt, Payload.bytes, Payload.withFields, same]
    taste := by
      intro changed
      obtain same | ⟨setting, writes, taken, written⟩ := origin .taste
      · exact absurd (congrArg Payload.taste same) changed
      · obtain ⟨taste, rfl⟩ := taste_of_writes writes
        obtain ⟨inRange, asked⟩ := Bool.and_eq_true_iff.mp taken
        refine ⟨asked, ?_⟩
        have last : byteAt ⟨p.payload.withFields source, checksum⟩ 19 = (source .taste).taste := rfl
        rw [last, written]
        exact of_decide_eq_true inRange }

theorem confined_run (p : Profile) (steps : List Step) : Confined p (p.run steps) := by
  have whole : p.run steps = ⟨(p.run steps).payload, (p.run steps).checksum⟩ := rfl
  rw [whole, payload_run]
  apply confined_withFields
  intro field
  cases last : p.payload.lastTaken steps field with
  | none => exact .inl rfl
  | some setting =>
    obtain ⟨writes, taken⟩ := Payload.writes_takes_of_lastTaken last
    exact .inr ⟨setting, writes, taken, rfl⟩

/-- A step that changes the payload is a setting that is taken. -/
theorem set_of_payload_step_ne {p : Profile} {step : Step}
    (changed : (p.step step).2.payload ≠ p.payload) :
    ∃ setting, step = .set setting ∧
      p.step step = (setting.confirmed, { p with payload := p.payload.written setting }) := by
  cases chosen : step.setting? with
  | none => exact absurd (payload_step_of_other p chosen) changed
  | some setting =>
    cases Step.eq_set_of_setting? chosen
    cases taken : p.payload.takes setting with
    | true => exact ⟨setting, rfl, step_set_of_takes taken⟩
    | false =>
      rw [payload_step_set, taken] at changed
      exact absurd rfl changed

/-- A step that answers that it did nothing is a setting that is not taken, or
a comparison with a text that holds no profile. -/
theorem step_eq_self_of_refused {p : Profile} {step : Step}
    (refused : (p.step step).1 = .outcome .unsupported ∨ ∃ error, (p.step step).1 = .refused error) :
    (p.step step).2 = p := by
  cases step with
  | set setting =>
    cases taken : p.payload.takes setting with
    | true =>
      rw [step_set_of_takes taken] at refused
      cases setting <;> simp [Setting.confirmed] at refused
    | false => exact step_set_eq_self taken
  | compare text => exact step_compare text
  | reread => simp [step, parse_toHex] at refused
  | _ => simp [step] at refused

/-- **A session changes a profile only where the profile allows it.** A single
step moves the place in the menu list only by setting it, switches the delay
only by its switch or by a delay that is taken, and keeps everything if it
answers that the profile has no use for it or that it failed. -/
theorem session_confined :
    (∀ (p : Profile) (steps : List Step), Confined p (p.run steps)) ∧
    ∀ (p : Profile) (step : Step),
      Confined p (p.step step).2 ∧
      ((p.step step).2.byteAt 2 ≠ p.byteAt 2 → ∃ index, step = .set (.menuIndex index)) ∧
      (switchOf ((p.step step).2.byteAt 14) ≠ switchOf (p.byteAt 14) →
        (∃ enabled, step = .set (.scheduleEnabled enabled)) ∨
        ((∃ minutes, step = .set (.scheduleDuration minutes)) ∧
          (p.step step).1 = .outcome .applied)) ∧
      ((p.step step).1 = .outcome .unsupported ∨ (∃ error, (p.step step).1 = .refused error) →
        (p.step step).2 = p) := by
  refine ⟨confined_run, fun p step => ⟨confined_run p [step], fun changed => ?_, fun changed => ?_,
    step_eq_self_of_refused⟩⟩
  · obtain ⟨setting, rfl, taken⟩ := set_of_payload_step_ne fun same =>
      changed (by rw [byteAt, byteAt, same])
    rw [taken] at changed
    cases setting with
    | menuIndex index => exact ⟨index, rfl⟩
    | _ => exact absurd rfl changed
  · obtain ⟨setting, rfl, taken⟩ := set_of_payload_step_ne fun same =>
      changed (by rw [byteAt, byteAt, same])
    rw [taken] at changed ⊢
    cases setting with
    | scheduleEnabled enabled => exact .inl ⟨enabled, rfl⟩
    | scheduleDuration minutes => exact .inr ⟨⟨minutes, rfl⟩, rfl⟩
    | _ => exact absurd rfl changed

/-- A delay switches itself on, a taste is taken and another one refused. -/
theorem white_rice_confined :
    switchOf ((whiteRice.step (.set (.scheduleDuration 100))).2.byteAt 14) ≠
        switchOf (whiteRice.byteAt 14) ∧
      (whiteRice.step (.set (.scheduleDuration 100))).1 = .outcome .applied ∧
      (whiteRice.run [.set (.taste 2), .toHex, .set (.taste 3)]).byteAt 19 ≠ whiteRice.byteAt 19 ∧
      (whiteRice.run [.set (.taste 2), .toHex, .set (.taste 3)]).byteAt 19 ≤ 2 ∧
      (whiteRice.step (.set (.taste 3))).1 = .refused (.invalidParameter "taste" "3") ∧
      (whiteRice.step (.set (.taste 3))).2 = whiteRice := by
  have switched : switchOf ((whiteRice.step (.set (.scheduleDuration 100))).2.byteAt 14) ≠
      switchOf (whiteRice.byteAt 14) := by decide
  have tasted : (whiteRice.run [.set (.taste 2), .toHex, .set (.taste 3)]).byteAt 19 ≠
      whiteRice.byteAt 19 := by decide +kernel
  have refused : (whiteRice.step (.set (.taste 3))).1 = .refused (.invalidParameter "taste" "3") := by
    decide
  refine ⟨switched, ?_, tasted, ((session_confined.1 _ _).taste tasted).2, refused,
    (session_confined.2 _ _).2.2.2 (.inr ⟨_, refused⟩)⟩
  obtain ⟨enabled, other⟩ | ⟨_, applied⟩ := (session_confined.2 _ _).2.2.1 switched
  · cases other
  · exact applied

end RiceCooker.Profile
