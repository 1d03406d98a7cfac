import Mathlib.Data.List.Induction
import RiceCooker.Profile.Edit
import RiceCooker.Proofs.Profile.RoundTrip

/-! What one step of a session can do. A setting is taken or it changes
nothing, and whether it is taken, and what it writes, depends only on parts of
the payload that no setting writes. A session is therefore described field by
field, by the last setting that was taken for each. -/
namespace RiceCooker.Profile

/-! ## Settings and their fields -/

/-- What a setting can be about. The delay is one field, its hours and minutes
together; its switch is another. -/
inductive Field where
  | menuIndex
  | duration
  | scheduleEnabled
  | scheduleDuration
  | autoKeepWarm
  | riceId
  | taste
deriving DecidableEq

namespace Setting

/-- The field that a setting names. -/
def field : Setting → Field
  | .menuIndex _ => .menuIndex
  | .duration _ => .duration
  | .scheduleEnabled _ => .scheduleEnabled
  | .scheduleDuration _ => .scheduleDuration
  | .autoKeepWarm _ => .autoKeepWarm
  | .riceId _ => .riceId
  | .taste _ => .taste

/-- Whether a setting writes a field: the one it names, and with a delay also
the switch of the delay. -/
def writes (setting : Setting) (field : Field) : Bool :=
  setting.field == field || (setting.field == .scheduleDuration && field == .scheduleEnabled)

/-- The first of the two neighbouring bytes that a setting can change. -/
def place : Setting → ℕ
  | .menuIndex _ => 2
  | .duration _ => 8
  | .scheduleEnabled _ | .scheduleDuration _ | .autoKeepWarm _ => 14
  | .riceId _ => 17
  | .taste _ => 18

/-- Only a taste can be out of range. -/
def inRange : Setting → Bool
  | .taste index => decide (index ≤ 2)
  | _ => true

/-- The answer to a setting that was taken. -/
def confirmed : Setting → Answer
  | .menuIndex _ => .done
  | _ => .outcome .applied

end Setting

namespace Payload

/-- Whether a payload has a use for a field. -/
def allows (p : Payload) : Field → Bool
  | .menuIndex | .scheduleEnabled => true
  | .duration => p.canSetDuration
  | .scheduleDuration => p.canSchedule
  | .autoKeepWarm => p.canSetAutoKeepWarm
  | .riceId => p.canChooseRice
  | .taste => p.canConfigureTaste

/-- Whether a setting has an effect. -/
def takes (p : Payload) (setting : Setting) : Bool := setting.inRange && p.allows setting.field

/-- The payload with a setting written into it, whether or not it is taken. -/
def written (p : Payload) : Setting → Payload
  | .menuIndex index => p.withMenuIndex index
  | .duration minutes => { p with duration := .ofMinutes (p.clampDuration minutes) }
  | .scheduleEnabled enabled => p.withScheduleEnabled enabled
  | .scheduleDuration minutes => { p with
      scheduleEnabled := true
      scheduleHours := BitVec.ofNat 7 (minutes.toNat / 60)
      scheduleMinutes := BitVec.ofNat 7 (minutes.toNat % 60) }
  | .autoKeepWarm enabled => { p with autoKeepWarm := enabled }
  | .riceId riceId => { p with riceId := if riceId.toNat < 65536 then riceId.toUInt16 else 0 }
  | .taste taste => { p with taste }

/-- The payload with each field as another payload has it, not necessarily the
same one for all of them. -/
def withFields (p : Payload) (source : Field → Payload) : Payload := { p with
  menuIndex := (source .menuIndex).menuIndex
  duration := (source .duration).duration
  scheduleEnabled := (source .scheduleEnabled).scheduleEnabled
  scheduleHours := (source .scheduleDuration).scheduleHours
  scheduleMinutes := (source .scheduleDuration).scheduleMinutes
  autoKeepWarm := (source .autoKeepWarm).autoKeepWarm
  riceId := (source .riceId).riceId
  taste := (source .taste).taste }

variable (p : Payload) (source : Field → Payload) (setting : Setting)

/-- No setting writes what decides whether settings are taken. -/
theorem takes_withFields : (p.withFields source).takes setting = p.takes setting := by
  cases setting <;> rfl

theorem written_withFields :
    (p.withFields source).written setting =
      p.withFields fun field => if setting.writes field then p.written setting else source field := by
  cases setting <;> rfl

/-- A setting overwrites two neighbouring bytes, one of them often with what it
was. -/
theorem bytes_written : ∃ first second, (p.written setting).bytes =
    (p.bytes.set setting.place first).set (setting.place + 1) second := by
  cases setting <;> exact ⟨_, _, rfl⟩

theorem getD_bytes_written {position : ℕ} (notFirst : position ≠ setting.place)
    (notSecond : position ≠ setting.place + 1) :
    (p.written setting).bytes.getD position 0 = p.bytes.getD position 0 := by
  obtain ⟨first, second, overwritten⟩ := p.bytes_written setting
  rw [overwritten, List.getD_eq_getElem?_getD, List.getD_eq_getElem?_getD,
    List.getElem?_set_ne notSecond.symm, List.getElem?_set_ne notFirst.symm]

theorem allows_of_takes {p : Payload} {setting : Setting} {field : Field}
    (taken : p.takes setting = true) (written : setting.writes field = true) :
    p.allows field = true := by
  obtain ⟨_, useful⟩ := Bool.and_eq_true_iff.mp taken
  rcases Bool.or_eq_true_iff.mp written with named | switch
  · rw [← eq_of_beq named]
    exact useful
  · obtain ⟨_, named⟩ := Bool.and_eq_true_iff.mp switch
    rw [eq_of_beq named]
    rfl

end Payload

/-! ## One step -/

section Step
variable {p : Profile} {setting : Setting}

/-- All settings but the taste go the same way. -/
private theorem set_of_ne_taste (other : ∀ taste, setting ≠ .taste taste) :
    p.set setting = .ok (p.accept
      (if p.payload.takes setting then some (p.payload.written setting) else none)) := by
  cases setting with
  | taste taste => exact absurd rfl (other taste)
  | _ => rfl

theorem set_of_takes (taken : p.payload.takes setting = true) :
    p.set setting = .ok (.applied, { p with payload := p.payload.written setting }) := by
  cases setting with
  | taste taste =>
    obtain ⟨inRange, able⟩ := Bool.and_eq_true_iff.mp taken
    have soft : ¬Payload.maxTaste < taste := UInt8.not_lt.mpr (of_decide_eq_true inRange)
    have asked : p.payload.canConfigureTaste = true := able
    simp only [set, setTaste, Payload.setTaste?, asked, soft, ↓reduceIte]
    rfl
  | _ =>
    rw [set_of_ne_taste, if_pos taken]
    · rfl
    · nofun

/-- A setting that is not taken is unsupported, or a taste that the menu asks
for and that is out of range. -/
theorem set_of_not_takes (left : p.payload.takes setting = false) :
    p.set setting = .ok (.unsupported, p) ∨ ∃ taste, setting = .taste taste ∧
      p.set setting = .error (.invalidParameter "taste" (toString taste.toNat)) := by
  cases setting with
  | taste taste =>
    simp only [set, setTaste, Payload.setTaste?]
    split
    · split
      · exact .inr ⟨taste, rfl, rfl⟩
      · rename_i able soft
        have inRange : taste ≤ Payload.maxTaste := UInt8.not_lt.mp soft
        have taken : p.payload.takes (.taste taste) = true :=
          Bool.and_eq_true_iff.mpr ⟨decide_eq_true inRange, able⟩
        rw [left] at taken
        cases taken
    · exact .inl rfl
  | _ =>
    rw [set_of_ne_taste, left]
    · exact .inl rfl
    · nofun

theorem step_set_of_takes (taken : p.payload.takes setting = true) :
    p.step (.set setting) = (setting.confirmed, { p with payload := p.payload.written setting }) := by
  have written := set_of_takes taken
  cases setting with
  | menuIndex index => rfl
  | _ => simp only [step, written, Setting.confirmed]

theorem step_set_of_not_takes (left : p.payload.takes setting = false) :
    p.step (.set setting) = (.outcome .unsupported, p) ∨ ∃ taste, setting = .taste taste ∧
      p.step (.set setting) =
        (.refused (.invalidParameter "taste" (toString taste.toNat)), p) := by
  obtain unsupported | ⟨taste, rfl, refused⟩ := set_of_not_takes left
  · refine .inl ?_
    cases setting with
    | menuIndex index => cases left
    | _ => simp only [step, unsupported]
  · exact .inr ⟨taste, rfl, by simp only [step, refused]⟩

theorem step_set_eq_self (left : p.payload.takes setting = false) :
    (p.step (.set setting)).2 = p := by
  obtain answer | ⟨_, _, answer⟩ := step_set_of_not_takes left
  · rw [answer]
  · rw [answer]

theorem payload_step_set (p : Profile) (setting : Setting) :
    (p.step (.set setting)).2.payload =
      if p.payload.takes setting then p.payload.written setting else p.payload := by
  cases taken : p.payload.takes setting with
  | true =>
    rw [step_set_of_takes taken]
    rfl
  | false =>
    rw [step_set_eq_self taken]
    rfl

/-- The setting that a step makes. -/
def Step.setting? : Step → Option Setting
  | .set setting => some setting
  | _ => none

theorem Step.eq_set_of_setting? {step : Step} (chosen : step.setting? = some setting) :
    step = .set setting := by
  cases step <;> cases chosen
  rfl

/-- Whether a step brings the checksum up to date. -/
def Step.refreshes : Step → Bool
  | .refresh | .toBytes | .toHex | .reread => true
  | .set _ | .compare _ => false

theorem step_of_refreshes {step : Step} (refreshes : step.refreshes = true) :
    (p.step step).2 = p.refresh := by
  cases step with
  | refresh => rfl
  | toBytes => rfl
  | toHex => rfl
  | reread => simp only [Profile.step, parse_toHex]
  | set setting => cases refreshes
  | compare text => cases refreshes

theorem step_compare (text : String) : (p.step (.compare text)).2 = p := by
  simp only [step]
  split <;> rfl

/-- A step that is no setting keeps the payload. -/
theorem payload_step_of_other {step : Step} (p : Profile) (other : step.setting? = none) :
    (p.step step).2.payload = p.payload := by
  cases step with
  | set setting => cases other
  | compare text => rw [step_compare]
  | _ => rw [step_of_refreshes rfl, refresh_payload]

/-- A step that refreshes nothing keeps the stored checksum, right or wrong. -/
theorem checksum_step {step : Step} (p : Profile) (stale : step.refreshes = false) :
    (p.step step).2.checksum = p.checksum := by
  cases step with
  | set setting =>
    cases taken : p.payload.takes setting with
    | true => rw [step_set_of_takes taken]
    | false => rw [step_set_eq_self taken]
  | compare text => rw [step_compare]
  | _ => cases stale

end Step

/-! ## All steps -/

/-- The last of the steps to set a field with effect. -/
def Payload.lastTaken (p : Payload) (steps : List Step) (field : Field) : Option Setting :=
  ((steps.filterMap Step.setting?).filter fun setting =>
    setting.writes field && p.takes setting).getLast?

theorem Payload.lastTaken_append_set (p : Payload) (steps : List Step) (setting : Setting)
    (field : Field) :
    p.lastTaken (steps ++ [.set setting]) field =
      if setting.writes field && p.takes setting then some setting
      else p.lastTaken steps field := by
  simp only [lastTaken, List.filterMap_append, List.filterMap_cons, List.filterMap_nil,
    Step.setting?, List.filter_append, List.filter_cons, List.filter_nil]
  split
  · exact List.getLast?_concat
  · rw [List.append_nil]

theorem Payload.lastTaken_append_other (p : Payload) (steps : List Step) {step : Step}
    (other : step.setting? = none) (field : Field) :
    p.lastTaken (steps ++ [step]) field = p.lastTaken steps field := by
  simp only [lastTaken, List.filterMap_append, List.filterMap_cons, List.filterMap_nil, other,
    List.append_nil]

theorem Payload.writes_takes_of_lastTaken {p : Payload} {steps : List Step} {field : Field} {setting : Setting}
    (last : p.lastTaken steps field = some setting) :
    setting.writes field = true ∧ p.takes setting = true := by
  obtain ⟨_, effective⟩ := List.mem_filter.mp (List.mem_of_getLast? last)
  exact Bool.and_eq_true_iff.mp effective

/-- **The payload after a session has each field as the last setting taken for
it leaves the payload it began with.** -/
theorem payload_run (p : Profile) (steps : List Step) :
    (p.run steps).payload = p.payload.withFields fun field =>
      (p.payload.lastTaken steps field).elim p.payload p.payload.written := by
  -- From the end: the last step decides the fields that it writes, and the steps before it the
  -- others, also where they have changed the payload that the last step meets.
  induction steps using List.reverseRecOn with
  | nil => rfl
  | append_singleton before step ih =>
    rw [run_append, run_cons, run_nil]
    cases chosen : step.setting? with
    | none =>
      rw [payload_step_of_other _ chosen, ih]
      simp only [Payload.lastTaken_append_other _ _ chosen]
    | some setting =>
      cases Step.eq_set_of_setting? chosen
      rw [payload_step_set, ih, Payload.takes_withFields, Payload.written_withFields]
      simp only [Payload.lastTaken_append_set]
      cases p.payload.takes setting with
      | false => simp only [Bool.and_false, Bool.false_eq_true, ↓reduceIte]
      | true =>
        simp only [Bool.and_true, ↓reduceIte]
        congr
        funext field
        split <;> rfl

theorem checksum_run (p : Profile) {steps : List Step}
    (stale : ∀ step ∈ steps, step.refreshes = false) : (p.run steps).checksum = p.checksum := by
  induction steps generalizing p with
  | nil => rfl
  | cons step rest ih =>
    rw [run_cons, ih _ fun later member => stale later (List.mem_cons_of_mem _ member),
      checksum_step p (stale step List.mem_cons_self)]

/-- The stored checksum belongs to the payload as the last refresh found it. -/
theorem checksum_run_of_refreshes (p : Profile) (before : List Step) {step : Step} {after : List Step}
    (refreshes : step.refreshes = true) (stale : ∀ later ∈ after, later.refreshes = false) :
    (p.run (before ++ step :: after)).checksum = Checksum.crc (p.run before).payload.bytes := by
  rw [run_append, run_cons, checksum_run _ stale, step_of_refreshes refreshes]
  rfl

end RiceCooker.Profile
