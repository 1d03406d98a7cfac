import Mathlib.Tactic.IntervalCases
import RiceCooker.Profile.Options
import RiceCooker.Proofs.Profile.Acceptance

/-! What opening a profile with options does to its bytes. Each adjustment is
described by what it writes and by when it writes; the last of them can fail,
and then nothing is left of the others. -/
namespace RiceCooker.Profile
open Text

/-! ## One adjustment at a time -/

namespace Payload

theorem adjustDuration_eq (p : Payload) (wanted : Option UInt16) :
    p.adjustDuration wanted = { p with duration := (p.adjustDuration wanted).duration } := by
  unfold adjustDuration setDuration?
  cases wanted with
  | none => rfl
  | some minutes => by_cases able : p.canSetDuration = true <;> simp [able]

/-- A delay that a payload takes: it can start later, the delay outlasts the
cooking, and it is no longer than a day. -/
def TakesDelay (p : Payload) (wanted : Option UInt16) (delay : UInt16) : Prop :=
  wanted = some delay ∧ p.canSchedule = true ∧ p.duration.total < delay ∧ delay ≤ 1440

/-- Adjusting the delay writes three fields, and writes them only with a delay
that is taken. -/
theorem adjustSchedule_fields (p : Payload) (wanted : Option UInt16) :
    ∃ enabled hours minutes,
      p.adjustSchedule wanted = { p with
        scheduleEnabled := enabled
        scheduleHours := hours
        scheduleMinutes := minutes } ∧
      (∀ delay, p.TakesDelay wanted delay → enabled = true ∧
        hours = BitVec.ofNat 7 (delay.toNat / 60) ∧
        minutes = BitVec.ofNat 7 (delay.toNat % 60)) ∧
      ((¬∃ delay, p.TakesDelay wanted delay) → enabled = p.scheduleEnabled ∧
        hours = p.scheduleHours ∧ minutes = p.scheduleMinutes) := by
  by_cases taken : ∃ delay, p.TakesDelay wanted delay
  · obtain ⟨delay, rfl, able, later, day⟩ := taken
    have gate : p.duration.total < delay ∧ delay ≤ maxScheduleMinutes := ⟨later, day⟩
    refine ⟨true, BitVec.ofNat 7 (delay.toNat / 60), BitVec.ofNat 7 (delay.toNat % 60),
      by simp [adjustSchedule, gate, setScheduleDuration?, able], ?_, ?_⟩
    · rintro other ⟨same, _⟩
      cases same
      exact ⟨rfl, rfl, rfl⟩
    · intro refused
      exact absurd ⟨delay, rfl, able, later, day⟩ refused
  · refine ⟨p.scheduleEnabled, p.scheduleHours, p.scheduleMinutes, ?_, ?_, fun _ => ⟨rfl, rfl, rfl⟩⟩
    · cases wanted with
      | none => rfl
      | some delay =>
        by_cases gate : p.duration.total < delay ∧ delay ≤ maxScheduleMinutes
        · have unable : p.canSchedule ≠ true :=
            fun able => taken ⟨delay, rfl, able, gate.1, gate.2⟩
          simp [adjustSchedule, setScheduleDuration?, unable]
        · exact if_neg gate
    · intro delay takes
      exact absurd ⟨delay, takes⟩ taken

theorem adjustAutoKeepWarm_eq (p : Payload) (wanted : Option Bool) :
    p.adjustAutoKeepWarm wanted = { p with
      autoKeepWarm := p.autoKeepWarm || (wanted == some true && p.canSetAutoKeepWarm) } := by
  unfold adjustAutoKeepWarm setAutoKeepWarm?
  match wanted with
  | none => simp
  | some false => simp
  | some true => by_cases able : p.canSetAutoKeepWarm = true <;> simp [able]

/-- A taste fails exactly when the menu asks for one and it is firmer than the
firmest. -/
theorem adjustTaste_cases (p : Payload) (wanted : Option UInt8) :
    (∃ taste, wanted = some taste ∧ p.menuId = 1 ∧ 2 < taste ∧
      p.adjustTaste wanted = .error (.invalidParameter "taste" (toString taste.toNat))) ∨
    ((¬∃ taste, wanted = some taste ∧ p.menuId = 1 ∧ 2 < taste) ∧
      p.adjustTaste wanted =
        .ok { p with taste := if p.menuId = 1 then wanted.getD p.taste else p.taste }) := by
  cases wanted with
  | none =>
    refine .inr ⟨?_, by simp [adjustTaste]⟩
    rintro ⟨taste, absent, _⟩
    cases absent
  | some taste =>
    by_cases asked : p.menuId = 1
    · have able : p.canConfigureTaste = true := by simp [canConfigureTaste, tasteMenu, asked]
      by_cases firm : 2 < taste
      · have above : maxTaste < taste := firm
        exact .inl ⟨taste, rfl, asked, firm, by
          simp [adjustTaste, setTaste?, able, above, Except.map]⟩
      · have within : ¬maxTaste < taste := firm
        refine .inr ⟨?_, by simp [adjustTaste, setTaste?, able, within, asked, Except.map]⟩
        rintro ⟨other, same, _, above⟩
        cases same
        exact firm above
    · have unable : p.canConfigureTaste = false := by simp [canConfigureTaste, tasteMenu, asked]
      refine .inr ⟨?_, by simp [adjustTaste, setTaste?, unable, asked, Except.map]⟩
      rintro ⟨_, _, menu, _⟩
      exact asked menu

/-- What the adjustments in front of the taste have written when the taste is
adjusted. None of them is in the way of another. -/
theorem adjust_fields (p : Payload) (options : Options) :
    ∃ time enabled hours minutes,
      p.adjustDuration options.duration = { p with duration := time } ∧
      (∀ delay, TakesDelay { p with duration := time } options.schedule delay → enabled = true ∧
        hours = BitVec.ofNat 7 (delay.toNat / 60) ∧
        minutes = BitVec.ofNat 7 (delay.toNat % 60)) ∧
      ((¬∃ delay, TakesDelay { p with duration := time } options.schedule delay) →
        enabled = p.scheduleEnabled ∧ hours = p.scheduleHours ∧ minutes = p.scheduleMinutes) ∧
      p.adjust options = adjustTaste { p with
        duration := time
        scheduleEnabled := enabled
        scheduleHours := hours
        scheduleMinutes := minutes
        autoKeepWarm := p.autoKeepWarm ||
          (options.autoKeepWarm == some true && p.canSetAutoKeepWarm) } options.taste := by
  have timed := p.adjustDuration_eq options.duration
  generalize (p.adjustDuration options.duration).duration = time at timed
  obtain ⟨enabled, hours, minutes, written, taken, kept⟩ :=
    adjustSchedule_fields { p with duration := time } options.schedule
  refine ⟨time, enabled, hours, minutes, timed, taken, kept, ?_⟩
  rw [adjust, timed, written, adjustAutoKeepWarm_eq]
  rfl

end Payload

/-! ## All adjustments -/

/-- A byte of the payload. -/
def byteAt (p : Profile) (position : ℕ) : UInt8 := p.payload.bytes.getD position 0

/-- What a profile opened with options owes to the profile as it was stored. -/
structure Adjusted (p : Profile) (options : Options) (q : Profile) : Prop where
  /-- The duration is the one wanted, as setting it would leave it. -/
  duration : ∀ position ∈ [8, 9], q.byteAt position =
    match options.duration with
    | some minutes =>
      if p.payload.canSetDuration then (p.setDuration minutes).2.byteAt position
      else p.byteAt position
    | none => p.byteAt position
  /-- A delay that outlasts the new duration and is at most a day is taken. -/
  schedule_taken : ∀ minutes, options.schedule = some minutes → p.payload.canSchedule = true →
    q.payload.duration.total < minutes → minutes ≤ 1440 →
      q.payload.scheduleEnabled = true ∧ q.payload.scheduleDuration = minutes
  /-- Any other delay is not. -/
  schedule_kept : (¬∃ minutes, options.schedule = some minutes ∧ p.payload.canSchedule = true ∧
    q.payload.duration.total < minutes ∧ minutes ≤ 1440) →
      q.byteAt 14 = p.byteAt 14 ∧ numberOf (q.byteAt 15) = numberOf (p.byteAt 15)
  /-- Keeping warm is switched on or left alone. -/
  autoKeepWarm : switchOf (q.byteAt 15) =
    (switchOf (p.byteAt 15) || (options.autoKeepWarm == some true && p.payload.canSetAutoKeepWarm))
  /-- The taste is the one wanted where the menu asks for one. -/
  taste : q.byteAt 19 =
    if p.payload.menuId = 1 then options.taste.getD (p.byteAt 19) else p.byteAt 19
  /-- The other bytes are as they were. -/
  rest : ∀ position < 20, position ∉ [8, 9, 14, 15, 19] → q.byteAt position = p.byteAt position
  /-- So is the stored checksum. -/
  checksum : q.checksum = p.checksum

private theorem byteAt_adjustDuration (p : Profile) (wanted : Option UInt16) (position : ℕ) :
    byteAt ⟨p.payload.adjustDuration wanted, p.checksum⟩ position =
      match wanted with
      | some minutes =>
        if p.payload.canSetDuration then (p.setDuration minutes).2.byteAt position
        else p.byteAt position
      | none => p.byteAt position := by
  cases wanted with
  | none => rfl
  | some minutes =>
    by_cases able : p.payload.canSetDuration = true
    · simp [Payload.adjustDuration, Payload.setDuration?, setDuration, accept, able]
    · simp [Payload.adjustDuration, Payload.setDuration?, able]

/-- A delay of at most a day reads back as it was written. -/
theorem scheduleDuration_of_minutes (p : Payload) {minutes : UInt16}
    (day : minutes ≤ 1440) (hours : p.scheduleHours = BitVec.ofNat 7 (minutes.toNat / 60))
    (rest : p.scheduleMinutes = BitVec.ofNat 7 (minutes.toNat % 60)) :
    p.scheduleDuration = minutes := by
  have bound : minutes.toNat ≤ 1440 := UInt16.le_iff_toNat_le.mp day
  apply UInt16.toNat_inj.mp
  rw [Payload.toNat_scheduleDuration_of_minutes hours rest, Nat.mod_eq_of_lt (by omega)]

/-- The fields that adjustments write are all in bytes of their own, except for
the minutes of the delay, which share theirs with the switch for keeping warm. -/
private theorem adjusted_of_fields {p : Profile} {options : Options} {time : HourMinute}
    {enabled : Bool} {hours minutes : BitVec 7}
    (times : ∀ position, byteAt ⟨{ p.payload with duration := time }, p.checksum⟩ position =
      match options.duration with
      | some minutes =>
        if p.payload.canSetDuration then (p.setDuration minutes).2.byteAt position
        else p.byteAt position
      | none => p.byteAt position)
    (taken : ∀ delay, Payload.TakesDelay { p.payload with duration := time } options.schedule delay →
      enabled = true ∧ hours = BitVec.ofNat 7 (delay.toNat / 60) ∧
        minutes = BitVec.ofNat 7 (delay.toNat % 60))
    (kept : (¬∃ delay, Payload.TakesDelay { p.payload with duration := time } options.schedule delay) →
      enabled = p.payload.scheduleEnabled ∧ hours = p.payload.scheduleHours ∧
        minutes = p.payload.scheduleMinutes) :
    Adjusted p options ⟨{ p.payload with
      duration := time
      scheduleEnabled := enabled
      scheduleHours := hours
      scheduleMinutes := minutes
      autoKeepWarm := p.payload.autoKeepWarm ||
        (options.autoKeepWarm == some true && p.payload.canSetAutoKeepWarm)
      taste := if p.payload.menuId = 1 then options.taste.getD p.payload.taste
        else p.payload.taste }, p.checksum⟩ where
  duration := by
    intro position member
    rw [← times]
    simp only [List.mem_cons, List.not_mem_nil, or_false] at member
    rcases member with rfl | rfl <;> rfl
  schedule_taken := by
    intro delay wanted able later day
    obtain ⟨on, hoursWritten, minutesWritten⟩ := taken delay ⟨wanted, able, later, day⟩
    exact ⟨on, scheduleDuration_of_minutes _ day hoursWritten minutesWritten⟩
  schedule_kept := by
    intro refused
    obtain ⟨same, sameHours, sameMinutes⟩ := kept refused
    simp [byteAt, Payload.bytes, same, sameHours, sameMinutes]
  autoKeepWarm := by simp [byteAt, Payload.bytes]
  taste := rfl
  rest := by
    intro position bound other
    interval_cases position <;> first | rfl | simp at other
  checksum := rfl

/-- Adjusting fails for the taste, or leaves what it owes. -/
theorem adjust_cases (p : Profile) (options : Options) :
    (∃ taste, options.taste = some taste ∧ p.payload.menuId = 1 ∧ 2 < taste ∧
      p.adjust options = .error (.invalidParameter "taste" (toString taste.toNat))) ∨
    ((¬∃ taste, options.taste = some taste ∧ p.payload.menuId = 1 ∧ 2 < taste) ∧
      ∃ q, p.adjust options = .ok q ∧ Adjusted p options q) := by
  obtain ⟨time, enabled, hours, minutes, timed, taken, kept, written⟩ :=
    p.payload.adjust_fields options
  have times := byteAt_adjustDuration p options.duration
  rw [timed] at times
  have made : p.adjust options =
      (p.payload.adjust options).map fun payload => { p with payload } := rfl
  rw [written] at made
  obtain ⟨taste, asked, menu, firm, failed⟩ | ⟨fine, tasted⟩ :=
    Payload.adjustTaste_cases _ options.taste
  · rw [failed] at made
    exact .inl ⟨taste, asked, menu, firm, made⟩
  · rw [tasted] at made
    exact .inr ⟨fine, _, made, adjusted_of_fields times taken kept⟩

/-- **Opening with options fails as reading does, or for the taste, or gives
the stored profile with exactly the adjustments that it allows.** -/
theorem withOptions_result (text : String) (options : Options) :
    (∀ error, parse text = .error error → withOptions text options = .error error) ∧
    ∀ p, parse text = .ok p →
      (∀ error, withOptions text options = .error error ↔
        ∃ taste, options.taste = some taste ∧ p.payload.menuId = 1 ∧ 2 < taste ∧
          error = .invalidParameter "taste" (toString taste.toNat)) ∧
      ((¬∃ taste, options.taste = some taste ∧ p.payload.menuId = 1 ∧ 2 < taste) →
        ∃ q, withOptions text options = .ok q ∧ Adjusted p options q) := by
  refine ⟨fun error refused => by rw [withOptions, refused]; rfl, fun p read => ?_⟩
  have opened : withOptions text options = p.adjust options := by rw [withOptions, read]; rfl
  rw [opened]
  obtain ⟨taste, asked, menu, firm, failed⟩ | ⟨fine, q, made, adjusted⟩ := adjust_cases p options
  · refine ⟨fun error => ?_, fun fine => absurd ⟨taste, asked, menu, firm⟩ fine⟩
    rw [failed]
    constructor
    · intro same
      cases same
      exact ⟨taste, asked, menu, firm, rfl⟩
    · rintro ⟨other, again, _, _, rfl⟩
      cases asked.symm.trans again
      rfl
  · refine ⟨fun error => ?_, fun _ => ⟨q, made, adjusted⟩⟩
    rw [made]
    constructor
    · intro impossible
      cases impossible
    · rintro ⟨taste, asked, menu, firm, _⟩
      exact absurd ⟨taste, asked, menu, firm⟩ fine

/-- Everything is wanted of white rice, and the delay is as long as it may be. -/
theorem withOptions_white_rice :
    parse "0201000000000160001e0100000a00000000010100fc" = .ok whiteRice ∧
      ∃ q, withOptions "0201000000000160001e0100000a00000000010100fc"
          ⟨some 90, some 1440, some true, some 2⟩ = .ok q ∧
        Adjusted whiteRice ⟨some 90, some 1440, some true, some 2⟩ q := by
  refine ⟨parse_whiteRice, ((withOptions_result _ _).2 whiteRice parse_whiteRice).2 ?_⟩
  rintro ⟨taste, asked, _, firm⟩
  cases asked
  exact absurd firm (by decide)

end RiceCooker.Profile
