import RiceCooker.Proofs.Clock.Minutes
import RiceCooker.Proofs.Cooker.Starting
import RiceCooker.Proofs.Profile.Delay

/-! From the wish to begin at an instant to the profile that is sent. The delay
is the whole minutes that are left, exact to the nanosecond; one that the
profile does not take makes no difference at all, and then the delay that the
profile was stored with is the one that is sent. -/
namespace RiceCooker.Cooker
open Conversation Profile

/-- Starting with these options gets as far as a request. -/
def Reaches (cooker : Cooker) (text : String) (options : Profile.Options)
    (exchange : Exchange) : Prop :=
  (run (cooker.startProfile text options) exchange).2.calls ≠ exchange.calls

section Sending
variable {cooker : Cooker} {text : String} {options : Profile.Options} {exchange : Exchange}

theorem Sends.reaches {profile : Profile} (sends : cooker.Sends text options exchange profile) :
    cooker.Reaches text options exchange := by
  obtain ⟨sent, calls, _⟩ := sends
  rw [Reaches, calls]
  simp

/-- Only one profile is sent. -/
theorem Sends.unique {first second : Profile} (one : cooker.Sends text options exchange first)
    (other : cooker.Sends text options exchange second) : first = second := by
  obtain ⟨sent, calls, read⟩ := one
  obtain ⟨again, sameCalls, sameRead⟩ := other
  have same := List.append_cancel_left (calls.symm.trans sameCalls)
  simp only [List.cons.injEq, Call.action.injEq, Parameter.mk.injEq, Value.text.injEq, true_and,
    and_true] at same
  rw [same, sameRead] at read
  exact (Except.ok.inj read).symm

theorem exists_withOptions_of_reaches (reached : cooker.Reaches text options exchange) :
    ∃ profile, withOptions text options = .ok profile := by
  cases opened : withOptions text options with
  | ok profile => exact ⟨profile, rfl⟩
  | error error =>
    rw [Reaches, run_startProfile_of_error cooker exchange opened] at reached
    exact absurd (Exchange.calls_remarking _ _) reached

end Sending

/-- The delay that a payload takes from an instant is the minutes until then. -/
theorem takesDelay_minutesUntil?_iff (p : Payload) (instant now : Instant) (delay : UInt16) :
    p.TakesDelay (instant.minutesUntil? now) delay ↔
      p.canSchedule = true ∧ (p.duration.total.toNat : Int) < instant.minutesAhead now ∧
        instant.minutesAhead now ≤ 1440 ∧ (delay.toNat : Int) = instant.minutesAhead now := by
  have day : (1440 : UInt16).toNat = 1440 := rfl
  rw [Payload.TakesDelay, UInt16.lt_iff_toNat_lt, UInt16.le_iff_toNat_le, day]
  obtain ⟨passed, absent⟩ | ⟨minutes, left, held, found⟩ := instant.minutesUntil?_cases now
  · rw [absent]
    constructor
    · rintro ⟨impossible, _⟩
      cases impossible
    · rintro ⟨_, later, _⟩
      omega
  · -- Minutes that stop at the largest word are more than a day before and after that.
    rw [maxMinutes] at held
    rw [found, Option.some.injEq]
    constructor
    · rintro ⟨rfl, able, later, within⟩
      exact ⟨able, by omega, by omega, by omega⟩
    · rintro ⟨able, later, within, same⟩
      exact ⟨UInt16.toNat_inj.mp (by omega), able, by omega, by omega⟩

/-- The profile that is sent is the one that would be sent without an instant, with the delay
adjusted. -/
theorem sends_of_reaches {cooker : Cooker} {text : String} {options : StartOptions} {now : Instant}
    {exchange : Exchange} (reached : cooker.Reaches text (options.resolve now) exchange) :
    ∃ plain : Profile, withOptions text ({ options with scheduleAt := none }.resolve now) = .ok plain ∧
      cooker.Sends text ({ options with scheduleAt := none }.resolve now) exchange plain.refresh ∧
      cooker.Sends text (options.resolve now) exchange
        (Profile.refresh { plain with
          payload := plain.payload.adjustSchedule (options.resolve now).schedule }) := by
  obtain ⟨opened, made⟩ := exists_withOptions_of_reaches reached
  have last := withOptions_eq_map text (options.resolve now)
  rw [made] at last
  cases plainly : withOptions text { options.resolve now with schedule := none } with
  | error error =>
    rw [plainly] at last
    cases last
  | ok plain =>
    rw [plainly] at last
    cases last
    exact ⟨plain, plainly, sends_of_withOptions plainly, sends_of_withOptions made⟩

/-- **The delay that is sent is the minutes that are left**, exact to the
nanosecond, if the profile can start later and they outlast the cooking and are
at most a day. Any other instant makes no difference to the profile that is
sent, and one that is less than a minute or more than a day away leaves the
delay that was stored. -/
theorem sent_delay (cooker : Cooker) {text : String} {stored : Profile}
    (read : parse text = .ok stored) (now instant : Instant) {options : StartOptions}
    (asked : options.scheduleAt = some instant) {exchange : Exchange}
    (reached : cooker.Reaches text (options.resolve now) exchange) :
    ∃ sent plain : Profile,
      cooker.Sends text (options.resolve now) exchange sent ∧
      cooker.Sends text ({ options with scheduleAt := none }.resolve now) exchange plain ∧
      (sent.payload.canSchedule = true ∧
          (sent.payload.duration.total.toNat : Int) < instant.minutesAhead now ∧
          instant.minutesAhead now ≤ 1440 →
        sent.payload.scheduleEnabled = true ∧
        (sent.payload.scheduleDuration.toNat : Int) = instant.minutesAhead now ∧
        (now.nanoseconds + instant.minutesAhead now * nanosecondsPerMinute ≤ instant.nanoseconds ∧
          instant.nanoseconds <
            now.nanoseconds + (instant.minutesAhead now + 1) * nanosecondsPerMinute) ∧
        sent.payload = { plain.payload with
          scheduleEnabled := sent.payload.scheduleEnabled
          scheduleHours := sent.payload.scheduleHours
          scheduleMinutes := sent.payload.scheduleMinutes }) ∧
      (¬(sent.payload.canSchedule = true ∧
          (sent.payload.duration.total.toNat : Int) < instant.minutesAhead now ∧
          instant.minutesAhead now ≤ 1440) →
        sent = plain) ∧
      (instant.nanoseconds < now.nanoseconds + nanosecondsPerMinute ∨
          1440 < instant.minutesAhead now →
        stored.payload.SameDelay sent.payload) := by
  -- Both profiles have the duration and the abilities that decide about the delay, so it is
  -- decided on the one without an instant.
  obtain ⟨plain, opened, plainSent, sent⟩ := sends_of_reaches reached
  have wanted : (options.resolve now).schedule = instant.minutesUntil? now := by
    rw [StartOptions.resolve, asked, Option.bind_some]
  rw [wanted] at sent
  have kept : stored.payload.SameDelay plain.payload := sameDelay_of_withOptions read rfl opened
  have takes := takesDelay_minutesUntil?_iff plain.payload instant now
  by_cases taken : ∃ delay, plain.payload.TakesDelay (instant.minutesUntil? now) delay
  · obtain ⟨delay, taking⟩ := taken
    obtain ⟨able, later, within, same⟩ := (takes delay).mp taking
    rw [Payload.adjustSchedule_of_takes taking] at sent
    refine ⟨_, _, sent, plainSent, fun _ => ?_, fun refused => ?_, fun outside => ?_⟩
    · have day : delay ≤ 1440 := taking.2.2.2
      have held : (plain.payload.delayed delay).scheduleDuration = delay :=
        scheduleDuration_of_minutes _ day rfl rfl
      exact ⟨rfl, (congrArg (fun minutes => (minutes.toNat : Int)) held).trans same,
        instant.minutesAhead_bounds now, rfl⟩
    · exact absurd ⟨able, later, within⟩ refused
    · have left := instant.minutesAhead_pos_iff now
      omega
  · rw [Payload.adjustSchedule_of_refused taken] at sent
    refine ⟨_, _, sent, plainSent, fun allowed => ?_, fun _ => rfl, fun _ => kept⟩
    obtain ⟨able, later, within⟩ := allowed
    have fits : ((UInt16.ofNat (instant.minutesAhead now).toNat).toNat : Int) =
        instant.minutesAhead now := by
      rw [UInt16.toNat_ofNat']
      omega
    exact absurd ⟨_, (takes _).mpr ⟨able, later, within, fits⟩⟩ taken

/-- Two hours and almost a minute more are two hours. -/
theorem sent_delay_of_white_rice :
    parse "0201000000000160001e0100000a00000000010100fc" = .ok whiteRice ∧
      ∃ sent, Sends ⟨{}⟩ "0201000000000160001e0100000a00000000010100fc"
          (StartOptions.resolve { scheduleAt := some ⟨7259999999999⟩ } ⟨0⟩) ⟨[], []⟩ sent ∧
        sent.payload.scheduleEnabled = true ∧ (sent.payload.scheduleDuration.toNat : Int) = 120 := by
  have opened : withOptions "0201000000000160001e0100000a00000000010100fc"
      (StartOptions.resolve { scheduleAt := some ⟨7259999999999⟩ } ⟨0⟩) =
        .ok ⟨whiteRice.payload.delayed 120, 0x00fc⟩ := by
    rw [withOptions, parse_whiteRice]
    rfl
  have sends : Sends ⟨{}⟩ "0201000000000160001e0100000a00000000010100fc"
      (StartOptions.resolve { scheduleAt := some ⟨7259999999999⟩ } ⟨0⟩) ⟨[], []⟩ _ :=
    sends_of_withOptions opened
  obtain ⟨sent, _, sentNow, _, taken, _⟩ :=
    sent_delay ⟨{}⟩ parse_whiteRice ⟨0⟩ ⟨7259999999999⟩ rfl sends.reaches
  cases sentNow.unique sends
  obtain ⟨enabled, held, _⟩ := taken (by decide)
  exact ⟨parse_whiteRice, _, sentNow, enabled, held.trans rfl⟩

/-- **Without an instant, or with one that is past or less than a minute away,
the profile is sent with the delay that it was stored with**, so it starts at
once exactly if it was stored so. -/
theorem sent_with_stored_delay (cooker : Cooker) {text : String} {stored : Profile}
    (read : parse text = .ok stored) (now : Instant) {options : StartOptions}
    (soon : ∀ instant, options.scheduleAt = some instant →
      instant.nanoseconds < now.nanoseconds + nanosecondsPerMinute)
    {exchange : Exchange} (reached : cooker.Reaches text (options.resolve now) exchange) :
    ∃ sent, cooker.Sends text (options.resolve now) exchange sent ∧
      stored.payload.SameDelay sent.payload := by
  obtain ⟨opened, made⟩ := exists_withOptions_of_reaches reached
  have unscheduled : (options.resolve now).schedule = none := by
    rw [StartOptions.resolve, Option.bind_eq_none_iff]
    intro instant asked
    obtain ⟨_, absent⟩ | ⟨_, left, _, _⟩ := instant.minutesUntil?_cases now
    · exact absent
    · have away := (instant.minutesAhead_pos_iff now).mp left
      have near := soon instant asked
      omega
  have kept : stored.payload.SameDelay opened.payload :=
    sameDelay_of_withOptions read unscheduled made
  exact ⟨opened.refresh, sends_of_withOptions made, kept⟩

/-- White rice was stored without a delay, and an instant that is not quite a
minute away does not give it one. -/
theorem white_rice_starts_at_once :
    parse "0201000000000160001e0100000a00000000010100fc" = .ok whiteRice ∧
      ∃ sent, Sends ⟨{}⟩ "0201000000000160001e0100000a00000000010100fc"
          (StartOptions.resolve { scheduleAt := some ⟨59999999999⟩ } ⟨0⟩) ⟨[], []⟩ sent ∧
        sent.payload.scheduleEnabled = false := by
  have opened : withOptions "0201000000000160001e0100000a00000000010100fc"
      (StartOptions.resolve { scheduleAt := some ⟨59999999999⟩ } ⟨0⟩) = .ok whiteRice := by
    rw [withOptions, parse_whiteRice]
    rfl
  have sends : Sends ⟨{}⟩ "0201000000000160001e0100000a00000000010100fc"
      (StartOptions.resolve { scheduleAt := some ⟨59999999999⟩ } ⟨0⟩) ⟨[], []⟩ _ :=
    sends_of_withOptions opened
  have soon : ∀ instant : Instant, some (Instant.mk 59999999999) = some instant →
      instant.nanoseconds < (Instant.mk 0).nanoseconds + nanosecondsPerMinute := by
    rintro instant ⟨⟩
    decide
  obtain ⟨sent, sentNow, kept⟩ :=
    sent_with_stored_delay ⟨{}⟩ parse_whiteRice ⟨0⟩ soon sends.reaches
  exact ⟨parse_whiteRice, sent, sentNow, kept.enabled⟩

/-- A profile that was stored with a delay of two hours is sent with it
although no instant is given, and so does not start at once. -/
theorem stored_delay_is_sent :
    ∃ delayed : Profile,
      parse "0201000000000160001e0100000a8200000001015f9c" = .ok delayed ∧
      Sends ⟨{}⟩ "0201000000000160001e0100000a8200000001015f9c"
        (StartOptions.resolve { scheduleAt := none } ⟨0⟩) ⟨[], []⟩ delayed ∧
      delayed.payload.scheduleEnabled = true ∧ delayed.payload.scheduleDuration = 120 := by
  have read : parse "0201000000000160001e0100000a8200000001015f9c" =
      .ok ⟨whiteRice.payload.delayed 120, 0x5f9c⟩ := by
    decide +kernel
  have opened : withOptions "0201000000000160001e0100000a8200000001015f9c"
      (StartOptions.resolve { scheduleAt := none } ⟨0⟩) =
        .ok ⟨whiteRice.payload.delayed 120, 0x5f9c⟩ := by
    rw [withOptions, read]
    rfl
  have sends : Sends ⟨{}⟩ "0201000000000160001e0100000a8200000001015f9c"
      (StartOptions.resolve { scheduleAt := none } ⟨0⟩) ⟨[], []⟩ _ := sends_of_withOptions opened
  rw [(refresh_eq_self_iff _).mpr (parse_eq_ok_iff.mp read).2] at sends
  exact ⟨_, read, sends, rfl, rfl⟩

end RiceCooker.Cooker
