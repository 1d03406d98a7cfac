import RiceCooker.Proofs.Cooker.Calling
import RiceCooker.Proofs.Profile.Settled

/-! Starting a profile. A profile that cannot be opened with its options ends
the conversation before anything is sent, and leaves at most a remark on its
size; any other is announced, sent once with a new checksum, and taken or
refused as the cooker answers, if it answers in time. -/
namespace RiceCooker.Cooker
open Conversation

/-- What a response to an action means for someone who needs it carried out. -/
def verdict (action : String) (response : Response) : Except Error Unit :=
  if response.code = 0 then .ok () else .error (.actionFailed action response.code)

theorem actionRemark_singleton (name : String) (parameter : Parameter) :
    actionRemark name [parameter] = "Calling " ++ name ++ " with 1 parameters" := by
  rw [actionRemark, List.length_singleton, String.append_assoc, String.append_assoc]
  rfl

theorem run_send (cooker : Cooker) (profile : Profile) (exchange : Exchange) :
    run (cooker.send profile) exchange =
      ((exchange.response cooker.config.callTimeout cooker.config.startAction).bind
          (verdict cooker.config.startAction),
        (exchange.remarking [Profile.writingRemark profile.toHex]).announced (startNotice profile)
          cooker.config.startAction [⟨cooker.config.profileParameterId, .text profile.toHex⟩]) := by
  rw [send, run_bind, run_remark]
  simp only [run_announce, Exchange.response_remarking]
  cases exchange.response cooker.config.callTimeout cooker.config.startAction with
  | error error => rfl
  | ok response =>
    simp only [Except.bind, verdict, Response.isSuccess, beq_iff_eq]
    split <;> rfl

theorem readingRemarks_of_withOptions {text : String} {options : Profile.Options}
    {profile : Profile} (opened : Profile.withOptions text options = .ok profile) :
    Profile.readingRemarks text = ["CookerProfile::parse called with 22 bytes"] := by
  obtain ⟨stored, read, _⟩ := Profile.exists_adjust_of_withOptions opened
  exact (Profile.remarked_readingRemarks text).of_parse read

section Opening
variable (cooker : Cooker) {text : String} {options : Profile.Options} (exchange : Exchange)

theorem run_startProfile_of_ok {profile : Profile}
    (opened : Profile.withOptions text options = .ok profile) :
    run (cooker.startProfile text options) exchange =
      run (cooker.send profile) (exchange.remarking (Profile.readingRemarks text)) := by
  rw [startProfile, run_bind, run_remark, opened]

/-- A profile that cannot be opened leaves remarks and nothing else. -/
theorem run_startProfile_of_error {error : Error}
    (refused : Profile.withOptions text options = .error error) :
    run (cooker.startProfile text options) exchange =
      (.error error, exchange.remarking (Profile.readingRemarks text)) := by
  rw [startProfile, run_bind, run_remark, refused]
  rfl

end Opening

/-- How sending ends, by what the next reply is and when it comes. -/
theorem send_result (cooker : Cooker) (profile : Profile) {exchange : Exchange}
    {delivery : Delivery} {rest : List Delivery} (next : exchange.ahead = delivery :: rest) :
    ((run (cooker.send profile) exchange).1 = .ok () ↔
      delivery.delay ≤ cooker.config.callTimeout ∧
        ∃ response, delivery.reply = .response response ∧ response.code = 0) ∧
    (cooker.config.callTimeout < delivery.delay →
      (run (cooker.send profile) exchange).1 = .error (.timeout cooker.config.startAction)) ∧
    (∀ error, delivery.reply = .failed error → delivery.delay ≤ cooker.config.callTimeout →
      (run (cooker.send profile) exchange).1 = .error error) ∧
    (delivery.FailsInTransport →
      ((run (cooker.send profile) exchange).1 = .error (.timeout cooker.config.startAction) ↔
        cooker.config.callTimeout < delivery.delay) ∧
      ∀ code, (run (cooker.send profile) exchange).1 =
          .error (.actionFailed cooker.config.startAction code) ↔
        delivery.delay ≤ cooker.config.callTimeout ∧
          ∃ response, delivery.reply = .response response ∧ response.code = code ∧ code ≠ 0) := by
  rw [run_send, Exchange.response, next]
  obtain ⟨late, result⟩ | ⟨inTime, error, failed, result⟩ | ⟨inTime, response, arrived, result⟩ |
    ⟨inTime, readings, other, result⟩ :=
      delivery.response_cases cooker.config.callTimeout cooker.config.startAction
  · have notInTime : ¬delivery.delay ≤ cooker.config.callTimeout := Nat.not_le.mpr late
    simp [result, late, notInTime, Except.bind]
  · have notLate : ¬cooker.config.callTimeout < delivery.delay := Nat.not_lt.mpr inTime
    refine ⟨by simp [result, failed, Except.bind], fun late => absurd late notLate,
      by simp [result, failed, Except.bind], fun carried => ?_⟩
    obtain ⟨text, rfl⟩ := carried error failed
    simp [result, inTime, failed, Except.bind]
  · have notLate : ¬cooker.config.callTimeout < delivery.delay := Nat.not_lt.mpr inTime
    simp only [result, Except.bind, verdict, arrived]
    by_cases taken : response.code = 0
    · simp [inTime, notLate, taken, eq_comm]
    · simp [inTime, notLate, taken, eq_comm]
  · simp [result, inTime, other, Except.bind]

/-- Starting with these options sends this profile: exactly one request goes on
record, and the text in it holds the profile. -/
def Sends (cooker : Cooker) (text : String) (options : Profile.Options) (exchange : Exchange)
    (profile : Profile) : Prop :=
  ∃ sent, (run (cooker.startProfile text options) exchange).2.calls = exchange.calls ++
      [.action cooker.config.startAction [⟨cooker.config.profileParameterId, .text sent⟩]] ∧
    Profile.parse sent = .ok profile

theorem sends_of_withOptions {cooker : Cooker} {text : String} {options : Profile.Options}
    {exchange : Exchange} {profile : Profile}
    (opened : Profile.withOptions text options = .ok profile) :
    cooker.Sends text options exchange profile.refresh := by
  refine ⟨profile.toHex, ?_, Profile.parse_toHex profile⟩
  rw [run_startProfile_of_ok cooker exchange opened, run_send, Exchange.calls_announced,
    Exchange.calls_remarking, Exchange.calls_remarking]

/-! ## Starting again -/

/-- Sending tells nothing of the checksum that a profile holds. -/
theorem send_refresh (cooker : Cooker) (profile : Profile) :
    cooker.send profile.refresh = cooker.send profile := by
  have sameText : profile.refresh.toHex = profile.toHex :=
    (Profile.toHex_eq_toHex_iff _ _).mpr rfl
  have sameNotice : startNotice profile.refresh = startNotice profile := rfl
  rw [send, send, sameText, sameNotice]

/-- **What was opened with options and written opens with the same options as
the same payload**, so it is written as the same frame again; and starting it
once more, with a cooker in any state, sends that frame again, in the
conversation that it was the first time. -/
theorem started_again (text : String) (options : Profile.Options) (opened : Profile)
    (made : Profile.withOptions text options = .ok opened) :
    (∃ again, Profile.withOptions opened.toHex options = .ok again ∧
      again.payload = opened.payload ∧ again.toBytes = opened.toBytes ∧
      again.toHex = opened.toHex) ∧
    ∀ cooker : Cooker,
      (∀ exchange, cooker.Sends text options exchange opened.refresh ∧
        cooker.Sends opened.toHex options exchange opened.refresh) ∧
      cooker.startProfile opened.toHex options = cooker.startProfile text options := by
  have reopened := Profile.withOptions_toHex made
  have sentAgain (cooker : Cooker) (exchange : Exchange) :
      cooker.Sends opened.toHex options exchange opened.refresh.refresh :=
    sends_of_withOptions reopened
  refine ⟨⟨opened.refresh, reopened, rfl, ?_, ?_⟩, fun cooker =>
    ⟨fun exchange => ⟨sends_of_withOptions made, sentAgain cooker exchange⟩, ?_⟩⟩
  · exact (Profile.toBytes_eq_iff _ _).mpr rfl
  · exact (Profile.toHex_eq_toHex_iff _ _).mpr rfl
  · rw [startProfile, startProfile, reopened, made, readingRemarks_of_withOptions reopened,
      readingRemarks_of_withOptions made]
    simp only [send_refresh]

/-- White rice for longer than allowed, and a day from now. -/
theorem white_rice_started_again :
    ∃ opened, Profile.withOptions "0201000000000160001e0100000a00000000010100fc"
        ⟨some 90, some 1440, some true, some 2⟩ = .ok opened ∧
      opened.toHex = "020100000000016001000100000a988000000102d49b" ∧
      ∃ again, Profile.withOptions "020100000000016001000100000a988000000102d49b"
          ⟨some 90, some 1440, some true, some 2⟩ = .ok again ∧
        again.toHex = "020100000000016001000100000a988000000102d49b" := by
  obtain ⟨opened, made, text⟩ :
      ∃ opened, Profile.withOptions "0201000000000160001e0100000a00000000010100fc"
          ⟨some 90, some 1440, some true, some 2⟩ = .ok opened ∧
        opened.toHex = "020100000000016001000100000a988000000102d49b" := by
    rw [Profile.withOptions, Profile.parse_whiteRice]
    exact ⟨_, rfl, by decide +kernel⟩
  obtain ⟨again, reopened, _, _, sameText⟩ := (started_again _ _ _ made).1
  rw [text] at reopened sameText
  exact ⟨opened, made, text, again, reopened, sameText⟩

end RiceCooker.Cooker
