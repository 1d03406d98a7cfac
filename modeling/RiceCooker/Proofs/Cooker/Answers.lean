import RiceCooker.Proofs.Cooker.Calling

/-! Stopping, and asking for the temperatures. Both send one action without
parameters and wait for it in the same way. They part at a response that
carries a code: stopping takes any response and warns of a code, while the
temperatures are only read from a response without one. -/
namespace RiceCooker.Cooker
open Conversation

/-! ## Stopping -/

/-- The state after a response to stopping: a code leaves a warning. -/
def warned (exchange : Exchange) (code : Int64) : Exchange :=
  if code = 0 then exchange
  else { exchange with events := exchange.events ++ [.noted .warn (stopNotice code)] }

theorem calls_warned (exchange : Exchange) (code : Int64) :
    (warned exchange code).calls = exchange.calls := by
  unfold warned
  split
  · rfl
  · simp [Exchange.calls]

theorem notices_warned (exchange : Exchange) (code : Int64) :
    (warned exchange code).notices =
      exchange.notices ++ if code = 0 then [] else [(.warn, stopNotice code)] := by
  unfold warned
  split
  · rw [List.append_nil]
  · simp [Exchange.notices]

theorem run_stop (cooker : Cooker) (exchange : Exchange) :
    run cooker.stop exchange =
      match exchange.response cooker.config.callTimeout cooker.config.cancelAction with
      | .ok response => (.ok (), warned (exchange.announced "Stopping cooking"
          cooker.config.cancelAction []) response.code)
      | .error error => (.error error, exchange.announced "Stopping cooking"
          cooker.config.cancelAction []) := by
  rw [stop, run_announce]
  cases exchange.response cooker.config.callTimeout cooker.config.cancelAction with
  | error error => rfl
  | ok response =>
    simp only [Response.isSuccess, beq_iff_eq, warned]
    split
    · rfl
    · rfl

/-! ## Asking for the temperatures -/

/-- The temperatures in an answer. -/
def historyOf (action : String) (response : Response) : Except Error TemperatureHistory :=
  (historyText action response).map .ofHex

/-- What is remarked about an answer, if there is one. -/
def historyRemarks (action : String) (answer : Except Error Response) : List String :=
  match answer.bind (historyText action) with
  | .ok text => TemperatureHistory.readingRemarks text ++ [historyRemark (.ofHex text)]
  | .error _ => []

theorem run_temperatureHistory (cooker : Cooker) (exchange : Exchange) :
    run cooker.temperatureHistory exchange =
      ((exchange.response cooker.config.callTimeout cooker.config.temperatureHistoryAction).bind
          (historyOf cooker.config.temperatureHistoryAction),
        (exchange.acted cooker.config.temperatureHistoryAction []).remarking
          (historyRemarks cooker.config.temperatureHistoryAction (exchange.response
            cooker.config.callTimeout cooker.config.temperatureHistoryAction))) := by
  simp only [temperatureHistory, run_bind, run_callAction]
  cases exchange.response cooker.config.callTimeout cooker.config.temperatureHistoryAction with
  | error error => simp [historyRemarks, Except.bind]
  | ok response =>
    simp only [Except.bind, historyRemarks, historyOf]
    cases historyText cooker.config.temperatureHistoryAction response with
    | error error => simp only [Exchange.remarking_nil]; rfl
    | ok text => rfl

/-- The first output of a response is this text. -/
def LeadsWith (response : Response) (text : String) : Prop :=
  ∃ id others, response.outputs = ⟨id, .text text⟩ :: others

private theorem bind_asText?_eq_some_iff (outputs : List Parameter) (text : String) :
    (outputs.head?.bind fun output => output.value.asText?) = some text ↔
      ∃ id others, outputs = ⟨id, .text text⟩ :: others := by
  constructor
  · intro found
    obtain ⟨⟨id, value⟩, first, read⟩ := Option.bind_eq_some_iff.mp found
    obtain ⟨others, shape⟩ := List.head?_eq_some_iff.mp first
    cases value with
    | text own =>
      cases read
      exact ⟨id, others, shape⟩
    | bool _ => cases read
    | int _ => cases read
  · rintro ⟨id, others, rfl⟩
    rfl

/-- A response is refused for its code, then for its first output, and is
otherwise read whatever the text is. -/
theorem historyOf_cases (action : String) (response : Response) :
    (response.code ≠ 0 ∧
      historyOf action response = .error (.actionFailed action response.code)) ∨
    (response.code = 0 ∧ (¬∃ text, LeadsWith response text) ∧
      historyOf action response = .error (.invalidData (action ++ " returned no history string"))) ∨
    ∃ text, response.code = 0 ∧ LeadsWith response text ∧
      historyOf action response = .ok (.ofHex text) := by
  by_cases accepted : response.code = 0
  · refine .inr ?_
    have success : response.isSuccess = true := beq_iff_eq.mpr accepted
    rw [historyOf, historyText, if_pos success]
    cases found : response.outputs.head?.bind fun output => output.value.asText? with
    | none =>
      refine .inl ⟨accepted, ?_, rfl⟩
      rintro ⟨text, leads⟩
      rw [(bind_asText?_eq_some_iff response.outputs text).mpr leads] at found
      cases found
    | some text =>
      exact .inr ⟨text, accepted, (bind_asText?_eq_some_iff response.outputs text).mp found, rfl⟩
  · have failure : ¬response.isSuccess = true := mt beq_iff_eq.mp accepted
    refine .inl ⟨accepted, ?_⟩
    rw [historyOf, historyText, if_neg failure]
    rfl

/-- The outcomes of reading a response, each with the responses that have it. -/
theorem historyOf_verdict (action : String) (response : Response) :
    (∀ code, historyOf action response = .error (.actionFailed action code) ↔
      response.code = code ∧ code ≠ 0) ∧
    ((∃ context, historyOf action response = .error (.invalidData context)) ↔
      response.code = 0 ∧ ¬∃ text, LeadsWith response text) ∧
    ∀ history, historyOf action response = .ok history ↔
      response.code = 0 ∧ ∃ text, LeadsWith response text ∧ history = .ofHex text := by
  obtain ⟨failed, result⟩ | ⟨accepted, untold, result⟩ | ⟨text, accepted, leads, result⟩ :=
    historyOf_cases action response
  · simp [result, failed, eq_comm]
  · simp [result, accepted, not_exists.mp untold]
  · have only : ∀ other, LeadsWith response other ↔ other = text := by
      obtain ⟨id, others, shape⟩ := leads
      intro other
      constructor
      · rintro ⟨_, _, again⟩
        cases shape.symm.trans again
        rfl
      · rintro rfl
        exact ⟨id, others, shape⟩
    simp [result, accepted, only, eq_comm]

theorem temperatureHistory_eq_ok_iff (cooker : Cooker) {exchange : Exchange} {delivery : Delivery}
    {rest : List Delivery} (next : exchange.ahead = delivery :: rest)
    (history : TemperatureHistory) :
    (run cooker.temperatureHistory exchange).1 = .ok history ↔
      delivery.delay ≤ cooker.config.callTimeout ∧
        ∃ response, delivery.reply = .response response ∧ response.code = 0 ∧
          ∃ text, LeadsWith response text ∧ history = .ofHex text := by
  have read := fun response =>
    (historyOf_verdict cooker.config.temperatureHistoryAction response).2.2 history
  rw [run_temperatureHistory]
  constructor
  · intro told
    cases answered : exchange.response cooker.config.callTimeout
        cooker.config.temperatureHistoryAction with
    | error error =>
      rw [answered] at told
      cases told
    | ok response =>
      rw [answered] at told
      obtain ⟨inTime, arrived⟩ := (Exchange.response_eq_ok_iff next response).mp answered
      exact ⟨inTime, response, arrived, (read response).mp told⟩
  · rintro ⟨inTime, response, arrived, leads⟩
    rw [Exchange.response_of_response next inTime arrived]
    exact (read response).mpr leads

/-! ## Both -/

/-- **Stopping and asking for the temperatures each send one request, and are
told apart by a code alone.** A late reply is a time-out whatever it is, and an
error in time is passed on as it is. Of the responses in time, stopping takes
every one and warns of a code, and the temperatures are refused for a code
first, then for a first output that is no text, and for nothing else. -/
theorem answers_to_stop_and_temperatureHistory (cooker : Cooker) {exchange : Exchange}
    {delivery : Delivery} {rest : List Delivery} (next : exchange.ahead = delivery :: rest) :
    ((run cooker.stop exchange).2.calls =
        exchange.calls ++ [.action cooker.config.cancelAction []] ∧
      (run cooker.temperatureHistory exchange).2.calls =
        exchange.calls ++ [.action cooker.config.temperatureHistoryAction []]) ∧
    (cooker.config.callTimeout < delivery.delay →
      (run cooker.stop exchange).1 = .error (.timeout cooker.config.cancelAction) ∧
      (run cooker.temperatureHistory exchange).1 =
        .error (.timeout cooker.config.temperatureHistoryAction)) ∧
    (delivery.delay ≤ cooker.config.callTimeout →
      (∀ error, delivery.reply = .failed error →
        (run cooker.stop exchange).1 = .error error ∧
        (run cooker.temperatureHistory exchange).1 = .error error) ∧
      ∀ response, delivery.reply = .response response →
        ((run cooker.stop exchange).1 = .ok () ∧
          (run cooker.stop exchange).2.notices = exchange.notices ++
            (.info, "Stopping cooking") ::
              if response.code = 0 then []
              else [(.warn, "Failed to stop cooking (code " ++ Text.decimal response.code ++ ")")]) ∧
        (∀ code, (run cooker.temperatureHistory exchange).1 =
            .error (.actionFailed cooker.config.temperatureHistoryAction code) ↔
          response.code = code ∧ code ≠ 0) ∧
        ((∃ context, (run cooker.temperatureHistory exchange).1 = .error (.invalidData context)) ↔
          response.code = 0 ∧ ¬∃ text, LeadsWith response text) ∧
        ∀ history, (run cooker.temperatureHistory exchange).1 = .ok history ↔
          response.code = 0 ∧ ∃ text, LeadsWith response text ∧
            history = TemperatureHistory.ofHex text) := by
  rw [run_stop, run_temperatureHistory]
  refine ⟨⟨?_, ?_⟩, fun late => ?_, fun inTime =>
    ⟨fun error failed => ?_, fun response arrived => ?_⟩⟩
  · cases exchange.response cooker.config.callTimeout cooker.config.cancelAction with
    | error error => exact Exchange.calls_announced _ _ _ _
    | ok response => rw [calls_warned, Exchange.calls_announced]
  · rw [Exchange.calls_remarking, Exchange.calls_acted]
  · rw [Exchange.response_of_late next late, Exchange.response_of_late next late]
    exact ⟨rfl, rfl⟩
  · rw [Exchange.response_of_failed next inTime failed,
      Exchange.response_of_failed next inTime failed]
    exact ⟨rfl, rfl⟩
  · rw [Exchange.response_of_response next inTime arrived,
      Exchange.response_of_response next inTime arrived]
    refine ⟨⟨rfl, ?_⟩, ?_⟩
    · rw [notices_warned, Exchange.notices_announced, List.append_assoc]
      rfl
    · simp only [Except.bind]
      exact historyOf_verdict cooker.config.temperatureHistoryAction response

/-- A code next to temperatures that could be read, at the last moment: stopping
warns, and the temperatures are not looked at. -/
theorem answers_with_code_five :
    (⟨[⟨500, .response ⟨5, [⟨1, .text "1615"⟩]⟩⟩], []⟩ : Exchange).ahead =
        [⟨500, .response ⟨5, [⟨1, .text "1615"⟩]⟩⟩] ∧
      (run (stop ⟨{ callTimeout := 500 }⟩)
          ⟨[⟨500, .response ⟨5, [⟨1, .text "1615"⟩]⟩⟩], []⟩).2.notices =
        [(.info, "Stopping cooking"), (.warn, "Failed to stop cooking (code 5)")] ∧
      (run (temperatureHistory ⟨{ callTimeout := 500 }⟩)
          ⟨[⟨500, .response ⟨5, [⟨1, .text "1615"⟩]⟩⟩], []⟩).1 =
        .error (.actionFailed "custom:get-temp-history" 5) ∧
      (run (temperatureHistory ⟨{ callTimeout := 499 }⟩)
          ⟨[⟨500, .response ⟨5, [⟨1, .text "1615"⟩]⟩⟩], []⟩).1 =
        .error (.timeout "custom:get-temp-history") := by
  have next : (⟨[⟨500, .response ⟨5, [⟨1, .text "1615"⟩]⟩⟩], []⟩ : Exchange).ahead =
      [⟨500, .response ⟨5, [⟨1, .text "1615"⟩]⟩⟩] := rfl
  obtain ⟨_, _, inTime⟩ := answers_to_stop_and_temperatureHistory ⟨{ callTimeout := 500 }⟩ next
  obtain ⟨⟨_, notices⟩, refused, _⟩ := (inTime (by decide)).2 _ rfl
  obtain ⟨_, late, _⟩ := answers_to_stop_and_temperatureHistory ⟨{ callTimeout := 499 }⟩ next
  exact ⟨next, notices.trans (by decide +kernel), (refused 5).mpr (by decide), (late (by decide)).2⟩

end RiceCooker.Cooker
