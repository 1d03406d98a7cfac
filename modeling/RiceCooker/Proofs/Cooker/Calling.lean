import RiceCooker.Cooker

/-! Waiting for the answer to a request. One reply is used up and one request
goes on record whatever happens; the time limit is looked at before the reply,
so a reply that comes too late is never opened, not even to find a failure in
it. -/
namespace RiceCooker

/-- The response that a delivery brings to someone who asked for an action. -/
def Delivery.response (delivery : Delivery) (limit : Nat) (action : String) :
    Except Error Response :=
  match delivery.within limit action with
  | .ok (.response response) => .ok response
  | .ok _ => .error (.transport "wrong reply")
  | .error error => .error error

/-- A delivery is late, or fails, or is a response, or answers another question. -/
theorem Delivery.response_cases (delivery : Delivery) (limit : Nat) (action : String) :
    (limit < delivery.delay ∧ delivery.response limit action = .error (.timeout action)) ∨
    (delivery.delay ≤ limit ∧ ∃ error, delivery.reply = .failed error ∧
      delivery.response limit action = .error error) ∨
    (delivery.delay ≤ limit ∧ ∃ response, delivery.reply = .response response ∧
      delivery.response limit action = .ok response) ∨
    (delivery.delay ≤ limit ∧ ∃ readings, delivery.reply = .readings readings ∧
      delivery.response limit action = .error (.transport "wrong reply")) := by
  by_cases late : limit < delivery.delay
  · refine .inl ⟨late, ?_⟩
    rw [response, within, if_pos late]
  · have inTime : delivery.delay ≤ limit := Nat.not_lt.mp late
    rw [response, within, if_neg late]
    cases delivery.reply with
    | failed error => exact .inr (.inl ⟨inTime, error, rfl, rfl⟩)
    | response response => exact .inr (.inr (.inl ⟨inTime, response, rfl, rfl⟩))
    | readings readings => exact .inr (.inr (.inr ⟨inTime, readings, rfl, rfl⟩))

/-- If the request fails, then the connection failed. -/
def Delivery.FailsInTransport (delivery : Delivery) : Prop :=
  ∀ error, delivery.reply = .failed error → ∃ text, error = .transport text

/-- The response that the replies ahead hold for someone who asks for an action. -/
def Exchange.response (exchange : Exchange) (limit : Nat) (action : String) :
    Except Error Response :=
  match exchange.ahead with
  | [] => .error (.transport "no reply")
  | delivery :: _ => delivery.response limit action

/-- Remarks change nothing in what the replies ahead hold. -/
@[simp] theorem Exchange.response_remarking (exchange : Exchange) (texts : List String)
    (limit : Nat) (action : String) :
    (exchange.remarking texts).response limit action = exchange.response limit action := rfl

section Response
variable {exchange : Exchange} {delivery : Delivery} {rest : List Delivery} {limit : Nat}
  {action : String}

theorem Exchange.response_of_late (next : exchange.ahead = delivery :: rest)
    (late : limit < delivery.delay) :
    exchange.response limit action = .error (.timeout action) := by
  simp only [response, next, Delivery.response, Delivery.within, if_pos late]

theorem Exchange.response_of_failed {error : Error} (next : exchange.ahead = delivery :: rest)
    (inTime : delivery.delay ≤ limit) (failed : delivery.reply = .failed error) :
    exchange.response limit action = .error error := by
  simp only [response, next, Delivery.response, Delivery.within, if_neg (Nat.not_lt.mpr inTime),
    failed]

theorem Exchange.response_of_response {response : Response}
    (next : exchange.ahead = delivery :: rest) (inTime : delivery.delay ≤ limit)
    (arrived : delivery.reply = .response response) :
    exchange.response limit action = .ok response := by
  simp only [Exchange.response, next, Delivery.response, Delivery.within,
    if_neg (Nat.not_lt.mpr inTime), arrived]

theorem Exchange.response_eq_ok_iff (next : exchange.ahead = delivery :: rest)
    (response : Response) :
    exchange.response limit action = .ok response ↔
      delivery.delay ≤ limit ∧ delivery.reply = .response response := by
  refine ⟨fun answered => ?_, fun ⟨inTime, arrived⟩ => response_of_response next inTime arrived⟩
  rw [Exchange.response, next] at answered
  obtain ⟨_, result⟩ | ⟨_, _, _, result⟩ | ⟨inTime, other, arrived, result⟩ | ⟨_, _, _, result⟩ :=
    delivery.response_cases limit action
  · cases result.symm.trans answered
  · cases result.symm.trans answered
  · cases result.symm.trans answered
    exact ⟨inTime, arrived⟩
  · cases result.symm.trans answered

end Response

/-- The state after a request: one reply fewer ahead, one event more behind. -/
def Exchange.asked (exchange : Exchange) (call : Call) : Exchange :=
  ⟨exchange.ahead.tail, exchange.events ++ [.called call]⟩

/-- The state after an action was asked for: it is remarked and then requested. -/
def Exchange.acted (exchange : Exchange) (name : String) (parameters : List Parameter) : Exchange :=
  (exchange.remarking [Conversation.actionRemark name parameters]).asked (.action name parameters)

theorem Conversation.run_callAction (limit : Nat) (action : String) (parameters : List Parameter)
    (exchange : Exchange) :
    run (callAction limit action parameters) exchange =
      (exchange.response limit action, exchange.acted action parameters) := by
  simp only [callAction, run_bind, run_remark, run_ask, Exchange.ahead_remarking]
  obtain ⟨ahead, events⟩ := exchange
  cases ahead with
  | nil => rfl
  | cons delivery rest =>
    simp only [Exchange.response, Delivery.response]
    generalize delivery.within limit action = result
    cases result with
    | error error => rfl
    | ok reply => cases reply <;> rfl

/-- The state after a notice and the action that it announces. -/
def Exchange.announced (exchange : Exchange) (text name : String) (parameters : List Parameter) :
    Exchange :=
  Exchange.acted { exchange with events := exchange.events ++ [.noted .info text] } name parameters

/-- Two remarks, a notice and an action, in their order. -/
theorem Exchange.announced_remarking (exchange : Exchange) (first second text name : String)
    (parameters : List Parameter) :
    ((exchange.remarking [first]).remarking [second]).announced text name parameters =
      ⟨exchange.ahead.tail, exchange.events ++ [.remarked first, .remarked second,
        .noted .info text, .remarked (Conversation.actionRemark name parameters),
        .called (.action name parameters)]⟩ := by
  simp [announced, acted, asked, remarking]

/-- A notice before a request changes nothing in what the replies ahead hold. -/
theorem Conversation.run_announce {α : Type} (text : String) (limit : Nat) (action : String)
    (parameters : List Parameter) (next : Response → Conversation α) (exchange : Exchange) :
    run (note .info text >>= fun _ => callAction limit action parameters >>= next) exchange =
      match exchange.response limit action with
      | .ok response => run (next response) (exchange.announced text action parameters)
      | .error error => (.error error, exchange.announced text action parameters) := by
  simp only [note, run_bind, run_record, run_callAction]
  have same : Exchange.response ⟨exchange.ahead, exchange.events ++ [.noted .info text]⟩ =
      exchange.response := rfl
  rw [same]
  cases exchange.response limit action <;> rfl

/-! ## Reading the properties -/

/-- The readings that the replies ahead hold for someone who asks for the properties. -/
def Exchange.readings (exchange : Exchange) (limit : Nat) : Except Error (List Reading) :=
  match exchange.ahead with
  | [] => .error (.transport "no reply")
  | delivery :: _ =>
    match delivery.within limit Conversation.readPropertiesName with
    | .ok (.readings readings) => .ok readings
    | .ok _ => .error (.transport "wrong reply")
    | .error error => .error error

section Readings
variable {exchange : Exchange} {delivery : Delivery} {rest : List Delivery} {limit : Nat}

theorem Exchange.readings_of_late (next : exchange.ahead = delivery :: rest)
    (late : limit < delivery.delay) :
    exchange.readings limit = .error (.timeout Conversation.readPropertiesName) := by
  simp only [readings, next, Delivery.within, if_pos late]

theorem Exchange.readings_of_failed {error : Error} (next : exchange.ahead = delivery :: rest)
    (inTime : delivery.delay ≤ limit) (failed : delivery.reply = .failed error) :
    exchange.readings limit = .error error := by
  simp only [readings, next, Delivery.within, if_neg (Nat.not_lt.mpr inTime), failed]

theorem Exchange.readings_of_readings {readings : List Reading}
    (next : exchange.ahead = delivery :: rest) (inTime : delivery.delay ≤ limit)
    (arrived : delivery.reply = .readings readings) : exchange.readings limit = .ok readings := by
  simp only [Exchange.readings, next, Delivery.within, if_neg (Nat.not_lt.mpr inTime), arrived]

end Readings

theorem Conversation.run_readProperties (limit : Nat) (exchange : Exchange) :
    run (readProperties limit) exchange =
      (exchange.readings limit, exchange.asked .readProperties) := by
  rw [readProperties, run_bind, run_ask]
  obtain ⟨ahead, events⟩ := exchange
  cases ahead with
  | nil => rfl
  | cons delivery rest =>
    simp only [Exchange.readings]
    generalize delivery.within limit readPropertiesName = result
    cases result with
    | error error => rfl
    | ok reply => cases reply <;> rfl

/-! ## What is on record -/

/-- A view of the events that is blind to remarks shows nothing of them. -/
private theorem filterMap_remarked {α : Type} {view : Event → Option α}
    (blind : ∀ text, view (.remarked text) = none) (texts : List String) :
    (texts.map Event.remarked).filterMap view = [] := by
  rw [List.filterMap_map]
  exact List.filterMap_eq_nil_iff.mpr fun text _ => blind text

namespace Exchange
variable (exchange : Exchange) (call : Call) (text name : String) (parameters : List Parameter)
  (texts : List String)

/-- Remarks are no requests. -/
@[simp] theorem calls_remarking : (exchange.remarking texts).calls = exchange.calls := by
  rw [calls, remarking, List.filterMap_append, filterMap_remarked fun _ => rfl, List.append_nil,
    calls]

/-- Remarks are no notices. -/
@[simp] theorem notices_remarking : (exchange.remarking texts).notices = exchange.notices := by
  rw [notices, remarking, List.filterMap_append, filterMap_remarked fun _ => rfl, List.append_nil,
    notices]

@[simp] theorem calls_asked : (exchange.asked call).calls = exchange.calls ++ [call] := by
  simp [calls, asked]

@[simp] theorem notices_asked : (exchange.asked call).notices = exchange.notices := by
  simp [notices, asked]

@[simp] theorem calls_acted :
    (exchange.acted name parameters).calls = exchange.calls ++ [.action name parameters] := by
  simp [acted]

@[simp] theorem notices_acted :
    (exchange.acted name parameters).notices = exchange.notices := by
  simp [acted]

@[simp] theorem calls_announced :
    (exchange.announced text name parameters).calls =
      exchange.calls ++ [.action name parameters] := by
  rw [announced, calls_acted]
  simp [calls]

@[simp] theorem notices_announced :
    (exchange.announced text name parameters).notices = exchange.notices ++ [(.info, text)] := by
  rw [announced, notices_acted]
  simp [notices]

end Exchange

end RiceCooker
