import RiceCooker.Device

/-! A conversation with a cooker. Every request takes the next of the replies
that lie ahead, each with its own delay, and everything that is sent or logged
is kept in order. A reply that takes longer than the limit is as good as none,
whatever it would have said. What is logged comes at three levels: notices, for
information or as a warning, are meant for whoever runs the cooker, and remarks,
at the debug level, for whoever works on the library. -/
namespace RiceCooker

/-! ## Waiting -/

/-- What a delivery amounts to for someone who waits this many milliseconds. -/
def Delivery.within (delivery : Delivery) (limit : Nat) (waitingFor : String) :
    Except Error Reply :=
  if limit < delivery.delay then .error (.timeout waitingFor)
  else
    match delivery.reply with
    | .failed error => .error error
    | reply => .ok reply

/-! ## State -/

/-- How serious a notice is. -/
inductive Level where
  /-- For information. -/
  | info
  /-- Something went wrong and the conversation went on. -/
  | warn
deriving DecidableEq

/-- Something that happened in a conversation. -/
inductive Event where
  /-- A request was sent. -/
  | called (call : Call)
  /-- A notice was logged. -/
  | noted (level : Level) (text : String)
  /-- A remark was logged. -/
  | remarked (text : String)
deriving DecidableEq

/-- The state of a conversation. -/
structure Exchange where
  /-- The replies that lie ahead. -/
  ahead : List Delivery
  /-- What happened so far, oldest first. -/
  events : List Event := []
deriving DecidableEq

namespace Exchange

/-- The requests that were sent. -/
def calls (exchange : Exchange) : List Call :=
  exchange.events.filterMap fun
    | .called call => some call
    | _ => none

/-- The notices that were logged. -/
def notices (exchange : Exchange) : List (Level × String) :=
  exchange.events.filterMap fun
    | .noted level text => some (level, text)
    | _ => none

/-- The state after these remarks. -/
def remarking (exchange : Exchange) (texts : List String) : Exchange :=
  { exchange with events := exchange.events ++ texts.map .remarked }

@[simp] theorem ahead_remarking (exchange : Exchange) (texts : List String) :
    (exchange.remarking texts).ahead = exchange.ahead := rfl

@[simp] theorem remarking_nil (exchange : Exchange) : exchange.remarking [] = exchange := by
  simp [remarking]

end Exchange

/-- A part of a conversation: it may fail, and what happened stays on record. -/
abbrev Conversation := ExceptT Error (StateM Exchange)

namespace Conversation

/-! ## Steps -/

/-- The outcome of a conversation and its state afterwards. -/
def run {α : Type} (conversation : Conversation α) (exchange : Exchange) :
    Except Error α × Exchange :=
  (ExceptT.run conversation).run exchange

/-- Puts an event on record. -/
def record (event : Event) : Conversation Unit :=
  modify fun exchange => { exchange with events := exchange.events ++ [event] }

/-- Logs a notice. -/
def note (level : Level) (text : String) : Conversation Unit := record (.noted level text)

/-- Logs remarks. -/
def remark (texts : List String) : Conversation Unit :=
  modify fun exchange => exchange.remarking texts

/-- Takes the next reply, if there is one. -/
def next? : Conversation (Option Delivery) :=
  modifyGet fun exchange => (exchange.ahead.head?, { exchange with ahead := exchange.ahead.tail })

/-- Sends a request and waits for its reply. -/
def ask (limit : Nat) (waitingFor : String) (call : Call) : Conversation Reply := do
  record (.called call)
  match ← next? with
  | some delivery => MonadExcept.ofExcept (delivery.within limit waitingFor)
  | none => throw (.transport "no reply")

/-- What is remarked before an action is asked for. -/
def actionRemark (name : String) (parameters : List Parameter) : String :=
  "Calling " ++ name ++ " with " ++ toString parameters.length ++ " parameters"

/-- Asks for an action. -/
def callAction (limit : Nat) (name : String) (parameters : List Parameter) :
    Conversation Response := do
  remark [actionRemark name parameters]
  match ← ask limit name (.action name parameters) with
  | .response response => pure response
  | _ => throw (.transport "wrong reply")

/-- The name under which reading the properties is waited for. -/
def readPropertiesName : String := "get_properties_for_mapping"

/-- Asks for the properties. -/
def readProperties (limit : Nat) : Conversation (List Reading) := do
  match ← ask limit readPropertiesName .readProperties with
  | .readings readings => pure readings
  | _ => throw (.transport "wrong reply")

/-! ## Running -/

theorem run_bind {α β : Type} (first : Conversation α) (second : α → Conversation β)
    (exchange : Exchange) :
    run (first >>= second) exchange =
      match run first exchange with
      | (.ok value, after) => run (second value) after
      | (.error error, after) => (.error error, after) := by
  simp only [run, ExceptT.run_bind, StateT.run_bind]
  generalize StateT.run (ExceptT.run first) exchange = reached
  obtain ⟨outcome, after⟩ := reached
  cases outcome <;> rfl

theorem run_record (event : Event) (exchange : Exchange) :
    run (record event) exchange =
      (.ok (), { exchange with events := exchange.events ++ [event] }) :=
  rfl

theorem run_remark (texts : List String) (exchange : Exchange) :
    run (remark texts) exchange = (.ok (), exchange.remarking texts) :=
  rfl

/-- A request is put on record, uses up one reply, and amounts to that reply
within the limit. -/
theorem run_ask (limit : Nat) (waitingFor : String) (call : Call) (exchange : Exchange) :
    run (ask limit waitingFor call) exchange =
      (match exchange.ahead with
        | [] => .error (.transport "no reply")
        | delivery :: _ => delivery.within limit waitingFor,
        ⟨exchange.ahead.tail, exchange.events ++ [.called call]⟩) := by
  obtain ⟨ahead, events⟩ := exchange
  cases ahead with
  | nil => rfl
  | cons delivery rest =>
    show run (MonadExcept.ofExcept (delivery.within limit waitingFor)) _ =
      (delivery.within limit waitingFor, _)
    generalize delivery.within limit waitingFor = result
    cases result <;> rfl

end Conversation

end RiceCooker
