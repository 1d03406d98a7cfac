import RiceCooker.Error
import RiceCooker.Property

/-! What is said between a controller and a cooker: actions with numbered
parameters, and one request that reads every property. -/
namespace RiceCooker

/-- An input or an output of an action. -/
structure Parameter where
  /-- The number of the parameter. -/
  id : UInt32
  /-- Its value. -/
  value : Value
deriving DecidableEq

/-- What a cooker answers to an action. -/
structure Response where
  /-- Zero if the action was accepted. -/
  code : Int64
  /-- The outputs of the action. -/
  outputs : List Parameter
deriving DecidableEq

/-- The answer to a refused action. -/
def Response.refused (code : Int64) : Response := ⟨code, []⟩

/-- Whether the action was accepted. -/
def Response.isSuccess (response : Response) : Bool := response.code == 0

/-- What became of reading one property. -/
structure Reading where
  /-- The name of the property. -/
  name : String
  /-- Its value. -/
  value : Value
  /-- Zero if the value can be trusted. -/
  code : Int64
deriving DecidableEq

/-- Whether the value can be trusted. -/
def Reading.isValid (reading : Reading) : Bool := reading.code == 0

/-- The values that can be trusted, by name. -/
def Reading.collect (readings : List Reading) : Properties :=
  .ofEntries ((readings.filter isValid).map fun reading => (reading.name, reading.value))

/-- A request to a cooker. -/
inductive Call where
  /-- Read every property. -/
  | readProperties
  /-- Carry out an action. -/
  | action (name : String) (parameters : List Parameter)
deriving DecidableEq

/-- What comes back for a request. -/
inductive Reply where
  /-- The request failed. Whoever carries it may give any error as the cause. -/
  | failed (error : Error)
  /-- The answer to an action. -/
  | response (response : Response)
  /-- The properties. -/
  | readings (readings : List Reading)
deriving DecidableEq

/-- The connection failed. -/
def Reply.failure (text : String) : Reply := .failed (.transport text)

/-- A reply and the time it takes. -/
structure Delivery where
  /-- Milliseconds from the request to the reply. -/
  delay : Nat
  /-- What comes back. -/
  reply : Reply
deriving DecidableEq

end RiceCooker
