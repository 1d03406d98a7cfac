/-! Operation modes. The cooker reports its mode as a number, and a number
that is not in the table means that the mode is not known. -/
namespace RiceCooker

/-- What a cooker is doing. -/
inductive Mode where
  /-- Waiting for a command. -/
  | idle
  /-- Cooking. -/
  | running
  /-- Waiting for a delayed start. -/
  | scheduled
  /-- Keeping food warm after cooking. -/
  | autoKeepWarm
  /-- Stopped by a fault. -/
  | error
  /-- Replacing its own program. -/
  | updating
  /-- Done cooking. -/
  | finish
  /-- Something without a number in the table. -/
  | unknown
deriving DecidableEq

namespace Mode

/-- The mode with this number. -/
def ofCode (code : Int64) : Mode :=
  if code = 1 then idle
  else if code = 2 then running
  else if code = 3 then scheduled
  else if code = 4 then autoKeepWarm
  else if code = 5 then error
  else if code = 6 then updating
  else if code = 7 then finish
  else unknown

/-- The number of a mode. -/
def code? : Mode → Option Int64
  | idle => some 1
  | running => some 2
  | scheduled => some 3
  | autoKeepWarm => some 4
  | error => some 5
  | updating => some 6
  | finish => some 7
  | unknown => none

/-- Whether a cook cycle is going on or about to begin. -/
def isActive : Mode → Bool
  | running | scheduled | autoKeepWarm => true
  | _ => false

/-- The name shown to a user. -/
def name : Mode → String
  | idle => "Idle"
  | running => "Running"
  | scheduled => "Scheduled"
  | autoKeepWarm => "Auto Keep Warm"
  | error => "Error"
  | updating => "Updating"
  | finish => "Finish"
  | unknown => "Unknown"

/-- The one-word name of a mode in records. -/
def tag : Mode → String
  | autoKeepWarm => "AutoKeepWarm"
  | mode => mode.name

/-- Every mode, in the order of the numbers. -/
def all : List Mode :=
  [idle, running, scheduled, autoKeepWarm, error, updating, finish, unknown]

/-- Different modes are shown under different names. -/
theorem name_inj {first second : Mode} : first.name = second.name ↔ first = second := by
  cases first <;> cases second <;> decide

end Mode

end RiceCooker
