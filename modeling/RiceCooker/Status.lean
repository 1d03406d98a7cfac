import RiceCooker.Fault
import RiceCooker.Mode
import RiceCooker.Property

/-! What a cooker is doing, read from its properties. A property that was not
reported, or that holds no number, has no reading; only the fault insists on
one. The report has one line for each reading. -/
namespace RiceCooker

/-- The properties of a cooker and its latest temperature. -/
structure Status where
  /-- The values that were reported. -/
  properties : Properties
  /-- The latest sample in degrees Celsius. -/
  temperature : Option UInt8
deriving DecidableEq

namespace Status

/-! ## Property names -/

/-- The operation mode. -/
def modeName : String := "status"
/-- The fault code. -/
def faultName : String := "fault"
/-- The menu. -/
def menuName : String := "menu-id"
/-- The seconds until cooking is done. -/
def remainingName : String := "left-time"
/-- The seconds until cooking begins. -/
def delayName : String := "pre-left-time"
/-- The seconds that cooking takes in all. -/
def durationName : String := "cook-total-time"
/-- Whether to keep warm after cooking. -/
def keepWarmName : String := "auto-keepwarm-flag"
/-- How long to keep warm. -/
def keepWarmTimeName : String := "keepwarm-time"
/-- The taste. -/
def tasteName : String := "taste"
/-- The type of rice. -/
def riceName : String := "rice-type"

/-! ## Readings -/

/-- The value of a property. -/
def property? (status : Status) (name : String) : Option Value := status.properties[name]?

/-- The value of a property as a number. -/
def int? (status : Status) (name : String) : Option Int64 :=
  (status.property? name).bind Value.asInt?

/-- Whole minutes in a number of seconds, cut toward zero. -/
def minutesOf (seconds : Int64) : Int64 := seconds / 60

/-- The value of a property in seconds, as whole minutes. -/
def minutes? (status : Status) (name : String) : Option Int64 :=
  (status.int? name).map minutesOf

/-- The operation mode. It has to be reported as a number; the same number as
text or as a switch is not known. -/
def mode (status : Status) : Mode :=
  match status.property? modeName with
  | some (.int code) => .ofCode code
  | _ => .unknown

/-- The label of the fault. -/
def fault (status : Status) : Except Error String :=
  match status.int? faultName with
  | some code => Fault.label code
  | none => .error (.missingProperty faultName)

/-- The menu. -/
def menu? (status : Status) : Option Int64 := status.int? menuName

/-- The minutes until cooking is done. -/
def remaining? (status : Status) : Option Int64 := status.minutes? remainingName

/-- The minutes until cooking begins. A delay of a minute or more in the past
is none; a shorter one is cut to zero. -/
def delay? (status : Status) : Option Int64 :=
  (status.minutes? delayName).filter fun minutes => decide (0 ≤ minutes)

/-- The minutes that cooking takes in all. -/
def duration? (status : Status) : Option Int64 := status.minutes? durationName

/-- Whether to keep warm after cooking. -/
def keepWarm (status : Status) : Bool := status.int? keepWarmName == some 1

/-- How long to keep warm, as reported. -/
def keepWarmTime? (status : Status) : Option Int64 := status.int? keepWarmTimeName

/-- The taste. -/
def taste? (status : Status) : Option Int64 := status.int? tasteName

/-- The type of rice. -/
def rice? (status : Status) : Option Int64 := status.int? riceName

/-! ## Report -/

/-- A reading that may be absent. -/
def renderInt? : Option Int64 → String
  | some n => Text.decimal n
  | none => "None"

/-- A temperature that may be absent. -/
def renderTemperature? : Option UInt8 → String
  | some degrees => toString degrees.toNat
  | none => "None"

/-- The label of a fault, or the reason why there is none. -/
def renderFault : Except Error String → String
  | .ok label => label
  | .error error => error.message

/-- The lines of the report: what is read and the reading. -/
def lines (status : Status) : List (String × String) :=
  [("Mode", status.mode.name),
    ("Fault", renderFault status.fault),
    ("Menu", renderInt? status.menu?),
    ("Remaining", renderInt? status.remaining?),
    ("Cooking delayed", renderInt? status.delay?),
    ("Duration", renderInt? status.duration?),
    ("Keep warm", Text.truth status.keepWarm),
    ("Rice", renderInt? status.rice?),
    ("Taste", renderInt? status.taste?),
    ("Temperature", renderTemperature? status.temperature)]

/-- One line, with its end. -/
def renderLine (line : String × String) : String := line.1 ++ ": " ++ line.2 ++ "\n"

/-- The report. -/
def render (status : Status) : String := String.join (status.lines.map renderLine)

/-- A status depends on the last entry under each name and on nothing else. -/
theorem property?_ofEntries (entries : List (String × Value)) (temperature : Option UInt8)
    (name : String) :
    (Status.mk (.ofEntries entries) temperature).property? name = Entries.last? name entries :=
  Properties.getElem?_ofEntries entries name

end Status

end RiceCooker
