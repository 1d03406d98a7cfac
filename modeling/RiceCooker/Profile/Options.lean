import RiceCooker.Profile.Frame

/-! Adjustments made while a profile is opened. The duration comes first,
because a delay is only worth taking when it is longer than the cooking
itself. -/
namespace RiceCooker.Profile

/-- What to adjust. An absent entry leaves its field alone. -/
structure Options where
  /-- The duration in minutes. -/
  duration : Option UInt16 := none
  /-- The delay before cooking in minutes. -/
  schedule : Option UInt16 := none
  /-- Whether to keep warm after cooking. -/
  autoKeepWarm : Option Bool := none
  /-- The taste. -/
  taste : Option UInt8 := none
deriving DecidableEq

/-- Nothing to adjust. -/
def Options.none : Options := {}

/-- The longest delay taken from options: one day. -/
def maxScheduleMinutes : UInt16 := 1440

namespace Payload

/-- Adjusts the duration. -/
def adjustDuration (p : Payload) (wanted : Option UInt16) : Payload :=
  match wanted with
  | some minutes => (p.setDuration? minutes).getD p
  | none => p

/-- Adjusts the delay, if it outlasts the cooking and is not too long. -/
def adjustSchedule (p : Payload) (wanted : Option UInt16) : Payload :=
  match wanted with
  | some minutes =>
    if p.duration.total < minutes ∧ minutes ≤ maxScheduleMinutes then
      (p.setScheduleDuration? minutes).getD p
    else p
  | none => p

/-- Switches keeping warm on, never off. -/
def adjustAutoKeepWarm (p : Payload) (wanted : Option Bool) : Payload :=
  match wanted with
  | some true => (p.setAutoKeepWarm? true).getD p
  | _ => p

/-- Adjusts the taste. A taste out of range spoils all adjustments. -/
def adjustTaste (p : Payload) (wanted : Option UInt8) : Except Error Payload :=
  match wanted with
  | some taste => (p.setTaste? taste).map fun written => written.getD p
  | none => .ok p

/-- Makes all adjustments. -/
def adjust (p : Payload) (options : Options) : Except Error Payload :=
  (((p.adjustDuration options.duration).adjustSchedule options.schedule).adjustAutoKeepWarm
    options.autoKeepWarm).adjustTaste options.taste

end Payload

/-- The profile with all adjustments. The checksum stays as it was. -/
def adjust (p : Profile) (options : Options) : Except Error Profile :=
  (p.payload.adjust options).map fun payload => { p with payload }

/-- Reads a profile and adjusts it. -/
def withOptions (text : String) (options : Options) : Except Error Profile :=
  (parse text).bind fun p => p.adjust options

end RiceCooker.Profile
