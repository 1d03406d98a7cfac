import RiceCooker.Checksum
import RiceCooker.Error
import RiceCooker.Profile.Payload

/-! A profile in hand: the payload and the checksum that came with it. Setting
a field changes the payload only, so the stored checksum is out of date until
it is refreshed. A field that the profile has no use for is left alone. -/
namespace RiceCooker
open Profile

/-! ## Profiles -/

/-- A cooking profile. Two profiles are equal when their stored checksums are
too. -/
structure Profile where
  /-- The program. -/
  payload : Payload
  /-- The checksum as it was last read or refreshed. -/
  checksum : UInt16
deriving DecidableEq

/-- What became of a setting. -/
inductive Outcome where
  /-- The field was written. -/
  | applied
  /-- The profile has no use for the field, and nothing was written. -/
  | unsupported
deriving DecidableEq

/-- Whether the field was written. -/
def Outcome.isApplied : Outcome → Bool
  | .applied => true
  | .unsupported => false

/-- The one-word name of an outcome in records. -/
def Outcome.tag : Outcome → String
  | .applied => "Applied"
  | .unsupported => "Unsupported"

/-! ## Settings of a payload -/

namespace Profile.Payload

/-- The payload with another place in the menu list, which every profile has. -/
def withMenuIndex (p : Payload) (index : UInt8) : Payload := { p with menuIndex := index }

/-- The chosen duration, moved into the range that the profile allows. -/
def clampDuration (p : Payload) (minutes : UInt16) : UInt16 :=
  if minutes < p.cookTimeMin.total then p.cookTimeMin.total
  else if p.cookTimeMax.total < minutes then p.cookTimeMax.total
  else minutes

/-- The duration is taken where there is a range to choose from. -/
def setDuration? (p : Payload) (minutes : UInt16) : Option Payload :=
  if p.canSetDuration then
    some { p with duration := .ofMinutes (p.clampDuration minutes) }
  else none

/-- The payload with the delay switched, which every profile allows. -/
def withScheduleEnabled (p : Payload) (enabled : Bool) : Payload :=
  { p with scheduleEnabled := enabled }

/-- A delay is taken where the profile can start later, and switches the delay
on. The hours have seven bits, so 128 hours start again at zero. -/
def setScheduleDuration? (p : Payload) (minutes : UInt16) : Option Payload :=
  if p.canSchedule then
    some { p with
      scheduleEnabled := true
      scheduleHours := BitVec.ofNat 7 (minutes.toNat / 60)
      scheduleMinutes := BitVec.ofNat 7 (minutes.toNat % 60) }
  else none

/-- Keeping warm is switched where the profile allows it. -/
def setAutoKeepWarm? (p : Payload) (enabled : Bool) : Option Payload :=
  if p.canSetAutoKeepWarm then some { p with autoKeepWarm := enabled } else none

/-- The type of rice is taken by a menu that asks for one. A type that does not
fit in a word is stored as zero. -/
def setRiceId? (p : Payload) (riceId : UInt32) : Option Payload :=
  if p.canChooseRice then
    some { p with riceId := if riceId.toNat < 65536 then riceId.toUInt16 else 0 }
  else none

/-- The firmest taste. -/
def maxTaste : UInt8 := 2

/-- The taste is taken by the menu that asks for one, and only there does its
value matter. -/
def setTaste? (p : Payload) (taste : UInt8) : Except Error (Option Payload) :=
  if p.canConfigureTaste then
    if maxTaste < taste then .error (.invalidParameter "taste" (toString taste.toNat))
    else .ok (some { p with taste })
  else .ok none

end Profile.Payload

/-! ## Settings of a profile -/

namespace Profile

/-- Takes the new payload, if there is one. -/
def accept (p : Profile) : Option Payload → Outcome × Profile
  | some payload => (.applied, { p with payload })
  | none => (.unsupported, p)

/-- Sets the place in the menu list. -/
def setMenuIndex (p : Profile) (index : UInt8) : Profile :=
  { p with payload := p.payload.withMenuIndex index }

/-- Sets the duration in minutes, moved into the allowed range. -/
def setDuration (p : Profile) (minutes : UInt16) : Outcome × Profile :=
  p.accept (p.payload.setDuration? minutes)

/-- Switches the delay before cooking. -/
def setScheduleEnabled (p : Profile) (enabled : Bool) : Outcome × Profile :=
  p.accept (some (p.payload.withScheduleEnabled enabled))

/-- Sets the delay before cooking in minutes and switches it on. -/
def setScheduleDuration (p : Profile) (minutes : UInt16) : Outcome × Profile :=
  p.accept (p.payload.setScheduleDuration? minutes)

/-- Switches keeping warm after cooking. -/
def setAutoKeepWarm (p : Profile) (enabled : Bool) : Outcome × Profile :=
  p.accept (p.payload.setAutoKeepWarm? enabled)

/-- Sets the type of rice. -/
def setRiceId (p : Profile) (riceId : UInt32) : Outcome × Profile :=
  p.accept (p.payload.setRiceId? riceId)

/-- Sets the taste. -/
def setTaste (p : Profile) (taste : UInt8) : Except Error (Outcome × Profile) :=
  (p.payload.setTaste? taste).map p.accept

/-! ## Checksum -/

/-- Whether the stored checksum belongs to the payload. -/
def isValid (p : Profile) : Bool := p.checksum == Checksum.crc p.payload.bytes

/-- The profile with the checksum of its payload. -/
def refresh (p : Profile) : Profile := { p with checksum := Checksum.crc p.payload.bytes }

@[simp] theorem refresh_payload (p : Profile) : p.refresh.payload = p.payload := rfl

@[simp] theorem isValid_refresh (p : Profile) : p.refresh.isValid = true := by
  simp [isValid, refresh]

/-- Refreshing changes nothing exactly when the checksum was up to date. -/
theorem refresh_eq_self_iff (p : Profile) : p.refresh = p ↔ p.isValid = true := by
  cases p with
  | mk payload checksum =>
    simp only [refresh, isValid, Profile.mk.injEq, true_and, beq_iff_eq]
    exact eq_comm

/-! ## Attributes -/

/-- What a user sees of a profile, with times in minutes. -/
structure Attributes where
  menuId : UInt32
  canSchedule : Bool
  canSetAutoKeepWarm : Bool
  canSetDuration : Bool
  canChooseRice : Bool
  canConfigureTaste : Bool
  cookTimeMin : UInt16
  cookTimeMax : UInt16
  duration : UInt16
  scheduleEnabled : Bool
  scheduleDuration : UInt16
  autoKeepWarm : Bool
  riceId : UInt16
  taste : UInt8
deriving DecidableEq

/-- The attributes of a payload. -/
def Payload.attributes (p : Payload) : Attributes where
  menuId := p.menuId
  canSchedule := p.canSchedule
  canSetAutoKeepWarm := p.canSetAutoKeepWarm
  canSetDuration := p.canSetDuration
  canChooseRice := p.canChooseRice
  canConfigureTaste := p.canConfigureTaste
  cookTimeMin := p.cookTimeMin.total
  cookTimeMax := p.cookTimeMax.total
  duration := p.duration.total
  scheduleEnabled := p.scheduleEnabled
  scheduleDuration := p.scheduleDuration
  autoKeepWarm := p.autoKeepWarm
  riceId := p.riceId
  taste := p.taste

/-- The attributes of a profile. -/
def attributes (p : Profile) : Attributes := p.payload.attributes

end Profile

end RiceCooker
