import RiceCooker.BigEndian

/-! The payload of a profile: twenty bytes, read as the fields they carry. Two
bytes hold two fields each, a switch in the top bit and a number in the other
seven. Every field keeps whatever its bits say, so that fields and bytes
determine each other. -/
namespace RiceCooker.Profile
open BigEndian

/-! ## Sizes -/

/-- Size of a payload in bytes. -/
def payloadSize : Nat := 20

/-- Size of the checksum behind a payload. -/
def trailerSize : Nat := 2

/-- Fewest bytes that are worth checking. -/
def minFrameSize : Nat := 5

/-! ## Times -/

/-- A time in two bytes. Nothing keeps the minutes below sixty. -/
structure HourMinute where
  /-- Whole hours. -/
  hours : UInt8
  /-- Minutes on top of the hours. -/
  minutes : UInt8
deriving DecidableEq

/-- The whole time in minutes, which always fits in a word. -/
def HourMinute.total (time : HourMinute) : UInt16 :=
  UInt16.ofNat (time.hours.toNat * 60 + time.minutes.toNat)

/-- A number of minutes as hours and minutes. The hours are stored in one
byte, so 256 hours start again at zero. -/
def HourMinute.ofMinutes (minutes : UInt16) : HourMinute :=
  ⟨UInt8.ofNat (minutes.toNat / 60), UInt8.ofNat (minutes.toNat % 60)⟩

theorem HourMinute.toNat_total (time : HourMinute) :
    time.total.toNat = time.hours.toNat * 60 + time.minutes.toNat := by
  have hoursBound := time.hours.toNat_lt
  have minutesBound := time.minutes.toNat_lt
  simp [total]
  omega

/-- What was stored reads back up to the multiple of 256 hours that is lost. -/
theorem HourMinute.toNat_total_ofMinutes (minutes : UInt16) :
    (ofMinutes minutes).total.toNat = minutes.toNat % 15360 := by
  have bound := minutes.toNat_lt
  rw [toNat_total]
  simp [ofMinutes]
  omega

/-! ## Switched bytes -/

/-- A byte with a switch in its top bit. -/
def switched (on : Bool) (number : BitVec 7) : UInt8 := ⟨BitVec.cons on number⟩

/-- The switch of a byte. -/
def switchOf (byte : UInt8) : Bool := byte.toBitVec.msb

/-- The number below the switch of a byte. -/
def numberOf (byte : UInt8) : BitVec 7 := byte.toBitVec.setWidth 7

@[simp] theorem switchOf_switched (on : Bool) (number : BitVec 7) :
    switchOf (switched on number) = on := by
  simp [switchOf, switched]

@[simp] theorem numberOf_switched (on : Bool) (number : BitVec 7) :
    numberOf (switched on number) = number := by
  simp [numberOf, switched]

@[simp] theorem switched_switchOf_numberOf (byte : UInt8) :
    switched (switchOf byte) (numberOf byte) = byte := by
  apply UInt8.toBitVec_inj.mp
  exact BitVec.cons_msb_setWidth byte.toBitVec

/-! ## Fields -/

/-- The fields of a payload, in the order of their bytes. -/
structure Payload where
  /-- The kind of device that the profile is for. -/
  deviceType : UInt8
  /-- The variant of the device. -/
  subType : UInt8
  /-- The place of the menu in the device's list. -/
  menuIndex : UInt8
  /-- The menu. -/
  menuId : UInt32
  /-- One bit for each ability that is declared and not derived. -/
  abilities : UInt8
  /-- How long to cook. -/
  duration : HourMinute
  /-- The longest time that can be chosen. -/
  cookTimeMax : HourMinute
  /-- The shortest time that can be chosen. -/
  cookTimeMin : HourMinute
  /-- Whether cooking starts after a delay. -/
  scheduleEnabled : Bool
  /-- The hours of the delay. -/
  scheduleHours : BitVec 7
  /-- Whether to keep warm after cooking. -/
  autoKeepWarm : Bool
  /-- The minutes of the delay. -/
  scheduleMinutes : BitVec 7
  /-- A byte without known meaning. -/
  reserved : UInt8
  /-- The type of rice. -/
  riceId : UInt16
  /-- Softness: 0 is soft, 1 is moderate, 2 is firm. -/
  taste : UInt8
deriving DecidableEq

namespace Payload

/-! ## Bytes -/

/-- The twenty bytes of a payload. -/
def bytes (p : Payload) : List UInt8 :=
  [p.deviceType, p.subType, p.menuIndex,
    high (upper p.menuId), low (upper p.menuId), high (lower p.menuId), low (lower p.menuId),
    p.abilities,
    p.duration.hours, p.duration.minutes,
    p.cookTimeMax.hours, p.cookTimeMax.minutes,
    p.cookTimeMin.hours, p.cookTimeMin.minutes,
    switched p.scheduleEnabled p.scheduleHours,
    switched p.autoKeepWarm p.scheduleMinutes,
    p.reserved,
    high p.riceId, low p.riceId,
    p.taste]

/-- The payload of exactly twenty bytes. -/
def ofBytes? : List UInt8 → Option Payload
  | [deviceType, subType, menuIndex, menu0, menu1, menu2, menu3, abilities,
      hours, minutes, maxHours, maxMinutes, minHours, minMinutes,
      scheduleHours, scheduleMinutes, reserved, riceHigh, riceLow, taste] =>
    some {
      deviceType, subType, menuIndex, abilities, reserved, taste
      menuId := joinHalves (join menu0 menu1) (join menu2 menu3)
      duration := ⟨hours, minutes⟩
      cookTimeMax := ⟨maxHours, maxMinutes⟩
      cookTimeMin := ⟨minHours, minMinutes⟩
      scheduleEnabled := switchOf scheduleHours
      scheduleHours := numberOf scheduleHours
      autoKeepWarm := switchOf scheduleMinutes
      scheduleMinutes := numberOf scheduleMinutes
      riceId := join riceHigh riceLow }
  | _ => none

@[simp] theorem length_bytes (p : Payload) : p.bytes.length = payloadSize := rfl

/-- The bytes of a payload read back as its fields. -/
@[simp] theorem ofBytes?_bytes (p : Payload) : ofBytes? p.bytes = some p := by
  simp [ofBytes?, bytes]

/-- Twenty bytes and no other number of them make a payload, and it has those
bytes. -/
theorem bytes_of_ofBytes? {data : List UInt8} {p : Payload} (read : ofBytes? data = some p) :
    p.bytes = data := by
  unfold ofBytes? at read
  split at read
  · cases read
    simp [bytes]
  · simp at read

/-- Only another number of bytes makes no payload. -/
theorem ofBytes?_eq_none_iff (data : List UInt8) :
    ofBytes? data = none ↔ data.length ≠ payloadSize := by
  constructor
  · intro refused size
    match data, size with
    | [_, _, _, _, _, _, _, _, _, _, _, _, _, _, _, _, _, _, _, _], _ => simp [ofBytes?] at refused
  · intro size
    cases read : ofBytes? data with
    | none => rfl
    | some p => exact absurd (bytes_of_ofBytes? read ▸ length_bytes p) size

/-- Payloads with the same bytes are the same. -/
theorem bytes_inj {p q : Payload} : p.bytes = q.bytes ↔ p = q := by
  refine ⟨fun same => ?_, fun same => same ▸ rfl⟩
  have read := ofBytes?_bytes p
  rw [same, ofBytes?_bytes] at read
  exact (Option.some.inj read).symm

/-! ## Derived readings -/

/-- The delay before cooking in minutes, which always fits in a word. -/
def scheduleDuration (p : Payload) : UInt16 :=
  UInt16.ofNat (p.scheduleHours.toNat * 60 + p.scheduleMinutes.toNat)

theorem toNat_scheduleDuration (p : Payload) :
    p.scheduleDuration.toNat = p.scheduleHours.toNat * 60 + p.scheduleMinutes.toNat := by
  have hoursBound := p.scheduleHours.isLt
  have minutesBound := p.scheduleMinutes.isLt
  simp [scheduleDuration]
  omega

/-- A delay reads back up to the multiple of 128 hours that is lost. -/
theorem toNat_scheduleDuration_of_minutes {p : Payload} {minutes : Nat}
    (hours : p.scheduleHours = BitVec.ofNat 7 (minutes / 60))
    (rest : p.scheduleMinutes = BitVec.ofNat 7 (minutes % 60)) :
    p.scheduleDuration.toNat = minutes % 7680 := by
  rw [toNat_scheduleDuration, hours, rest, BitVec.toNat_ofNat, BitVec.toNat_ofNat]
  omega

/-- Whether the profile can start after a delay. -/
def canSchedule (p : Payload) : Bool := p.abilities &&& 0x40 != 0

/-- Whether keeping warm can be switched. -/
def canSetAutoKeepWarm (p : Payload) : Bool := p.abilities &&& 0x20 != 0

/-- Whether there is more than one duration to choose from. -/
def canSetDuration (p : Payload) : Bool := decide (p.cookTimeMin.total < p.cookTimeMax.total)

/-- The menus that ask for a type of rice. -/
def riceMenus : List UInt32 := [1, 2]

/-- The menu that asks for a taste. -/
def tasteMenu : UInt32 := 1

/-- Whether a type of rice can be chosen. -/
def canChooseRice (p : Payload) : Bool := riceMenus.contains p.menuId

/-- Whether the taste can be chosen. -/
def canConfigureTaste (p : Payload) : Bool := p.menuId == tasteMenu

end Payload

end RiceCooker.Profile
