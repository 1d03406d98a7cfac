import RiceCooker.Profile.Basic
import RiceCooker.Text.Blank

/-! Profiles as they travel: the bytes of the payload, then their checksum,
high byte first, written as hexadecimal text. Reading looks at the text first,
then at the checksum and only then at the size of the payload; writing always
computes a new checksum. Both leave remarks in the log of whoever reads or
writes. -/
namespace RiceCooker.Profile
open Text

/-! ## Reading -/

/-- The profile that a frame of bytes carries. -/
def ofFrame (frame : List UInt8) : Except Error Profile :=
  if frame.length < minFrameSize then .error (.invalidProfile (.tooShort frame.length))
  else
    match Checksum.splitTrailer? frame with
    | none => .error (.invalidProfile (.tooShort frame.length))
    | some (message, trailer) =>
      if Checksum.verify frame then
        match Payload.ofBytes? message with
        | none => .error (.invalidProfile (.wrongPayloadSize message.length))
        | some payload => .ok ⟨payload, trailer⟩
      else .error (.checksumMismatch (Checksum.crc message) trailer)

/-- The profile that a text holds. Blanks around the digits do not matter. -/
def parse (text : String) : Except Error Profile :=
  match Hex.decode (trim text.toList) with
  | .error fault => .error (.invalidProfile (.notHex fault))
  | .ok frame => ofFrame frame

/-- What is remarked when a text is read: the number of bytes, once there are
bytes. -/
def readingRemarks (text : String) : List String :=
  match Hex.decode (trim text.toList) with
  | .error _ => []
  | .ok frame => ["CookerProfile::parse called with " ++ toString frame.length ++ " bytes"]

/-! ## Writing -/

/-- The bytes of a profile with the checksum that it holds. -/
def frame (p : Profile) : List UInt8 := p.payload.bytes ++ BigEndian.bytes p.checksum

/-- The bytes of a profile with a new checksum. -/
def toBytes (p : Profile) : List UInt8 := p.refresh.frame

/-- The text of a profile with a new checksum. -/
def toHex (p : Profile) : String := String.ofList (Hex.encode p.toBytes)

/-- What is remarked when a profile is written as this text. -/
def writingRemark (hex : String) : String := "Serialized profile: " ++ hex

/-! ## Elementary laws -/

@[simp] theorem length_frame (p : Profile) : p.frame.length = payloadSize + trailerSize := rfl

/-- Only the payload is written. -/
theorem toBytes_eq_iff (p q : Profile) : p.toBytes = q.toBytes ↔ p.payload = q.payload := by
  refine ⟨fun same => ?_, fun same => by simp [toBytes, frame, refresh, same]⟩
  have front := congrArg (List.take payloadSize) same
  have cut : ∀ r : Profile, r.toBytes.take payloadSize = r.payload.bytes := fun _ => rfl
  rw [cut, cut] at front
  exact Payload.bytes_inj.mp front

/-- A frame splits into the payload and the stored checksum. -/
theorem splitTrailer?_frame (p : Profile) :
    Checksum.splitTrailer? p.frame = some (p.payload.bytes, p.checksum) := by
  rw [frame, BigEndian.bytes, Checksum.splitTrailer?_append, BigEndian.join_high_low]

/-- A frame is read back exactly when its checksum verifies. -/
theorem ofFrame_frame (p : Profile) :
    ofFrame p.frame =
      if Checksum.verify p.frame then .ok p
      else .error (.checksumMismatch (Checksum.crc p.payload.bytes) p.checksum) := by
  have size : ¬p.frame.length < minFrameSize := by simp [payloadSize, trailerSize, minFrameSize]
  rw [ofFrame, if_neg size, splitTrailer?_frame]
  simp

end RiceCooker.Profile
