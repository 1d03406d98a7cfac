import RiceCooker.BigEndian

/-! A sixteen-bit cyclic redundancy check. The message is read as a polynomial
over the two-element field, most significant bit first, and the checksum is
its remainder after appending sixteen zero bits. The register starts at zero,
nothing is reflected and nothing is added at the end. -/
namespace RiceCooker.Checksum
open BigEndian

/-! ## The register -/

/-- A remainder: bit `i` is the coefficient of `x ^ i`. -/
abbrev Register := BitVec 16

/-- The terms of the generator `x¹⁶ + x¹² + x⁵ + 1` below `x¹⁶`. -/
def generator : Register := 0x1021#16

/-- Multiplication by `x`. A term pushed out at the top comes back as the
lower terms of the generator. -/
def shift (register : Register) : Register :=
  register <<< 1 ^^^ if register.msb then generator else 0#16

/-- One message bit placed at the coefficient of `x¹⁵`. -/
def topBit (bit : Bool) : Register := if bit then 0x8000#16 else 0#16

/-- Takes in one bit of the message. -/
def feed (register : Register) (bit : Bool) : Register := shift (register ^^^ topBit bit)

/-! ## Messages -/

/-- The bits of a byte, most significant first. -/
def bitsOfByte (byte : UInt8) : List Bool :=
  (List.range 8).map fun position => byte.toBitVec.getMsbD position

/-- The bits of a message, in the order they are taken in. -/
def bits (message : List UInt8) : List Bool := message.flatMap bitsOfByte

/-- The remainder left in the register by a message. -/
def remainder (message : List UInt8) : Register := (bits message).foldl feed 0#16

/-- The checksum of a message. -/
def crc (message : List UInt8) : UInt16 := ⟨remainder message⟩

/-! ## Trailers -/

/-- The message followed by its checksum, high byte first. -/
def append (message : List UInt8) : List UInt8 := message ++ bytes (crc message)

/-- Whether a message that ends in its own checksum is intact: there is room
for a trailer, and running over message and trailer leaves nothing. -/
def verify (frame : List UInt8) : Bool := decide (2 ≤ frame.length) && crc frame == 0

/-- The message and the trailer of a frame that has room for one. -/
def splitTrailer? : List UInt8 → Option (List UInt8 × UInt16)
  | [] => none
  | byte :: rest =>
    match rest with
    | [] => none
    | [lo] => some ([], join byte lo)
    | _ :: _ :: _ =>
      (splitTrailer? rest).map fun (message, trailer) => (byte :: message, trailer)

/-! ## Elementary laws -/

theorem bits_append (first second : List UInt8) :
    bits (first ++ second) = bits first ++ bits second := by
  simp [bits]

@[simp] theorem length_bitsOfByte (byte : UInt8) : (bitsOfByte byte).length = 8 := rfl

theorem length_bits (message : List UInt8) : (bits message).length = 8 * message.length := by
  induction message with
  | nil => rfl
  | cons byte rest ih =>
    simp only [bits, List.flatMap_cons, List.length_append, length_bitsOfByte, List.length_cons]
    simp only [bits] at ih
    omega

/-- Shifting treats the terms of a sum one by one. -/
theorem shift_xor (left right : Register) :
    shift (left ^^^ right) = shift left ^^^ shift right := by
  have carried : (if left.msb ^^ right.msb then generator else 0#16) =
      (if left.msb then generator else 0#16) ^^^ (if right.msb then generator else 0#16) := by
    cases left.msb <;> cases right.msb <;> decide
  rw [shift, shift, shift, BitVec.msb_xor, BitVec.shiftLeft_xor_distrib, carried]
  ac_rfl

@[simp] theorem shift_zero : shift 0#16 = 0#16 := rfl

@[simp] theorem crc_nil : crc [] = 0 := rfl

/-- A frame splits exactly into the message in front of its last two bytes
and the word those bytes spell. -/
theorem splitTrailer?_append (message : List UInt8) (hi lo : UInt8) :
    splitTrailer? (message ++ [hi, lo]) = some (message, join hi lo) := by
  induction message with
  | nil => rfl
  | cons byte rest ih =>
    cases rest with
    | nil => rfl
    | cons second more =>
      cases more <;> simp_all [splitTrailer?]

/-- Splitting loses nothing. -/
theorem eq_append_of_splitTrailer? {frame message : List UInt8} {trailer : UInt16}
    (split : splitTrailer? frame = some (message, trailer)) :
    frame = message ++ bytes trailer := by
  fun_induction splitTrailer? frame generalizing message with
  | case1 => simp at split
  | case2 => simp at split
  | case3 hi lo =>
    simp only [Option.some.injEq, Prod.mk.injEq] at split
    obtain ⟨rfl, rfl⟩ := split
    simp
  | case4 byte second third more ih =>
    obtain ⟨⟨front, word⟩, found, same⟩ := Option.map_eq_some_iff.mp split
    simp only [Prod.mk.injEq] at same
    obtain ⟨rfl, rfl⟩ := same
    rw [List.cons_append, ← ih found]

/-- Only a frame of fewer than two bytes has no trailer. -/
theorem splitTrailer?_eq_none_iff (frame : List UInt8) :
    splitTrailer? frame = none ↔ frame.length < 2 := by
  fun_induction splitTrailer? frame with
  | case1 => simp
  | case2 => simp
  | case3 hi lo => simp
  | case4 byte second third more ih =>
    simp only [Option.map_eq_none_iff, ih, List.length_cons]
    omega

end RiceCooker.Checksum
