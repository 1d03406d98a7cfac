import RiceCooker.BigEndian
import RiceCooker.Text.Quoted

/-! Bytes as hexadecimal text. Writing gives two lowercase digits for each
byte, high half first; reading takes digits of either case and refuses a text
that does not fill whole bytes or holds anything but digits. -/
namespace RiceCooker.Text.Hex

/-! ## Digits -/

/-- The value of a hexadecimal digit of either case. -/
def value? (c : Char) : Option Nat :=
  if '0' ≤ c ∧ c ≤ '9' then some (c.toNat - '0'.toNat)
  else if 'a' ≤ c ∧ c ≤ 'f' then some (c.toNat - 'a'.toNat + 10)
  else if 'A' ≤ c ∧ c ≤ 'F' then some (c.toNat - 'A'.toNat + 10)
  else none

/-- Whether a character is a hexadecimal digit. -/
def isDigit (c : Char) : Bool := (value? c).isSome

/-! ## Writing -/

/-- The two digits of a byte. -/
def encodeByte (byte : UInt8) : List Char :=
  [Nat.digitChar (byte.toNat / 16), Nat.digitChar (byte.toNat % 16)]

/-- The digits of a sequence of bytes. -/
def encode (bytes : List UInt8) : List Char := bytes.flatMap encodeByte

/-- A byte as a marked number of two digits. -/
def markedByte (byte : UInt8) : String := "0x" ++ String.ofList (encodeByte byte)

/-- A word as a marked number of four digits. -/
def markedWord (word : UInt16) : String := "0x" ++ String.ofList (encode (BigEndian.bytes word))

/-! ## Reading -/

/-- Why a text is not the written form of bytes. -/
inductive Fault where
  /-- The text takes an odd number of bytes. -/
  | oddLength
  /-- The byte at this position of the text begins a character that is no digit. -/
  | badDigit (byte : UInt8) (position : Nat)
deriving DecidableEq

/-- The fault in words. The byte is shown as the character of that code. -/
def Fault.message : Fault → String
  | .oddLength => "Odd number of digits"
  | .badDigit byte position =>
    "Invalid character " ++ Quoted.letter (Char.ofNat byte.toNat) ++ " at position " ++
      toString position

/-- The number of bytes that a text takes in UTF-8. -/
def byteLength : List Char → Nat
  | [] => 0
  | c :: rest => c.utf8Size + byteLength rest

/-- The first byte of a character in UTF-8. -/
def leadByte (c : Char) : UInt8 := (String.utf8EncodeChar c).headD 0

/-- The values of a text of digits that starts at this position. All that
stands in front of the first fault is digits, each of one byte, so positions
count both characters and bytes. -/
def values (position : Nat) : List Char → Except Fault (List Nat)
  | [] => .ok []
  | c :: rest =>
    match value? c with
    | none => .error (.badDigit (leadByte c) position)
    | some value => (values (position + 1) rest).map (value :: ·)

/-- Two digits make a byte, the first the more significant. -/
def pairUp : List Nat → List UInt8
  | hi :: lo :: rest => UInt8.ofNat (hi * 16 + lo) :: pairUp rest
  | _ => []

/-- The bytes that a text spells. Its length is looked at before its digits. -/
def decode (text : List Char) : Except Fault (List UInt8) :=
  if byteLength text % 2 = 1 then .error .oddLength else (values 0 text).map pairUp

/-! ## Reading what was written -/

theorem value?_digitChar {n : Nat} (small : n < 16) : value? (Nat.digitChar n) = some n := by
  have all : ∀ m : Fin 16, value? (Nat.digitChar m.val) = some m.val := by decide
  exact all ⟨n, small⟩

theorem utf8Size_digitChar {n : Nat} (small : n < 16) : (Nat.digitChar n).utf8Size = 1 := by
  have all : ∀ m : Fin 16, (Nat.digitChar m.val).utf8Size = 1 := by decide
  exact all ⟨n, small⟩

theorem byteLength_encode (bytes : List UInt8) : byteLength (encode bytes) = 2 * bytes.length := by
  induction bytes with
  | nil => rfl
  | cons byte rest ih =>
    have bound := byte.toNat_lt
    have hi : byte.toNat / 16 < 16 := by omega
    have lo : byte.toNat % 16 < 16 := by omega
    simp only [encode] at ih
    simp only [byteLength, encode, List.flatMap_cons, encodeByte, List.cons_append, List.nil_append,
      utf8Size_digitChar hi, utf8Size_digitChar lo, ih, List.length_cons]
    omega

theorem values_encode (bytes : List UInt8) (position : Nat) :
    values position (encode bytes) =
      .ok (bytes.flatMap fun byte => [byte.toNat / 16, byte.toNat % 16]) := by
  induction bytes generalizing position with
  | nil => rfl
  | cons byte rest ih =>
    have bound := byte.toNat_lt
    have hi : byte.toNat / 16 < 16 := by omega
    have lo : byte.toNat % 16 < 16 := by omega
    simp only [encode] at ih
    simp only [encode, List.flatMap_cons, encodeByte, List.cons_append, List.nil_append, values,
      value?_digitChar hi, value?_digitChar lo, ih, Except.map]

theorem pairUp_halves (bytes : List UInt8) :
    pairUp (bytes.flatMap fun byte => [byte.toNat / 16, byte.toNat % 16]) = bytes := by
  induction bytes with
  | nil => rfl
  | cons byte rest ih =>
    have whole : byte.toNat / 16 * 16 + byte.toNat % 16 = byte.toNat := by omega
    simp only [List.flatMap_cons, List.cons_append, List.nil_append, pairUp, whole,
      UInt8.ofNat_toNat, ih]

/-- What was written reads back. -/
@[simp] theorem decode_encode (bytes : List UInt8) : decode (encode bytes) = .ok bytes := by
  rw [decode, byteLength_encode, if_neg (by omega), values_encode, Except.map, pairUp_halves]

end RiceCooker.Text.Hex
