/-! Quoted text. A text stands between marks, and what could end it early or
cannot be seen is written as an escape: a backslash with a letter, or the code
point in braces. -/
namespace RiceCooker.Text.Quoted

/-! ## Escapes -/

/-- Characters of the first 256 with no visible form other than the ordinary
space: the controls, the space that does not break and the optional hyphen.
What is quoted here lies in that range. -/
def isHidden (c : Char) : Bool :=
  decide (c.toNat < 0x20) || (decide (0x7f ≤ c.toNat) && decide (c.toNat ≤ 0xa0)) ||
    decide (c.toNat = 0xad)

/-- How a character is written between two of these marks. Only the mark in
use is escaped, not the other one. -/
def escape (mark c : Char) : List Char :=
  if c = '\x00' then ['\\', '0']
  else if c = '\t' then ['\\', 't']
  else if c = '\n' then ['\\', 'n']
  else if c = '\r' then ['\\', 'r']
  else if c = '\\' ∨ c = mark then ['\\', c]
  else if isHidden c then ['\\', 'u', '\x7b'] ++ Nat.toDigits 16 c.toNat ++ ['\x7d']
  else [c]

/-! ## Quoting -/

/-- The mark around a single character. -/
def apostrophe : Char := '\x27'

/-- The mark around a text. -/
def doubleMark : Char := '\x22'

/-- One character between marks. -/
def letter (c : Char) : String :=
  String.ofList ([apostrophe] ++ escape apostrophe c ++ [apostrophe])

/-- A text between marks. -/
def string (text : String) : String :=
  String.ofList ([doubleMark] ++ text.toList.flatMap (escape doubleMark) ++ [doubleMark])

end RiceCooker.Text.Quoted
