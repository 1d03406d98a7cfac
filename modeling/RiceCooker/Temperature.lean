import RiceCooker.Text.Hex

/-! Temperatures of a cook cycle. The cooker sends all samples as one text of
hexadecimal digits, a byte for each sample in degrees Celsius, and sends a
fixed text when there is nothing to tell. -/
namespace RiceCooker
open Text

/-- The samples of a cook cycle, oldest first. -/
structure TemperatureHistory where
  /-- Degrees Celsius. -/
  samples : List UInt8
deriving DecidableEq

namespace TemperatureHistory

/-! ## Reading -/

/-- A history without samples. -/
def empty : TemperatureHistory := ⟨[]⟩

/-- What the cooker sends when it is not cooking. -/
def noData : String := "0000"

/-- The history that a text tells. A text that does not spell bytes tells
nothing, and blanks make it such a text. -/
def ofHex (text : String) : TemperatureHistory :=
  if text = noData then empty
  else
    match Hex.decode text.toList with
    | .ok samples => ⟨samples⟩
    | .error _ => empty

/-- What is remarked when a text is read: the wrong digit in it. The text for no
samples and a text of odd length are passed over in silence. -/
def readingRemarks (text : String) : List String :=
  if text = noData then []
  else
    match Hex.decode text.toList with
    | .error (.badDigit byte position) =>
      ["Ignoring malformed temperature history: " ++ (Hex.Fault.badDigit byte position).message]
    | _ => []

/-! ## Views -/

/-- The latest sample. -/
def last? (history : TemperatureHistory) : Option UInt8 := history.samples.getLast?

/-- The number of samples. -/
def length (history : TemperatureHistory) : Nat := history.samples.length

/-- Whether there are no samples. -/
def isEmpty (history : TemperatureHistory) : Bool := history.samples.isEmpty

/-- The samples as hexadecimal text. -/
def toHex (history : TemperatureHistory) : String := String.ofList (Hex.encode history.samples)

/-- The samples in decimal, between brackets. -/
def render (history : TemperatureHistory) : String :=
  "[" ++ ", ".intercalate (history.samples.map fun sample => toString sample.toNat) ++ "]"

/-- What was written reads back, except for the text that tells nothing. -/
theorem ofHex_toHex (history : TemperatureHistory) (telling : history.toHex ≠ noData) :
    ofHex history.toHex = history := by
  rw [ofHex, if_neg telling, toHex, String.toList_ofList, Hex.decode_encode]

end TemperatureHistory

end RiceCooker
