import RiceCooker.Entries
import RiceCooker.Text.Blank
import RiceCooker.Text.Numeral

/-! Property values as a device reports them, and collections of them by name.
The same number may arrive as an integer, as a switch or as text; reading a
value as a number does not tell these apart. -/
namespace RiceCooker
open Text

/-! ## Values -/

/-- The value of a property. -/
inductive Value where
  /-- A switch. -/
  | bool (value : Bool)
  /-- A number. -/
  | int (value : Int64)
  /-- A text: a profile, a history, a version. -/
  | text (value : String)
deriving DecidableEq

namespace Value

/-- A switch as a number. -/
def intOfBool (value : Bool) : Int64 := if value then 1 else 0

/-- The value as a number. A text counts if a signed numeral is all it holds
between blanks. -/
def asInt? : Value → Option Int64
  | bool value => some (intOfBool value)
  | int value => some value
  | text value => int64? (trim value.toList)

/-- The value as a text, which only a text is. -/
def asText? : Value → Option String
  | text value => some value
  | _ => none

/-- The value as it is shown. -/
def render : Value → String
  | bool value => truth value
  | int value => decimal value
  | text value => value

end Value

/-! ## Collections -/

/-- Values by property name. Two collections are equal when they hold the same
values under the same names. -/
abbrev Properties := Std.ExtTreeMap String Value compare

namespace Properties

/-- The collection of these entries. Of two entries under one name, the later
one counts. -/
def ofEntries (entries : List (String × Value)) : Properties := Entries.toMap entries

/-- What a collection holds under a name is the last entry under it. -/
theorem getElem?_ofEntries (entries : List (String × Value)) (name : String) :
    (ofEntries entries)[name]? = Entries.last? name entries :=
  Entries.getElem?_toMap entries name

end Properties

end RiceCooker
