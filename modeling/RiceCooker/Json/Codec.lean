import RiceCooker.Json.Basic
import RiceCooker.Property

/-! Reading and writing of values as JSON. A type has one written form; reading
may accept more than that form, but never another kind of value: numbers, truth
values and texts do not stand for one another. The main statements are the
instances of `LawfulCodec`: what was written reads back as itself. -/
namespace RiceCooker

/-- Values that can be written as JSON and read back. -/
class Json.Codec (α : Type) where
  /-- The written form. -/
  encode : α → Json
  /-- The value that is read, if there is one. -/
  decode? : Json → Option α

namespace Json
export Codec (encode decode?)

/-- What is written after reading. -/
def normalize? (α : Type) [Codec α] (json : Json) : Option Json :=
  (decode? json : Option α).map encode

/-! ## Simple values -/

/-- A whole number between these limits. -/
def integerWithin? (least greatest : Int) : Json → Option Int
  | integer value => if least ≤ value ∧ value ≤ greatest then some value else none
  | _ => none

instance : Codec Bool where
  encode := bool
  decode?
    | bool value => some value
    | _ => none

instance : Codec String where
  encode := text
  decode?
    | text value => some value
    | _ => none

instance : Codec UInt8 where
  encode n := integer n.toNat
  decode? json := (integerWithin? 0 255 json).map fun n => UInt8.ofNat n.toNat

instance : Codec UInt16 where
  encode n := integer n.toNat
  decode? json := (integerWithin? 0 65535 json).map fun n => UInt16.ofNat n.toNat

instance : Codec UInt32 where
  encode n := integer n.toNat
  decode? json := (integerWithin? 0 4294967295 json).map fun n => UInt32.ofNat n.toNat

instance : Codec Int64 where
  encode n := integer n.toInt
  decode? json :=
    (integerWithin? Int64.minValue.toInt Int64.maxValue.toInt json).map Int64.ofInt

/-! ## Collections -/

instance {α : Type} [Codec α] : Codec (Option α) where
  encode
    | some value => encode value
    | none => null
  decode?
    | null => some none
    | json => (decode? json).map some

instance {α : Type} [Codec α] : Codec (List α) where
  encode values := array (values.map encode)
  decode?
    | array elements => elements.mapM decode?
    | _ => none

/-- A named value. -/
def entry? {α : Type} [Codec α] (field : String × Json) : Option (String × α) :=
  (decode? field.2).map fun value => (field.1, value)

instance {α : Type} [Codec α] : Codec (Std.ExtTreeMap String α compare) where
  encode held := object (held.toList.map fun (name, value) => (name, encode value))
  decode?
    | object fields => (fields.mapM entry?).map Entries.toMap
    | _ => none

/-! ## Properties -/

instance : Codec Value where
  encode
    | .bool value => bool value
    | .int value => encode value
    | .text value => text value
  decode?
    | bool value => some (.bool value)
    | text value => some (.text value)
    | json => (decode? json).map .int

/-! ## Reading what was written -/

/-- Types whose written form reads back as the value that was written. -/
class LawfulCodec (α : Type) [Codec α] : Prop where
  /-- Nothing is lost in writing. -/
  decode?_encode (value : α) : decode? (encode value) = some value

export LawfulCodec (decode?_encode)

attribute [simp] decode?_encode

instance : LawfulCodec Bool := ⟨fun _ => rfl⟩

instance : LawfulCodec String := ⟨fun _ => rfl⟩

instance : LawfulCodec UInt8 where
  decode?_encode n := by
    have bound := n.toNat_lt
    have fits : (0 : Int) ≤ n.toNat ∧ (n.toNat : Int) ≤ 255 := by omega
    simp [encode, decode?, integerWithin?, fits]

instance : LawfulCodec UInt16 where
  decode?_encode n := by
    have bound := n.toNat_lt
    have fits : (0 : Int) ≤ n.toNat ∧ (n.toNat : Int) ≤ 65535 := by omega
    simp [encode, decode?, integerWithin?, fits]

instance : LawfulCodec UInt32 where
  decode?_encode n := by
    have bound := n.toNat_lt
    have fits : (0 : Int) ≤ n.toNat ∧ (n.toNat : Int) ≤ 4294967295 := by omega
    simp [encode, decode?, integerWithin?, fits]

instance : LawfulCodec Int64 where
  decode?_encode n := by
    have least := Int64.le_toInt n
    have greatest := Int64.toInt_lt n
    have fits : Int64.minValue.toInt ≤ n.toInt ∧ n.toInt ≤ Int64.maxValue.toInt := by
      rw [Int64.toInt_minValue, Int64.toInt_maxValue]
      exact ⟨least, by omega⟩
    simp only [encode, decode?, integerWithin?, fits, and_self, ↓reduceIte, Option.map_some,
      Int64.ofInt_toInt]

/-- A value that is never written as the absent value may be absent. -/
theorem decode?_encode_option {α : Type} [Codec α] [LawfulCodec α]
    (present : ∀ value : α, encode value ≠ null) (value : Option α) :
    decode? (encode value) = some value := by
  cases value with
  | none => rfl
  | some value =>
    show decode? (α := Option α) (encode value) = _
    have read := decode?_encode value
    cases shape : encode value with
    | null => exact absurd shape (present value)
    | _ => simp only [decode?, ← shape, read, Option.map_some]

instance : LawfulCodec (Option UInt8) := ⟨decode?_encode_option fun _ => by simp [encode]⟩

theorem mapM_decode?_encode {α : Type} [Codec α] [LawfulCodec α] (values : List α) :
    (values.map encode).mapM decode? = some values := by
  induction values with
  | nil => rfl
  | cons value rest ih =>
    rw [List.map_cons, List.mapM_cons, decode?_encode, ih]
    rfl

instance {α : Type} [Codec α] [LawfulCodec α] : LawfulCodec (List α) :=
  ⟨mapM_decode?_encode⟩

theorem mapM_entry?_encode {α : Type} [Codec α] [LawfulCodec α] (entries : List (String × α)) :
    (entries.map fun (name, value) => (name, encode value)).mapM entry? = some entries := by
  induction entries with
  | nil => rfl
  | cons entry rest ih =>
    rw [List.map_cons, List.mapM_cons, ih, entry?, decode?_encode]
    rfl

/-- The fields of a written map may stand in any order. -/
theorem decode?_object_of_perm {α : Type} [Codec α] [LawfulCodec α]
    {held : Std.ExtTreeMap String α compare} {entries : List (String × α)}
    (same : entries.Perm held.toList) :
    decode? (object (entries.map fun (name, value) => (name, encode value))) = some held := by
  show ((entries.map fun (name, value) => (name, encode value)).mapM entry?).map
    Entries.toMap = _
  rw [mapM_entry?_encode, Option.map_some, Entries.toMap_of_perm same]

instance {α : Type} [Codec α] [LawfulCodec α] : LawfulCodec (Std.ExtTreeMap String α compare) :=
  ⟨fun _ => decode?_object_of_perm (.refl _)⟩

instance : LawfulCodec Value where
  decode?_encode
    | .bool _ => rfl
    | .text _ => rfl
    | .int value => by
      show (decode? (encode value)).map Value.int = _
      rw [decode?_encode, Option.map_some]

end Json

end RiceCooker
