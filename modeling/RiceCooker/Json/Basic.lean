import RiceCooker.Entries

/-! Values of the JSON data format. Whole numbers are kept apart from other
numbers, which no record here has a use for; the fields of an object keep their
order. The main statement is `row?_record`: a written record reads back. -/
namespace RiceCooker

/-- A JSON value. -/
inductive Json where
  /-- The absent value. -/
  | null
  /-- A truth value. -/
  | bool (value : Bool)
  /-- A number written without fraction and exponent. -/
  | integer (value : Int)
  /-- Any other number, as it was written. -/
  | number (literal : String)
  /-- A text. -/
  | text (value : String)
  /-- A sequence. -/
  | array (elements : List Json)
  /-- Named fields. -/
  | object (fields : List (String × Json))

namespace Json

/-! ## Records -/

/-- A field of a record. -/
structure Column where
  /-- The name of the field. -/
  name : String
  /-- Whether an object without the field is no record. Otherwise such an
  object stands for one with an absent value. -/
  required : Bool := true

/-- The field of an object for a column. -/
def Column.pick? (fields : List (String × Json)) (column : Column) : Option Json :=
  match Entries.last? column.name fields with
  | some value => some value
  | none => if column.required then none else some null

/-- The values of a record in the order of its columns. A record is an object,
which may hold more fields in any order, or a sequence of exactly the values. -/
def row? (columns : List Column) : Json → Option (List Json)
  | object fields => columns.mapM (Column.pick? fields)
  | array elements => if elements.length = columns.length then some elements else none
  | _ => none

/-- The written form of a record: an object with exactly its columns. -/
def record (columns : List Column) (values : List Json) : Json :=
  object ((columns.map Column.name).zip values)

/-- An object has the row of what is picked from it for each column. -/
theorem row?_object {fields : List (String × Json)} {columns : List Column} {values : List Json}
    (size : values.length = columns.length)
    (picked : ∀ pair ∈ columns.zip values, pair.1.pick? fields = some pair.2) :
    row? columns (object fields) = some values := by
  show columns.mapM (Column.pick? fields) = some values
  induction columns generalizing values with
  | nil =>
    cases values with
    | nil => rfl
    | cons _ _ => simp at size
  | cons column rest ih =>
    cases values with
    | nil => simp at size
    | cons value more =>
      have here := picked (column, value) (by simp)
      have below := ih (by simpa using size) fun pair member => picked pair (by simp [member])
      rw [List.mapM_cons, below, here]
      rfl

/-- A written record has the values that were written, whatever their columns
are called, as long as no two are called the same. -/
theorem row?_record {columns : List Column} {values : List Json}
    (distinct : (columns.map Column.name).Nodup) (size : values.length = columns.length) :
    row? columns (record columns values) = some values := by
  apply row?_object size
  intro pair member
  have apart : ((columns.map Column.name).zip values).Pairwise
      fun first second => first.1 ≠ second.1 := by
    have names : (((columns.map Column.name).zip values).map Prod.fst).Nodup := by
      rwa [List.map_fst_zip (by simp [size])]
    exact List.pairwise_map.mp names
  have found : Entries.last? pair.1.name ((columns.map Column.name).zip values) = some pair.2 := by
    rw [Entries.last?_eq_some_iff apart, List.zip_map_left]
    exact List.mem_map.mpr ⟨pair, member, rfl⟩
  simp only [Column.pick?, found]

/-! ## Choices -/

/-- The word that names a choice: a text, or an object with that one field and
nothing in it. -/
def word? : Json → Option String
  | text value => some value
  | object [(name, null)] => some name
  | _ => none

end Json

end RiceCooker
