import RiceCooker.Json.Records

/-! What reading and writing JSON make of each other. Writing loses nothing, so
what is written after reading is read again as the same value; it is the one
form in which that value is written, and is written as itself. A record may be
read from several forms, which all come down to the row of its values. -/
namespace RiceCooker.Json

/-! ## Written forms -/

/-- Writing loses nothing, and leaves alone what was written after reading. -/
structure Faithful (α : Type) [Codec α] : Prop where
  /-- What is written is read as the value that was written. -/
  back (value : α) : decode? (encode value) = some value
  /-- What is written after reading is read again and written as itself. -/
  settled (json written : Json) :
    normalize? α json = some written → normalize? α written = some written

theorem normalize?_encode {α : Type} [Codec α] [LawfulCodec α] (value : α) :
    normalize? α (encode value) = some (encode value) := by
  rw [normalize?, decode?_encode, Option.map_some]

theorem faithful (α : Type) [Codec α] [LawfulCodec α] : Faithful α where
  back := decode?_encode
  settled json written read := by
    obtain ⟨value, _, rfl⟩ := Option.map_eq_some_iff.mp read
    exact normalize?_encode value

/-! ## Records -/

/-- How an object may show the value of a column: in the last field of that name, or, where the
column is not required, by having no such field when the value is absent. -/
def Shows (fields : List (String × Json)) (column : Column) (value : Json) : Prop :=
  Entries.last? column.name fields = some value ∨
    Entries.last? column.name fields = none ∧ column.required = false ∧ value = null

theorem pick?_of_shows {fields : List (String × Json)} {column : Column} {value : Json}
    (shown : Shows fields column value) : column.pick? fields = some value := by
  obtain found | ⟨missing, optional, rfl⟩ := shown
  · simp only [Column.pick?, found]
  · simp only [Column.pick?, missing, optional, Bool.false_eq_true, ↓reduceIte]

/-- A record is read from the sequence of its values and from every object that shows them,
whatever else that object holds and in whatever order. -/
structure Tabular (α : Type) [Record α] : Prop extends Faithful α where
  /-- The sequence of the values is read as the record. -/
  sequence (value : α) : decode? (array (Record.toRow value)) = some value
  /-- An object is read as the sequence of the values that it shows. -/
  fields (fields : List (String × Json)) (values : List Json) :
    values.length = (Record.columns α).length →
    (∀ pair ∈ (Record.columns α).zip values, Shows fields pair.1 pair.2) →
      (decode? (object fields) : Option α) = decode? (array values)

theorem tabular (α : Type) [Record α] [LawfulRecord α] : Tabular α where
  toFaithful := faithful α
  sequence value := by
    show (row? (Record.columns α) (array (Record.toRow value))).bind Record.ofRow? = some value
    rw [row?, if_pos (LawfulRecord.size value), Option.bind_some, LawfulRecord.ofRow?_toRow]
  fields fields values size shown := by
    show (row? (Record.columns α) (object fields)).bind Record.ofRow? =
      (row? (Record.columns α) (array values)).bind Record.ofRow?
    rw [row?_object size fun pair member => pick?_of_shows (shown pair member), row?, if_pos size]

/-! ## Kinds of values -/

/-- The one form of JSON that a property value is read from. -/
def kindOf : Value → Json
  | .bool value => bool value
  | .int value => integer value.toInt
  | .text value => text value

/-- Truth values, numbers and texts do not stand for one another. -/
theorem decode?_value_eq_some_iff (json : Json) (value : Value) :
    decode? json = some value ↔ json = kindOf value := by
  constructor
  · intro read
    cases json with
    | bool held =>
      cases read
      rfl
    | text held =>
      cases read
      rfl
    | integer n =>
      obtain ⟨word, decoded, rfl⟩ := Option.map_eq_some_iff.mp read
      obtain ⟨held, within, rfl⟩ := Option.map_eq_some_iff.mp decoded
      obtain ⟨fits, same⟩ := Option.ite_none_right_eq_some.mp within
      cases same
      rw [kindOf, Text.toInt_ofInt_of_fits fits]
    | _ => cases read
  · rintro rfl
    cases value with
    | int value => exact decode?_encode (Value.int value)
    | _ => rfl

/-! ## Nested values -/

/-- Sequences and maps of property values, one inside the other. -/
inductive Nesting where
  /-- A property value. -/
  | value
  /-- Sequences of these. -/
  | list (inner : Nesting)
  /-- Maps of these by name. -/
  | map (inner : Nesting)

namespace Nesting

/-- What is nested like that. -/
def Contents : Nesting → Type
  | value => Value
  | list inner => List inner.Contents
  | map inner => Std.ExtTreeMap String inner.Contents compare

instance codec : (nesting : Nesting) → Codec nesting.Contents
  | value => inferInstanceAs (Codec Value)
  | list inner =>
    letI := inner.codec
    inferInstanceAs (Codec (List inner.Contents))
  | map inner =>
    letI := inner.codec
    inferInstanceAs (Codec (Std.ExtTreeMap String inner.Contents compare))

instance lawful (nesting : Nesting) : LawfulCodec nesting.Contents := by
  induction nesting with
  | value => exact inferInstanceAs (LawfulCodec Value)
  | list inner ih => exact inferInstanceAs (LawfulCodec (List inner.Contents))
  | map inner ih => exact inferInstanceAs (LawfulCodec (Std.ExtTreeMap String inner.Contents compare))

end Nesting

/-! ## All of them -/

/-- **Whatever is exchanged as JSON is read back as it was written, and what is
written after reading is written as itself from then on.** Property values keep
their kind wherever they are nested, and the fields of a map may come in any
order. -/
theorem exchanged_values_are_faithful :
    (Faithful Mode ∧ Faithful Outcome ∧ Faithful Value) ∧
    (Tabular Profile.Attributes ∧ Tabular Status ∧ Tabular TemperatureHistory ∧
      Tabular Parameter ∧ Tabular Response ∧ Tabular Reading) ∧
    (∀ (json : Json) (value : Value), decode? json = some value ↔ json = kindOf value) ∧
    (∀ nesting : Nesting, Faithful nesting.Contents) ∧
    ∀ (nesting : Nesting) (held : nesting.map.Contents) (entries : List (String × nesting.Contents)),
      entries.Perm held.toList →
        decode? (object (entries.map fun (name, value) => (name, encode value))) = some held :=
  ⟨⟨faithful Mode, faithful Outcome, faithful Value⟩,
    ⟨tabular Profile.Attributes, tabular Status, tabular TemperatureHistory, tabular Parameter,
      tabular Response, tabular Reading⟩,
    decode?_value_eq_some_iff, fun nesting => faithful nesting.Contents,
    fun _ _ _ => decode?_object_of_perm⟩

/-- Two properties out of order, a status that shows no temperature but
something else, and the object that the sequence of its values comes down to. -/
theorem status_out_of_order :
    [("menu", Value.text "1"), ("fault", Value.int 1)].Perm
        (Properties.ofEntries [("fault", .int 1), ("menu", .text "1")]).toList ∧
      decode? (object [("menu", text "1"), ("fault", integer 1)]) =
        some (Properties.ofEntries [("fault", .int 1), ("menu", .text "1")]) ∧
      decode? (object [("note", null),
          ("properties", object [("menu", text "1"), ("fault", integer 1)])]) =
        some (Status.mk (.ofEntries [("fault", .int 1), ("menu", .text "1")]) none) ∧
      normalize? Status (array [object [("menu", text "1"), ("fault", integer 1)], null]) =
        some (object [("properties", object [("fault", integer 1), ("menu", text "1")]),
          ("temperature", null)]) ∧
      normalize? Status (object [("properties", object [("fault", integer 1), ("menu", text "1")]),
          ("temperature", null)]) =
        some (object [("properties", object [("fault", integer 1), ("menu", text "1")]),
          ("temperature", null)]) := by
  have order : [("menu", Value.text "1"), ("fault", Value.int 1)].Perm
      (Properties.ofEntries [("fault", .int 1), ("menu", .text "1")]).toList := by
    decide +kernel
  obtain ⟨_, ⟨_, status, _⟩, _, _, unordered⟩ := exchanged_values_are_faithful
  have properties := unordered .value _ _ order
  have sequence : normalize? Status
      (array [object [("menu", text "1"), ("fault", integer 1)], null]) =
        some (object [("properties", object [("fault", integer 1), ("menu", text "1")]),
          ("temperature", null)]) := by
    rfl
  refine ⟨order, properties, ?_, sequence, status.settled _ _ sequence⟩
  have row := status.fields [("note", null),
      ("properties", object [("menu", text "1"), ("fault", integer 1)])]
    [object [("menu", text "1"), ("fault", integer 1)], null] rfl
    (by simp [Record.columns, Shows, Entries.last?])
  rw [row]
  exact congrArg (Option.bind · fun held => some (Status.mk held none)) properties

end RiceCooker.Json
