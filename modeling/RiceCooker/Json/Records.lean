import RiceCooker.Device
import RiceCooker.Json.Codec
import RiceCooker.Mode
import RiceCooker.Profile.Basic
import RiceCooker.Status
import RiceCooker.Temperature

/-! The values that are exchanged as JSON: choices, written as one word, and
records, written as an object with exactly the columns of the record. The main
statements are the instances of `LawfulCodec`. -/
namespace RiceCooker.Json

/-! ## Choices -/

/-- The member of a list of choices with this name. -/
def choose? {α : Type} (choices : List α) (name : α → String) (json : Json) : Option α :=
  (word? json).bind fun word => choices.find? fun choice => name choice == word

instance : Codec Mode where
  encode mode := text mode.tag
  decode? := choose? Mode.all Mode.tag

instance : LawfulCodec Mode := ⟨fun mode => by cases mode <;> decide⟩

instance : Codec Outcome where
  encode outcome := text (outcome.tag)
  decode? := choose? [.applied, .unsupported] Outcome.tag

instance : LawfulCodec Outcome := ⟨fun outcome => by cases outcome <;> decide⟩

/-! ## Records -/

/-- Types whose values are rows of a table. -/
class Record (α : Type) where
  /-- The columns of the table. -/
  columns : List Column
  /-- The row of a value. -/
  toRow : α → List Json
  /-- The value of a row. -/
  ofRow? : List Json → Option α

instance {α : Type} [Record α] : Codec α where
  encode value := record (Record.columns α) (Record.toRow value)
  decode? json := (row? (Record.columns α) json).bind Record.ofRow?

/-- Types whose rows fit their columns and lose nothing. -/
class LawfulRecord (α : Type) [Record α] : Prop where
  /-- No two columns have one name. -/
  distinct : ((Record.columns α).map Column.name).Nodup
  /-- A row has one value for each column. -/
  size (value : α) : (Record.toRow value).length = (Record.columns α).length
  /-- A row leads back to its value. -/
  ofRow?_toRow (value : α) : Record.ofRow? (Record.toRow value) = some value

instance {α : Type} [Record α] [LawfulRecord α] : LawfulCodec α where
  decode?_encode value := by
    show (row? (Record.columns α) (record (Record.columns α) (Record.toRow value))).bind
      Record.ofRow? = _
    rw [row?_record LawfulRecord.distinct (LawfulRecord.size value), Option.bind_some,
      LawfulRecord.ofRow?_toRow]

/-! ## Profiles -/

instance : Record Profile.Attributes where
  columns :=
    [⟨"menu_id", true⟩, ⟨"can_schedule", true⟩, ⟨"can_set_auto_keep_warm", true⟩,
      ⟨"can_set_duration", true⟩, ⟨"can_choose_rice", true⟩, ⟨"can_configure_taste", true⟩,
      ⟨"cook_time_min", true⟩, ⟨"cook_time_max", true⟩, ⟨"duration", true⟩,
      ⟨"schedule_enabled", true⟩, ⟨"schedule_duration", true⟩, ⟨"auto_keep_warm", true⟩,
      ⟨"rice_id", true⟩, ⟨"taste", true⟩]
  toRow a :=
    [encode a.menuId, encode a.canSchedule, encode a.canSetAutoKeepWarm, encode a.canSetDuration,
      encode a.canChooseRice, encode a.canConfigureTaste, encode a.cookTimeMin,
      encode a.cookTimeMax, encode a.duration, encode a.scheduleEnabled,
      encode a.scheduleDuration, encode a.autoKeepWarm, encode a.riceId, encode a.taste]
  ofRow?
    | [menuId, canSchedule, canSetAutoKeepWarm, canSetDuration, canChooseRice,
        canConfigureTaste, cookTimeMin, cookTimeMax, duration, scheduleEnabled,
        scheduleDuration, autoKeepWarm, riceId, taste] => do
      some {
        menuId := ← decode? menuId
        canSchedule := ← decode? canSchedule
        canSetAutoKeepWarm := ← decode? canSetAutoKeepWarm
        canSetDuration := ← decode? canSetDuration
        canChooseRice := ← decode? canChooseRice
        canConfigureTaste := ← decode? canConfigureTaste
        cookTimeMin := ← decode? cookTimeMin
        cookTimeMax := ← decode? cookTimeMax
        duration := ← decode? duration
        scheduleEnabled := ← decode? scheduleEnabled
        scheduleDuration := ← decode? scheduleDuration
        autoKeepWarm := ← decode? autoKeepWarm
        riceId := ← decode? riceId
        taste := ← decode? taste }
    | _ => none

instance : LawfulRecord Profile.Attributes where
  distinct := by decide
  size _ := rfl
  ofRow?_toRow _ := by simp [Record.toRow, Record.ofRow?]

/-! ## Status -/

/-- Only the temperature may be missing. -/
instance : Record Status where
  columns := [⟨"properties", true⟩, ⟨"temperature", false⟩]
  toRow status := [encode status.properties, encode status.temperature]
  ofRow?
    | [properties, temperature] => do some ⟨← decode? properties, ← decode? temperature⟩
    | _ => none

instance : LawfulRecord Status where
  distinct := by decide
  size _ := rfl
  ofRow?_toRow _ := by simp [Record.toRow, Record.ofRow?]

instance : Record TemperatureHistory where
  columns := [⟨"samples", true⟩]
  toRow history := [encode history.samples]
  ofRow?
    | [samples] => do some ⟨← decode? samples⟩
    | _ => none

instance : LawfulRecord TemperatureHistory where
  distinct := by decide
  size _ := rfl
  ofRow?_toRow _ := by simp [Record.toRow, Record.ofRow?]

/-! ## Messages -/

instance : Record Parameter where
  columns := [⟨"piid", true⟩, ⟨"value", true⟩]
  toRow parameter := [encode parameter.id, encode parameter.value]
  ofRow?
    | [id, value] => do some ⟨← decode? id, ← decode? value⟩
    | _ => none

instance : LawfulRecord Parameter where
  distinct := by decide
  size _ := rfl
  ofRow?_toRow _ := by simp [Record.toRow, Record.ofRow?]

instance : Record Response where
  columns := [⟨"code", true⟩, ⟨"out", true⟩]
  toRow response := [encode response.code, encode response.outputs]
  ofRow?
    | [code, outputs] => do some ⟨← decode? code, ← decode? outputs⟩
    | _ => none

instance : LawfulRecord Response where
  distinct := by decide
  size _ := rfl
  ofRow?_toRow _ := by simp [Record.toRow, Record.ofRow?]

instance : Record Reading where
  columns := [⟨"did", true⟩, ⟨"value", true⟩, ⟨"code", true⟩]
  toRow reading := [encode reading.name, encode reading.value, encode reading.code]
  ofRow?
    | [name, value, code] => do some ⟨← decode? name, ← decode? value, ← decode? code⟩
    | _ => none

instance : LawfulRecord Reading where
  distinct := by decide
  size _ := rfl
  ofRow?_toRow _ := by simp [Record.toRow, Record.ofRow?]

end RiceCooker.Json
