import RiceCooker.Proofs.Text.NumeralSpelling
import RiceCooker.Status

/-! The same number reported in another way. What a status tells of a property
is the number that its value stands for, whether a number, a switch or a text;
only the mode looks at the kind of the value as well. -/
namespace RiceCooker
open Text

/-! ## Values -/

namespace Value

theorem asInt?_text_eq_some_iff (text : String) (n : Int64) :
    (Value.text text).asInt? = some n ↔ Numeral (trim text.toList) n.toInt :=
  int64?_eq_some_iff

/-- A value and another that stands for the same number: for a number its
numeral, with any zeros before the first digit and any blanks around it, and
for a switch the number one or zero. -/
inductive Restated : Value → Value → Prop where
  | numeral (n : Int64) (zeros : Nat) (blankBefore : ∀ c ∈ before, isBlank c = true)
    (blankAfter : ∀ c ∈ after, isBlank c = true) :
    Restated (.int n)
      (.text (String.ofList (before ++ insertZeros zeros (decimal n).toList ++ after)))
  | switch (on : Bool) : Restated (.bool on) (.int (if on then 1 else 0))

theorem Restated.asInt? {value other : Value} (restated : value.Restated other) :
    other.asInt? = value.asInt? := by
  cases restated with
  | numeral n zeros blankBefore blankAfter =>
    have numeral := (numeral_decimal n).insertZeros zeros
    apply (asInt?_text_eq_some_iff _ n).mpr
    rwa [String.toList_ofList, trim_surrounded blankBefore numeral.isBlank_of_mem blankAfter]
  | switch on => rfl

end Value

/-! ## Statuses -/

namespace Status

/-- The status with another value of one property. -/
def withProperty (status : Status) (name : String) (value : Value) : Status :=
  { status with properties := status.properties.insert name value }

theorem property?_withProperty (status : Status) (name other : String) (value : Value) :
    (status.withProperty name value).property? other =
      if name = other then some value else status.property? other := by
  simp only [property?, withProperty, Std.ExtTreeMap.getElem?_insert,
    Std.LawfulEqCmp.compare_eq_iff_eq]

/-- Two statuses that tell the same of everything but the mode. -/
structure SameReadings (first second : Status) : Prop where
  fault : second.fault = first.fault
  menu : second.menu? = first.menu?
  remaining : second.remaining? = first.remaining?
  delay : second.delay? = first.delay?
  duration : second.duration? = first.duration?
  keepWarm : second.keepWarm = first.keepWarm
  keepWarmTime : second.keepWarmTime? = first.keepWarmTime?
  taste : second.taste? = first.taste?
  rice : second.rice? = first.rice?
  temperature : second.temperature = first.temperature

/-- The readings depend on the numbers alone, and not on the one of the mode. -/
theorem sameReadings_of_int? {first second : Status}
    (numbers : ∀ name, name ≠ modeName → second.int? name = first.int? name)
    (temperature : second.temperature = first.temperature) : first.SameReadings second where
  fault := by rw [fault, fault, numbers faultName (by decide)]
  menu := numbers menuName (by decide)
  remaining := by rw [remaining?, remaining?, minutes?, minutes?, numbers remainingName (by decide)]
  delay := by rw [delay?, delay?, minutes?, minutes?, numbers delayName (by decide)]
  duration := by rw [duration?, duration?, minutes?, minutes?, numbers durationName (by decide)]
  keepWarm := by rw [keepWarm, keepWarm, numbers keepWarmName (by decide)]
  keepWarmTime := numbers keepWarmTimeName (by decide)
  taste := numbers tasteName (by decide)
  rice := numbers riceName (by decide)
  temperature := temperature

theorem SameReadings.render {first second : Status} (same : first.SameReadings second)
    (mode : second.mode = first.mode) : second.render = first.render := by
  simp only [Status.render, lines, mode, same.fault, same.menu, same.remaining, same.delay,
    same.duration, same.keepWarm, same.rice, same.taste, same.temperature]

theorem int?_withProperty_of_asInt? {status : Status} {name : String} {value other : Value}
    (held : status.property? name = some value) (same : other.asInt? = value.asInt?)
    (asked : String) : (status.withProperty name other).int? asked = status.int? asked := by
  rw [int?, int?, property?_withProperty]
  split
  · rename_i here
    subst here
    rw [held]
    exact same
  · rfl

theorem mode_withProperty_of_ne (status : Status) {name : String} (other : name ≠ modeName)
    (value : Value) : (status.withProperty name value).mode = status.mode := by
  rw [mode, mode, property?_withProperty, if_neg other]

/-- **A text stands for the number of the numeral that it holds between blanks,
if that is in range, and for none otherwise; and it does not matter to any
reading in which way a number is reported**, but for the mode, which is known
from a number only and which no other reading looks at. -/
theorem readings_of_restated_values :
    (∀ (text : String) (n : Int64),
      (Value.text text).asInt? = some n ↔ Numeral (trim text.toList) n.toInt) ∧
    (∀ text : String, (Value.text text).asInt? = none ↔
      ¬∃ z : Int, Numeral (trim text.toList) z ∧
        -9223372036854775808 ≤ z ∧ z ≤ 9223372036854775807) ∧
    (∀ (status : Status) (name : String) (value other : Value), name ≠ modeName →
      status.property? name = some value → value.Restated other →
        status.SameReadings (status.withProperty name other) ∧
        (status.withProperty name other).mode = status.mode ∧
        (status.withProperty name other).render = status.render) ∧
    ∀ (status : Status) (other : Value), (∀ code, other ≠ .int code) →
      (status.withProperty modeName other).mode = .unknown ∧
      status.SameReadings (status.withProperty modeName other) := by
  refine ⟨Value.asInt?_text_eq_some_iff, fun text => int64?_eq_none_iff,
    fun status name value other notMode held restated => ?_, fun status other notInt => ⟨?_, ?_⟩⟩
  · have same := sameReadings_of_int?
      (fun asked _ => int?_withProperty_of_asInt? held restated.asInt? asked) rfl
    have sameMode := status.mode_withProperty_of_ne notMode other
    exact ⟨same, sameMode, same.render sameMode⟩
  · rw [mode, property?_withProperty, if_pos rfl]
    cases other with
    | int code => exact absurd rfl (notInt code)
    | bool on => rfl
    | text text => rfl
  · refine sameReadings_of_int? (fun asked notMode => ?_) rfl
    rw [int?, int?, property?_withProperty, if_neg notMode.symm]

/-- A cooker that is still running half an hour after it should have been done. -/
def overdue : Status := ⟨.ofEntries [(modeName, .int 2), (remainingName, .int (-1799))], none⟩

/-- The minutes may come as a text, with zeros behind the minus; the mode may
not. -/
theorem overdue_restated :
    remainingName ≠ modeName ∧ overdue.property? remainingName = some (.int (-1799)) ∧
      (Value.int (-1799)).Restated (.text " -001799\n") ∧
      (overdue.withProperty remainingName (.text " -001799\n")).remaining? = overdue.remaining? ∧
      (overdue.withProperty remainingName (.text " -001799\n")).render = overdue.render ∧
      (∀ code, Value.text "2" ≠ .int code) ∧
      (overdue.withProperty modeName (.text "2")).mode = .unknown := by
  obtain ⟨_, _, restatements, modes⟩ := readings_of_restated_values
  have held : overdue.property? remainingName = some (.int (-1799)) := by
    rw [overdue, property?_ofEntries]
    decide
  have spelled : " -001799\n" = String.ofList
      ([' '] ++ insertZeros 2 (decimal (-1799)).toList ++ ['\n']) := by decide +kernel
  have restated : (Value.int (-1799)).Restated (.text " -001799\n") :=
    spelled ▸ .numeral (-1799) 2 (List.forall_mem_singleton.mpr (by decide))
      (List.forall_mem_singleton.mpr (by decide))
  have notInt : ∀ code, Value.text "2" ≠ .int code := by
    intro code same
    cases same
  obtain ⟨readings, _, report⟩ := restatements _ _ _ _ (by decide) held restated
  exact ⟨by decide, held, restated, readings.remaining, report, notInt, (modes _ _ notInt).1⟩

end Status

end RiceCooker
