import RiceCooker.Proofs.Status.Restatement

/-! What the report of a status gives away. A text from the device gets into it
only as the number that it stands for, so a line can neither be broken nor be
added from outside, and what stands behind each label can be read back. -/
namespace RiceCooker.Status
open Text

/-! ## Texts of readings -/

/-- How a number that may be absent is shown. -/
inductive NumberText : Option Int → String → Prop where
  | absent : NumberText none "None"
  | present (numeral : Numeral text.toList z) : NumberText (some z) text

/-- How a fault is shown: by its label, or with the reason why it has none. -/
inductive FaultText : Except Error String → String → Prop where
  | label (listed : text ∈ Fault.labels) : FaultText (.ok text) text
  | unknown (numeral : Numeral text.toList code.toInt) :
    FaultText (.error (.unknownFault code)) ("Unknown fault code: " ++ text)
  | missing : FaultText (.error (.missingProperty faultName)) "Missing property: fault"

/-- The word for an absent number is no numeral, so reading the text as one
gives back what is shown. -/
theorem NumberText.signed?_eq (shown : NumberText reading text) :
    signed? text.toList = reading := by
  cases shown with
  | absent => decide
  | present numeral => exact signed?_eq_some_iff.mpr numeral

theorem NumberText.unique (first : NumberText a text) (second : NumberText b text) : a = b :=
  first.signed?_eq.symm.trans second.signed?_eq

theorem NumberText.unbroken (shown : NumberText reading text) : '\n' ∉ text.toList := by
  cases shown with
  | absent => decide
  | present numeral => exact fun member => absurd (numeral.isBlank_of_mem _ member) (by decide)

theorem numberText_renderInt? (n : Option Int64) :
    NumberText (n.map Int64.toInt) (renderInt? n) := by
  cases n with
  | none => exact .absent
  | some n => exact .present (numeral_decimal n)

theorem numberText_renderTemperature? (degrees : Option UInt8) :
    NumberText (degrees.map fun degrees => (degrees.toNat : Int)) (renderTemperature? degrees) := by
  cases degrees with
  | none => exact .absent
  | some degrees => exact .present (numeral_toString degrees.toNat)

/-- The fault that a text shows. -/
def faultShown (text : String) : Except Error String :=
  if text ∈ Fault.labels then .ok text
  else
    match int64? (text.toList.drop "Unknown fault code: ".length) with
    | some code => .error (.unknownFault code)
    | none => .error (.missingProperty faultName)

theorem FaultText.faultShown_eq (shown : FaultText reading text) : faultShown text = reading := by
  cases shown with
  | label listed => rw [faultShown, if_pos listed]
  | @unknown code text numeral =>
    have letters : ∀ label ∈ Fault.labels, label.toList.head? ≠ some 'U' := by decide
    have unlisted : "Unknown fault code: " ++ text ∉ Fault.labels :=
      fun listed => letters _ listed (by simp)
    have behind : ("Unknown fault code: " ++ text).toList.drop "Unknown fault code: ".length =
        text.toList := by
      rw [String.toList_append, List.drop_left' String.length_toList]
    rw [faultShown, if_neg unlisted, behind, int64?_eq_some_iff.mpr numeral]
  | missing => decide

theorem FaultText.unique (first : FaultText a text) (second : FaultText b text) : a = b :=
  first.faultShown_eq.symm.trans second.faultShown_eq

theorem FaultText.unbroken (shown : FaultText reading text) : '\n' ∉ text.toList := by
  cases shown with
  | label listed =>
    have letters : ∀ label ∈ Fault.labels, '\n' ∉ label.toList := by decide
    exact letters _ listed
  | unknown numeral =>
    rw [String.toList_append, List.mem_append, not_or]
    exact ⟨by decide, (NumberText.present numeral).unbroken⟩
  | missing => decide

theorem faultText_renderFault (status : Status) :
    FaultText status.fault (renderFault status.fault) := by
  rw [fault]
  cases status.int? faultName with
  | none => exact .missing
  | some code =>
    obtain ⟨text, listed, labelled⟩ | unlabelled := Fault.label_cases code
    · simp only [labelled]
      exact .label listed
    · simp only [unlabelled]
      exact .unknown (numeral_decimal code)

/-! ## Lines -/

/-- What a line of the report is about. -/
inductive Item where
  | mode | fault | menu | remaining | delay | duration | keepWarm | rice | taste | temperature
deriving DecidableEq

namespace Item

/-- The lines, from the first to the last. -/
def all : List Item :=
  [mode, fault, menu, remaining, delay, duration, keepWarm, rice, taste, temperature]

/-- The label in front of a line. -/
def label : Item → String
  | mode => "Mode"
  | fault => "Fault"
  | menu => "Menu"
  | remaining => "Remaining"
  | delay => "Cooking delayed"
  | duration => "Duration"
  | keepWarm => "Keep warm"
  | rice => "Rice"
  | taste => "Taste"
  | temperature => "Temperature"

theorem mem_all (item : Item) : item ∈ all := by
  cases item <;> decide

theorem label_unbroken (item : Item) : '\n' ∉ item.label.toList := by
  cases item <;> decide

end Item

/-- What the report puts behind a label. -/
def answer (status : Status) : Item → String
  | .mode => status.mode.name
  | .fault => renderFault status.fault
  | .menu => renderInt? status.menu?
  | .remaining => renderInt? status.remaining?
  | .delay => renderInt? status.delay?
  | .duration => renderInt? status.duration?
  | .keepWarm => truth status.keepWarm
  | .rice => renderInt? status.rice?
  | .taste => renderInt? status.taste?
  | .temperature => renderTemperature? status.temperature

theorem lines_eq_map (status : Status) :
    status.lines = Item.all.map fun item => (item.label, status.answer item) := rfl

/-- What a text behind a label has to show. -/
def Shows (status : Status) : Item → String → Prop
  | .mode => fun text => text = status.mode.name
  | .fault => FaultText status.fault
  | .menu => NumberText (status.menu?.map Int64.toInt)
  | .remaining => NumberText (status.remaining?.map Int64.toInt)
  | .delay => NumberText (status.delay?.map Int64.toInt)
  | .duration => NumberText (status.duration?.map Int64.toInt)
  | .keepWarm => fun text => text = truth status.keepWarm
  | .rice => NumberText (status.rice?.map Int64.toInt)
  | .taste => NumberText (status.taste?.map Int64.toInt)
  | .temperature => NumberText (status.temperature.map fun degrees => (degrees.toNat : Int))

theorem shows_answer (status : Status) (item : Item) : status.Shows item (status.answer item) := by
  cases item with
  | mode => exact Eq.refl status.mode.name
  | keepWarm => exact Eq.refl (truth status.keepWarm)
  | fault => exact faultText_renderFault status
  | temperature => exact numberText_renderTemperature? status.temperature
  | _ => exact numberText_renderInt? _

theorem Shows.unbroken {status : Status} {item : Item} {text : String}
    (shown : status.Shows item text) : '\n' ∉ text.toList := by
  cases item with
  | mode =>
    cases shown
    cases status.mode <;> decide
  | keepWarm =>
    cases shown
    cases status.keepWarm <;> decide
  | fault => exact FaultText.unbroken shown
  | _ => exact NumberText.unbroken shown

/-- Lines are taken apart at their ends, given that no label and no text behind
one is broken. -/
theorem splitOn_join_renderLine (lines : List (String × String))
    (unbroken : ∀ line ∈ lines, '\n' ∉ line.1.toList ∧ '\n' ∉ line.2.toList) :
    (String.join (lines.map renderLine)).toList.splitOn '\n' =
      lines.map (fun line => (line.1 ++ ": " ++ line.2).toList) ++ [[]] := by
  induction lines with
  | nil => rfl
  | cons line rest ih =>
    obtain ⟨here, below⟩ := List.forall_mem_cons.mp unbroken
    have own : '\n' ∉ (line.1 ++ ": " ++ line.2).toList := by simp [here]
    have parts : (String.join ((line :: rest).map renderLine)).toList =
        (line.1 ++ ": " ++ line.2).toList ++
          '\n' :: (String.join (rest.map renderLine)).toList := by
      simp [renderLine]
    rw [parts, List.splitOn_append_cons_self_of_not_mem own, ih below, List.map_cons,
      List.cons_append]

/-- The report comes apart into its lines and nothing behind the last of them. -/
theorem splitOn_render (status : Status) : status.render.toList.splitOn '\n' =
    Item.all.map (fun item => (item.label ++ ": " ++ status.answer item).toList) ++ [[]] := by
  rw [render, splitOn_join_renderLine, lines_eq_map, List.map_map]
  · rfl
  · rw [lines_eq_map, List.forall_mem_map]
    exact fun item _ => ⟨item.label_unbroken, (status.shows_answer item).unbroken⟩

/-! ## Equal reports -/

/-- Two statuses that agree on everything that is in a report. -/
structure SameReport (first second : Status) : Prop where
  mode : first.mode = second.mode
  /-- The label, the code that has none, or that no fault was reported. -/
  fault : first.fault = second.fault
  menu : first.menu? = second.menu?
  remaining : first.remaining? = second.remaining?
  delay : first.delay? = second.delay?
  duration : first.duration? = second.duration?
  keepWarm : first.keepWarm = second.keepWarm
  rice : first.rice? = second.rice?
  taste : first.taste? = second.taste?
  temperature : first.temperature = second.temperature

theorem SameReport.render {first second : Status} (same : first.SameReport second) :
    first.render = second.render := by
  simp only [Status.render, lines, same.mode, same.fault, same.menu, same.remaining, same.delay,
    same.duration, same.keepWarm, same.rice, same.taste, same.temperature]

private theorem eq_of_numberText {first second : Option Int64}
    (shown : NumberText (first.map Int64.toInt) text)
    (again : NumberText (second.map Int64.toInt) text) : first = second :=
  Option.map_injective (fun _ _ => Int64.toInt_inj.mp) (shown.unique again)

/-- The texts behind the labels leave no choice for the readings. -/
theorem sameReport_of_shown {first second : Status} {text : Item → String}
    (shown : ∀ item, first.Shows item (text item))
    (again : ∀ item, second.Shows item (text item)) : first.SameReport second where
  mode := Mode.name_inj.mp ((shown .mode).symm.trans (again .mode))
  fault := FaultText.unique (shown .fault) (again .fault)
  menu := eq_of_numberText (shown .menu) (again .menu)
  remaining := eq_of_numberText (shown .remaining) (again .remaining)
  delay := eq_of_numberText (shown .delay) (again .delay)
  duration := eq_of_numberText (shown .duration) (again .duration)
  keepWarm := truth_inj.mp ((shown .keepWarm).symm.trans (again .keepWarm))
  rice := eq_of_numberText (shown .rice) (again .rice)
  taste := eq_of_numberText (shown .taste) (again .taste)
  temperature := by
    have same : Function.Injective fun degrees : UInt8 => (degrees.toNat : Int) :=
      fun _ _ equal => UInt8.toNat_inj.mp (Int.ofNat_inj.mp equal)
    exact Option.map_injective same (NumberText.unique (shown .temperature) (again .temperature))

/-- Equal reports have equal lines, and equal lines the same text behind each label. -/
theorem answer_eq_of_render_eq {first second : Status} (same : first.render = second.render) :
    first.answer = second.answer := by
  have lines := first.splitOn_render
  rw [same, splitOn_render, List.append_cancel_right_eq, List.map_inj_left] at lines
  funext item
  have line := lines item item.mem_all
  rw [String.toList_inj, String.append_right_inj] at line
  exact line.symm

theorem render_eq_iff {first second : Status} :
    first.render = second.render ↔ first.SameReport second := by
  refine ⟨fun same => ?_, SameReport.render⟩
  have answers := answer_eq_of_render_eq same
  exact sameReport_of_shown first.shows_answer (answers ▸ second.shows_answer)

/-! ## Texts from the device -/

/-- A value with a number in place of a text that stands for one. A mode is not
known from a text, so none stands for a number there. -/
def withoutText? (name : String) : Value → Option Value
  | .text text => if name = modeName then none else (Value.text text).asInt?.map .int
  | value => some value

/-- The status without texts. -/
def withoutTexts (status : Status) : Status :=
  { status with properties := status.properties.filterMap withoutText? }

theorem property?_withoutTexts (status : Status) (name : String) :
    status.withoutTexts.property? name = (status.property? name).bind (withoutText? name) :=
  Std.ExtTreeMap.getElem?_filterMap'

theorem property?_withoutTexts_ne_text (status : Status) (name text : String) :
    status.withoutTexts.property? name ≠ some (.text text) := by
  rw [property?_withoutTexts, Ne, Option.bind_eq_some_iff]
  rintro ⟨value, _, plain⟩
  cases value with
  | text own =>
    rw [withoutText?, Option.ite_none_left_eq_some, Option.map_eq_some_iff] at plain
    obtain ⟨_, _, _, number⟩ := plain
    cases number
  | _ => cases plain

theorem int?_withoutTexts (status : Status) {name : String} (other : name ≠ modeName) :
    status.withoutTexts.int? name = status.int? name := by
  rw [int?, int?, property?_withoutTexts, Option.bind_assoc]
  refine Option.bind_congr fun value _ => ?_
  cases value with
  | text own =>
    rw [withoutText?, if_neg other]
    cases (Value.text own).asInt? <;> rfl
  | _ => rfl

theorem mode_withoutTexts (status : Status) : status.withoutTexts.mode = status.mode := by
  rw [mode, mode, property?_withoutTexts]
  cases status.property? modeName with
  | none => rfl
  | some value => cases value <;> rfl

theorem render_withoutTexts (status : Status) : status.withoutTexts.render = status.render :=
  (sameReadings_of_int? (fun _ other => status.int?_withoutTexts other) rfl).render
    status.mode_withoutTexts

/-- **The report has its ten lines whatever a device sends, and it tells the
readings and nothing else.** Behind each label stands what was read for it; a
device that sends texts can bring about no report that it could not bring about
without them; and two reports are the same exactly when all that they tell is. -/
theorem report_is_faithful :
    (∀ status : Status, ∃ text : Item → String,
      (∀ item, status.Shows item (text item)) ∧
      status.render.toList.splitOn '\n' =
        Item.all.map (fun item => (item.label ++ ": " ++ text item).toList) ++ [[]]) ∧
    (∀ status : Status, ∃ plain : Status,
      (∀ name text, plain.property? name ≠ some (.text text)) ∧
      plain.render = status.render) ∧
    ∀ first second : Status, first.render = second.render ↔ first.SameReport second :=
  ⟨fun status => ⟨status.answer, status.shows_answer, status.splitOn_render⟩, fun status =>
    ⟨status.withoutTexts, status.property?_withoutTexts_ne_text, status.render_withoutTexts⟩,
    fun _ _ => render_eq_iff⟩

/-- A text with a line of its own is no number, and blanks around one are lost. -/
example : (Status.mk (.ofEntries [(faultName, .text "0\nMenu: 7"), (menuName, .text " 12\n")])
    none).render =
      "Mode: Unknown\nFault: Missing property: fault\nMenu: 12\nRemaining: None\n" ++
      "Cooking delayed: None\nDuration: None\nKeep warm: false\nRice: None\nTaste: None\n" ++
      "Temperature: None\n" := by
  decide +kernel

end RiceCooker.Status
