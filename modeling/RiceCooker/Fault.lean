import RiceCooker.Error

/-! Fault labels. A fault is reported by its place in a fixed table; the first
place means that there is none. -/
namespace RiceCooker.Fault

/-- The labels, in the order of the fault codes. -/
def labels : List String :=
  ["No Faults", "E02", "E03", "E04", "E05", "E06", "E07", "E08", "E09", "E10", "E11", "E12"]

/-- The label of a fault code. -/
def label (code : Int64) : Except Error String :=
  if code < 0 then .error (.unknownFault code)
  else
    match labels[code.toInt.toNat]? with
    | some text => .ok text
    | none => .error (.unknownFault code)

/-- A code without a label is reported with the error. -/
theorem label_cases (code : Int64) :
    (∃ text ∈ labels, label code = .ok text) ∨ label code = .error (.unknownFault code) := by
  unfold label
  split
  · exact .inr rfl
  · cases place : labels[code.toInt.toNat]? with
    | some text => exact .inl ⟨text, List.mem_of_getElem? place, rfl⟩
    | none => exact .inr rfl

end RiceCooker.Fault
