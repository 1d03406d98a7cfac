import RiceCooker.Device

/-! What a list of readings amounts to. Only the readings that can be trusted
count, and of several under one name only the last, so neither their order
across names nor the failed readings among them make a difference. -/
namespace RiceCooker

theorem Entries.last?_eq_getLast? {α : Type} (name : String) (entries : List (String × α)) :
    last? name entries = (entries.filter fun entry => entry.1 = name).getLast?.map Prod.snd := by
  induction entries with
  | nil => rfl
  | cons entry rest ih =>
    obtain ⟨key, value⟩ := entry
    rw [last?, ih]
    -- The first entry counts only if no later one has the name.
    cases later : (rest.filter fun entry => entry.1 = name).getLast? with
    | some last =>
      by_cases same : key = name
      · simp [same, List.getLast?_cons, later]
      · simp [same, later]
    | none =>
      by_cases same : key = name
      · simp [same, List.getLast?_cons, later]
      · simp [same, later]

namespace Reading

/-- The readings under a name that can be trusted, in their order. -/
def trusted (readings : List Reading) (name : String) : List Reading :=
  readings.filter fun reading => reading.name = name ∧ reading.code = 0

theorem getElem?_collect (readings : List Reading) (name : String) :
    (collect readings)[name]? = (trusted readings name).getLast?.map value := by
  rw [collect, Properties.getElem?_ofEntries, Entries.last?_eq_getLast?, List.filter_map,
    List.filter_filter, List.getLast?_map, Option.map_map]
  have same : (fun reading : Reading => decide (reading.name = name) && reading.isValid) =
      fun reading => decide (reading.name = name ∧ reading.code = 0) := by
    funext reading
    rw [isValid, Bool.beq_eq_decide_eq, Bool.decide_and]
  simp only [Function.comp_def, same]
  rfl

theorem collect_congr {first second : List Reading}
    (same : ∀ name, trusted first name = trusted second name) : collect first = collect second := by
  apply Std.ExtTreeMap.ext_getElem?
  intro name
  rw [getElem?_collect, getElem?_collect, same]

/-- Readings of different names may change places. -/
theorem collect_of_order {first second : List Reading}
    (same : ∀ name, (first.filter fun reading => reading.name = name) =
      second.filter fun reading => reading.name = name) : collect first = collect second := by
  have cut : ∀ readings name, trusted readings name =
      (readings.filter fun reading => reading.name = name).filter fun reading =>
        reading.code = 0 := by
    intro readings name
    simp [trusted, List.filter_filter, Bool.and_comm]
  exact collect_congr fun name => by rw [cut, cut, same]

/-- Failed readings may come and go. -/
theorem collect_of_failed {first second : List Reading}
    (same : (first.filter fun reading => reading.code = 0) =
      second.filter fun reading => reading.code = 0) : collect first = collect second := by
  have cut : ∀ readings name, trusted readings name =
      (readings.filter fun reading => reading.code = 0).filter fun reading =>
        reading.name = name := by
    intro readings name
    simp [trusted, List.filter_filter]
  exact collect_congr fun name => by rw [cut, cut, same]

end Reading

end RiceCooker
