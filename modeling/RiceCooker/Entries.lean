import Std.Data.ExtTreeMap

/-! Lists of named entries, and maps made of them. Of several entries under one
name, the last one counts. -/
namespace RiceCooker.Entries

/-- The last entry under a name. -/
def last? {α : Type} (name : String) : List (String × α) → Option α
  | [] => none
  | (key, value) :: rest =>
    match last? name rest with
    | some later => some later
    | none => if key = name then some value else none

/-- What is found is one of the entries. -/
theorem mem_of_last? {α : Type} {name : String} {value : α} {entries : List (String × α)}
    (found : last? name entries = some value) : (name, value) ∈ entries := by
  induction entries with
  | nil => simp [last?] at found
  | cons entry rest ih =>
    obtain ⟨key, own⟩ := entry
    rw [last?] at found
    cases later : last? name rest with
    | some other =>
      rw [later] at found
      exact List.mem_cons_of_mem _ (ih (later.trans found))
    | none =>
      rw [later] at found
      by_cases same : key = name
      · simp only [same, ↓reduceIte, Option.some.injEq] at found
        simp [same, found]
      · simp [same] at found

/-- Nothing is found exactly under a name that no entry has. -/
theorem last?_eq_none_iff {α : Type} (name : String) (entries : List (String × α)) :
    last? name entries = none ↔ ∀ entry ∈ entries, entry.1 ≠ name := by
  induction entries with
  | nil => simp [last?]
  | cons entry rest ih =>
    obtain ⟨key, own⟩ := entry
    rw [last?]
    cases later : last? name rest with
    | some other =>
      have present := mem_of_last? later
      simp only [reduceCtorEq, List.mem_cons, forall_eq_or_imp, false_iff, not_and, ne_eq]
      intro _ absent
      exact absent _ present rfl
    | none =>
      have absent := ih.mp later
      by_cases same : key = name
      · simp [same]
      · simpa [same] using absent

/-- Where no name occurs twice, every entry is found. -/
theorem last?_eq_some_iff {α : Type} {name : String} {value : α} {entries : List (String × α)}
    (distinct : entries.Pairwise fun first second => first.1 ≠ second.1) :
    last? name entries = some value ↔ (name, value) ∈ entries := by
  refine ⟨mem_of_last?, fun member => ?_⟩
  induction entries with
  | nil => simp at member
  | cons entry rest ih =>
    obtain ⟨key, own⟩ := entry
    obtain ⟨apart, restDistinct⟩ := List.pairwise_cons.mp distinct
    rw [last?]
    rcases List.mem_cons.mp member with here | below
    · cases here
      have absent : last? name rest = none :=
        (last?_eq_none_iff name rest).mpr fun other inRest => (apart other inRest).symm
      simp [absent]
    · rw [ih restDistinct below]

/-! ## Maps -/

/-- The map of these entries. -/
def toMap {α : Type} (entries : List (String × α)) : Std.ExtTreeMap String α compare :=
  entries.foldl (fun held entry => held.insert entry.1 entry.2) ∅

/-- What a map holds under a name is the last entry under it. -/
theorem getElem?_toMap {α : Type} (entries : List (String × α)) (name : String) :
    (toMap entries)[name]? = last? name entries := by
  have general : ∀ (entries : List (String × α)) (held : Std.ExtTreeMap String α compare),
      (entries.foldl (fun held entry => held.insert entry.1 entry.2) held)[name]? =
        (last? name entries).or held[name]? := by
    intro entries
    induction entries with
    | nil => intro held; simp [last?]
    | cons entry rest ih =>
      intro held
      obtain ⟨key, value⟩ := entry
      rw [List.foldl_cons, ih, Std.ExtTreeMap.getElem?_insert]
      simp only [last?, Std.LawfulEqCmp.compare_eq_iff_eq]
      cases last? name rest with
      | some later => simp
      | none => by_cases same : key = name <;> simp [same]
  simpa [toMap] using general entries ∅

/-- Every map is the map of its entries, in whatever order they are taken. -/
theorem toMap_of_perm {α : Type} {held : Std.ExtTreeMap String α compare}
    {entries : List (String × α)} (same : entries.Perm held.toList) : toMap entries = held := by
  apply Std.ExtTreeMap.ext_getElem?
  intro name
  have distinct : entries.Pairwise fun first second => first.1 ≠ second.1 :=
    same.symm.pairwise (held.distinct_keys_toList.imp fun apart equal => apart (by simp [equal]))
      fun apart => apart.symm
  rw [getElem?_toMap]
  cases found : held[name]? with
  | some value =>
    rw [last?_eq_some_iff distinct, same.mem_iff]
    exact Std.ExtTreeMap.mem_toList_iff_getElem?_eq_some.mpr found
  | none =>
    rw [last?_eq_none_iff]
    rintro ⟨key, value⟩ member rfl
    rw [Std.ExtTreeMap.mem_toList_iff_getElem?_eq_some.mp (same.mem_iff.mp member)] at found
    simp at found

end RiceCooker.Entries
