import RiceCooker.Proofs.Text.HexSpelling
import RiceCooker.Temperature

/-! What a text tells of the temperatures. One text tells nothing by agreement,
although it spells two bytes; of the others, those that spell bytes tell them.
So two samples of zero degrees are the only history that does not survive being
written and read. -/
namespace RiceCooker.TemperatureHistory
open Text

theorem ofHex_cases (text : String) :
    ((text = "0000" ∨ ¬∃ samples, Hex.Spells text.toList samples) ∧ ofHex text = empty) ∨
    (text ≠ "0000" ∧ ∃ samples, Hex.Spells text.toList samples ∧ ofHex text = ⟨samples⟩) := by
  by_cases silent : text = noData
  · exact .inl ⟨.inl silent, if_pos silent⟩
  · rw [ofHex, if_neg silent]
    cases read : Hex.decode text.toList with
    | error fault =>
      refine .inl ⟨.inr ?_, rfl⟩
      rintro ⟨samples, spelling⟩
      rw [Hex.decode_eq_ok_iff.mpr spelling] at read
      cases read
    | ok samples => exact .inr ⟨silent, samples, Hex.decode_eq_ok_iff.mp read, rfl⟩

/-- The latest sample is the last byte that is spelled. -/
theorem last?_ofHex_eq_some_iff (text : String) (sample : UInt8) :
    (ofHex text).last? = some sample ↔
      text ≠ "0000" ∧ ∃ earlier, Hex.Spells text.toList (earlier ++ [sample]) := by
  obtain ⟨untold, result⟩ | ⟨telling, samples, spelling, result⟩ := ofHex_cases text
  · rw [result]
    constructor
    · intro impossible
      cases impossible
    · rintro ⟨telling, earlier, spelling⟩
      rcases untold with silent | unspelled
      · exact absurd silent telling
      · exact absurd ⟨_, spelling⟩ unspelled
  · rw [result, last?, List.getLast?_eq_some_iff]
    constructor
    · rintro ⟨earlier, rfl⟩
      exact ⟨telling, earlier, spelling⟩
    · rintro ⟨_, earlier, again⟩
      exact ⟨earlier, spelling.unique again⟩

/-- There is no latest sample without a text, without bytes in it, or with the
text that tells nothing. -/
theorem last?_ofHex_eq_none_iff (text : String) :
    (ofHex text).last? = none ↔
      text = "0000" ∨ text = "" ∨ ¬∃ samples, Hex.Spells text.toList samples := by
  obtain ⟨untold, result⟩ | ⟨telling, samples, spelling, result⟩ := ofHex_cases text
  · rw [result]
    refine ⟨fun _ => untold.imp_right .inr, fun _ => rfl⟩
  · rw [result, last?, List.getLast?_eq_none_iff]
    constructor
    · rintro rfl
      generalize shape : text.toList = letters at spelling
      cases spelling
      exact .inr (.inl (String.toList_eq_nil_iff.mp shape))
    · rintro (silent | rfl | unspelled)
      · exact absurd silent telling
      · exact (Hex.Spells.nil.unique spelling).symm
      · exact absurd ⟨samples, spelling⟩ unspelled

/-! ## Written and read back -/

/-- A text that tells of at least one sample. -/
structure Telling (text : String) : Prop where
  /-- It says something. -/
  some : text ≠ ""
  /-- It is not the one that tells nothing by agreement. -/
  agreed : text ≠ "0000"
  /-- Two characters make a sample. -/
  even : text.toList.length % 2 = 0
  /-- Nothing but digits, and no blanks around them. -/
  digits : ∀ c ∈ text.toList, Hex.isDigit c = true

theorem ofHex_of_spells {text : String} {samples : List UInt8} (agreed : text ≠ "0000")
    (spelling : Hex.Spells text.toList samples) : ofHex text = ⟨samples⟩ := by
  obtain ⟨silent | unspelled, _⟩ | ⟨_, others, again, result⟩ := ofHex_cases text
  · exact absurd silent agreed
  · exact absurd ⟨samples, spelling⟩ unspelled
  · rw [result, again.unique spelling]

/-- What a text that tells something spells. -/
theorem Telling.spells {text : String} (telling : Telling text) :
    Hex.Spells text.toList (ofHex text).samples ∧ (ofHex text).isEmpty = false := by
  obtain ⟨samples, spelling⟩ := (Hex.exists_spells_iff _).mpr ⟨telling.even, telling.digits⟩
  rw [ofHex_of_spells telling.agreed spelling]
  refine ⟨spelling, ?_⟩
  cases samples with
  | nil =>
    generalize shape : text.toList = letters at spelling
    cases spelling
    exact absurd (String.toList_eq_nil_iff.mp shape) telling.some
  | cons sample rest => rfl

theorem ofHex_of_not_telling {text : String} (silent : ¬Telling text) : ofHex text = empty := by
  obtain ⟨_, result⟩ | ⟨agreed, samples, spelling, result⟩ := ofHex_cases text
  · exact result
  · obtain ⟨even, digits⟩ := (Hex.exists_spells_iff _).mp ⟨samples, spelling⟩
    by_cases some : text = ""
    · subst some
      exact result.trans (congrArg mk (Hex.Spells.nil.unique spelling).symm)
    · exact absurd ⟨some, agreed, even, digits⟩ silent

theorem isEmpty_ofHex_eq_false_iff (text : String) :
    (ofHex text).isEmpty = false ↔ Telling text := by
  refine ⟨fun some => ?_, fun telling => telling.spells.2⟩
  by_cases telling : Telling text
  · exact telling
  · rw [ofHex_of_not_telling telling] at some
    cases some

theorem eq_noData_of_toLower {text : String} (lowered : text.toLower = "0000") :
    text = "0000" := by
  have letters : text.toList.map Char.toLower = List.replicate 4 '0' := by
    rw [← String.toList_map]
    exact congrArg String.toList lowered
  obtain ⟨size, zeros⟩ := List.eq_replicate_iff.mp letters
  have same : text.toList = List.replicate 4 '0' := by
    refine List.eq_replicate_iff.mpr ⟨by rwa [List.length_map] at size, fun c member => ?_⟩
    exact Hex.eq_zero_of_toLower c (zeros _ (List.mem_map_of_mem member))
  exact String.toList_inj.mp same

/-- The case of the digits does not matter for what is told. -/
theorem ofHex_toLower (text : String) : ofHex text.toLower = ofHex text := by
  have letters : text.toLower.toList = text.toList.map Char.toLower := String.toList_map
  by_cases agreed : text = "0000"
  · subst agreed
    have same : "0000".toLower = "0000" := String.toList_inj.mp (letters.trans (by decide))
    rw [same]
  · have lowered : text.toLower ≠ "0000" := mt eq_noData_of_toLower agreed
    obtain ⟨silent | unspelled, result⟩ | ⟨_, samples, spelling, result⟩ := ofHex_cases text
    · exact absurd silent agreed
    · obtain ⟨_, sameResult⟩ | ⟨_, samples, spelling, _⟩ := ofHex_cases text.toLower
      · rw [result, sameResult]
      · rw [letters, Hex.spells_map_toLower_iff] at spelling
        exact absurd ⟨samples, spelling⟩ unspelled
    · rw [result, ofHex_of_spells lowered]
      rwa [letters, Hex.spells_map_toLower_iff]

theorem toHex_ofHex {text : String} (telling : Telling text) :
    (ofHex text).toHex = text.toLower := by
  rw [toHex, ← telling.spells.1.toLower_eq_encode, ← String.toList_map, String.ofList_toList]
  rfl

theorem toHex_eq_noData_iff (history : TemperatureHistory) :
    history.toHex = "0000" ↔ history.samples = [0, 0] := by
  have written : "0000" = String.ofList (Hex.encode [0, 0]) := by decide
  rw [written, toHex, String.ofList_inj, Hex.encode_injective.eq_iff]

/-- **Text and samples determine each other, up to the case of the digits**, but
for one text of four digits and the two samples that it would spell. -/
theorem told_and_written_back :
    (∀ text : String,
      ((ofHex text).isEmpty = false ↔ Telling text) ∧
      (¬Telling text → ofHex text = empty) ∧
      (Telling text → (ofHex text).toHex = text.toLower ∧
        2 * (ofHex text).length = text.utf8ByteSize)) ∧
    (∀ samples : List UInt8, ofHex (toHex ⟨samples⟩) = ⟨samples⟩ ↔ samples ≠ [0, 0]) ∧
    ofHex (toHex ⟨[0, 0]⟩) = empty ∧
    ∀ first second : String, (ofHex first).isEmpty = false →
      (ofHex first = ofHex second ↔ first.toLower = second.toLower) := by
  refine ⟨fun text => ⟨isEmpty_ofHex_eq_false_iff text, ofHex_of_not_telling, fun telling =>
    ⟨toHex_ofHex telling, ?_⟩⟩, fun samples => ⟨?_, fun other => ?_⟩, by decide,
    fun first second some => ⟨fun same => ?_, fun same => ?_⟩⟩
  · rw [Hex.utf8ByteSize_eq_byteLength, Hex.byteLength_of_spells telling.spells.1, length]
  · rintro back rfl
    exact absurd back (by decide)
  · exact ofHex_toHex _ (mt (toHex_eq_noData_iff _).mp other)
  · rw [← toHex_ofHex ((isEmpty_ofHex_eq_false_iff first).mp some), same]
    rw [same] at some
    exact toHex_ofHex ((isEmpty_ofHex_eq_false_iff second).mp some)
  · rw [← ofHex_toLower first, same, ofHex_toLower]

/-- Two samples of zero degrees tell nothing, three of them do, and capitals
come back small. -/
theorem samples_of_a_cook_cycle :
    Telling "2F2e00" ∧ (ofHex "2F2e00").toHex = "2f2e00" ∧
      2 * (ofHex "2F2e00").length = "2F2e00".utf8ByteSize ∧
      (ofHex "2F2e00").isEmpty = false ∧ ofHex "2F2e00" = ofHex "2f2E00" ∧
      ¬Telling "0000" ∧ ofHex "0000" = empty ∧ ofHex "000000" = ⟨[0, 0, 0]⟩ := by
  obtain ⟨texts, _, _, cases⟩ := told_and_written_back
  have some : (ofHex "2F2e00").isEmpty = false := by decide
  have telling : Telling "2F2e00" := (texts _).1.mp some
  have silent : ¬Telling "0000" := fun telling => telling.agreed rfl
  obtain ⟨written, size⟩ := (texts _).2.2 telling
  have small : "2F2e00".toLower = "2f2e00" :=
    String.toList_inj.mp (String.toList_map.trans (by decide))
  have others : "2f2E00".toLower = "2f2e00" :=
    String.toList_inj.mp (String.toList_map.trans (by decide))
  exact ⟨telling, written.trans small, size, some, (cases _ _ some).mpr (small.trans others.symm),
    silent, (texts _).2.1 silent, by decide⟩

end RiceCooker.TemperatureHistory
