import RiceCooker.Proofs.Profile.Acceptance

/-! Writing and reading undo each other. What is written holds the payload with
a new checksum, so it reads back as the profile that was written exactly when
the stored checksum was up to date; and a text that was read differs from what
is written again only in its case and in the blanks around it. -/
namespace RiceCooker.Profile
open Text

theorem parse_toHex (p : Profile) : parse p.toHex = .ok p.refresh := by
  rw [toHex, parse_encode]
  exact ofFrame_eq_ok_iff.mpr ⟨rfl, isValid_refresh p⟩

theorem toHex_eq_toHex_iff (p q : Profile) : p.toHex = q.toHex ↔ p.payload = q.payload := by
  rw [toHex, toHex, String.ofList_inj, Hex.encode_injective.eq_iff, toBytes_eq_iff]

theorem toHex_of_parse {text : String} {p : Profile} (read : parse text = .ok p) :
    p.toHex = String.ofList ((trim text.toList).map Char.toLower) := by
  obtain ⟨spelling, valid⟩ := parse_eq_ok_iff.mp read
  rw [spelling.toLower_eq_encode, toHex, toBytes, (refresh_eq_self_iff p).mpr valid]

/-- An accepted profile is determined by its payload. -/
theorem eq_iff_of_isValid {p q : Profile} (first : p.isValid = true) (second : q.isValid = true) :
    p = q ↔ p.payload = q.payload := by
  refine ⟨fun same => same ▸ rfl, fun same => ?_⟩
  rw [← (refresh_eq_self_iff p).mpr first, ← (refresh_eq_self_iff q).mpr second, refresh, refresh,
    same]

/-- **Writing then reading gives the payload with a new checksum; reading then
writing gives the text without its blanks, in lowercase.** -/
theorem written_and_read_back :
    (∀ p : Profile,
      parse p.toHex = .ok ⟨p.payload, Checksum.crc p.payload.bytes⟩ ∧
      (parse p.toHex = .ok p ↔ p.isValid = true) ∧
      p.refresh.toHex = p.toHex) ∧
    (∀ p q : Profile, p.toHex = q.toHex ↔ p.payload.bytes = q.payload.bytes) ∧
    (∀ text p, parse text = .ok p →
      p.toHex = String.ofList ((trim text.toList).map Char.toLower)) ∧
    (∀ first second p q, parse first = .ok p → parse second = .ok q →
      (p = q ↔
        (trim first.toList).map Char.toLower = (trim second.toList).map Char.toLower)) := by
  refine ⟨fun p => ⟨parse_toHex p, ?_, ?_⟩, fun p q => ?_, fun text p => toHex_of_parse, ?_⟩
  · rw [parse_toHex, Except.ok.injEq, refresh_eq_self_iff]
  · rw [toHex_eq_toHex_iff, refresh_payload]
  · rw [toHex_eq_toHex_iff, Payload.bytes_inj]
  · intro first second p q firstRead secondRead
    have firstValid := (parse_eq_ok_iff.mp firstRead).2
    have secondValid := (parse_eq_ok_iff.mp secondRead).2
    calc p = q ↔ p.payload = q.payload := eq_iff_of_isValid firstValid secondValid
      _ ↔ p.toHex = q.toHex := (toHex_eq_toHex_iff p q).symm
      _ ↔ _ := by rw [toHex_of_parse firstRead, toHex_of_parse secondRead, String.ofList_inj]

/-- Blanks and capitals do not come back. -/
theorem capitals_are_written_small :
    parse " 0201000000000160001E0100000A00000000010100FC\n" = .ok whiteRice ∧
      whiteRice.toHex = "0201000000000160001e0100000a00000000010100fc" := by
  have read : parse " 0201000000000160001E0100000A00000000010100FC\n" = .ok whiteRice := by
    decide +kernel
  refine ⟨read, ?_⟩
  rw [written_and_read_back.2.2.1 _ _ read]
  decide +kernel

end RiceCooker.Profile
