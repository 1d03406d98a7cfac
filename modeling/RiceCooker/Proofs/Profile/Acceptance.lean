import RiceCooker.Profile.Frame
import RiceCooker.Proofs.Checksum.Residue
import RiceCooker.Proofs.Text.HexSpelling

/-! Which texts hold a profile, and why the others do not. Reading runs the
checksum over the whole frame; what it accepts and reports is stated here by
comparing the checksum of the message with the trailer behind it. A text that
is refused as no profile is refused for a reason in words, and the words tell
the reasons apart. -/
namespace RiceCooker.Profile
open Text BigEndian

/-! ## Frames in two parts -/

/-- A frame without its last two bytes. -/
def messageOf (frame : List UInt8) : List UInt8 := frame.take (frame.length - 2)

/-- The last two bytes of a frame, the first the more significant. -/
def trailerOf (frame : List UInt8) : UInt16 :=
  join (frame.getD (frame.length - 2) 0) (frame.getD (frame.length - 1) 0)

@[simp] theorem messageOf_append (message : List UInt8) (trailer : UInt16) :
    messageOf (message ++ bytes trailer) = message := by
  simp [messageOf]

@[simp] theorem trailerOf_append (message : List UInt8) (trailer : UInt16) :
    trailerOf (message ++ bytes trailer) = trailer := by
  simp [trailerOf, bytes]

theorem messageOf_append_trailerOf {frame : List UInt8} (room : 2 ≤ frame.length) :
    messageOf frame ++ bytes (trailerOf frame) = frame := by
  cases split : Checksum.splitTrailer? frame with
  | none =>
    have short := (Checksum.splitTrailer?_eq_none_iff frame).mp split
    omega
  | some parts =>
    obtain ⟨message, trailer⟩ := parts
    rw [Checksum.eq_append_of_splitTrailer? split, messageOf_append, trailerOf_append]

theorem length_messageOf (frame : List UInt8) : (messageOf frame).length = frame.length - 2 := by
  rw [messageOf, List.length_take]
  omega

/-- What running the checksum over a whole frame tells. -/
theorem verify_iff {frame : List UInt8} (room : 2 ≤ frame.length) :
    Checksum.verify frame = true ↔ Checksum.crc (messageOf frame) = trailerOf frame := by
  conv_lhs => rw [← messageOf_append_trailerOf room]
  exact Checksum.verify_append_bytes _ _

theorem verify_frame_iff (p : Profile) : Checksum.verify p.frame = true ↔ p.isValid = true := by
  rw [frame, Checksum.verify_append_bytes, isValid, beq_iff_eq, eq_comm]

/-- **Running the checksum over a whole frame and comparing the trailer with the
checksum of the message are the same check.** So a message has one trailer that
verifies, and a profile is valid exactly when its bytes with the stored checksum
verify. -/
theorem residue_check_is_trailer_check :
    (∀ frame : List UInt8, Checksum.verify frame = true ↔
      2 ≤ frame.length ∧ trailerOf frame = Checksum.crc (messageOf frame)) ∧
    (∀ message : List UInt8, Checksum.verify (Checksum.append message) = true) ∧
    (∀ (message : List UInt8) (hi lo : UInt8), Checksum.verify (message ++ [hi, lo]) = true ↔
      message ++ [hi, lo] = Checksum.append message) ∧
    ∀ p : Profile, p.isValid = true ↔
      Checksum.verify (p.payload.bytes ++ bytes p.checksum) = true := by
  refine ⟨fun frame => ⟨fun intact => ?_, ?_⟩, Checksum.verify_append,
    Checksum.verify_extension_iff, fun p => (verify_frame_iff p).symm⟩
  · have room := Checksum.two_le_length_of_verify intact
    exact ⟨room, ((verify_iff room).mp intact).symm⟩
  · rintro ⟨room, fits⟩
    exact (verify_iff room).mpr fits.symm

/-! ## Frames -/

/-- A frame of twenty-two bytes whose trailer fits is a profile, and each of
the other frames is refused for the first reason that applies. -/
theorem ofFrame_cases (frame : List UInt8) :
    (frame.length < 5 ∧ ofFrame frame = .error (.invalidProfile (.tooShort frame.length))) ∨
    (5 ≤ frame.length ∧ Checksum.crc (messageOf frame) ≠ trailerOf frame ∧
      ofFrame frame =
        .error (.checksumMismatch (Checksum.crc (messageOf frame)) (trailerOf frame))) ∨
    (5 ≤ frame.length ∧ Checksum.crc (messageOf frame) = trailerOf frame ∧ frame.length ≠ 22 ∧
      ofFrame frame = .error (.invalidProfile (.wrongPayloadSize (frame.length - 2)))) ∨
    (frame.length = 22 ∧ Checksum.crc (messageOf frame) = trailerOf frame ∧
      ∃ payload : Payload, payload.bytes = messageOf frame ∧
        ofFrame frame = .ok ⟨payload, trailerOf frame⟩) := by
  by_cases short : frame.length < 5
  · exact .inl ⟨short, if_pos short⟩
  · have long : 5 ≤ frame.length := by omega
    have room : 2 ≤ frame.length := by omega
    have split : Checksum.splitTrailer? frame = some (messageOf frame, trailerOf frame) := by
      conv_lhs => rw [← messageOf_append_trailerOf room]
      rw [bytes, Checksum.splitTrailer?_append, join_high_low]
    have enough : ¬frame.length < minFrameSize := short
    refine .inr ?_
    by_cases fits : Checksum.crc (messageOf frame) = trailerOf frame
    · have intact := (verify_iff room).mpr fits
      refine .inr ?_
      cases read : Payload.ofBytes? (messageOf frame) with
      | none =>
        have size := (Payload.ofBytes?_eq_none_iff _).mp read
        rw [length_messageOf] at size
        refine .inl ⟨long, fits, ?_, ?_⟩
        · intro exactly
          exact size (by rw [exactly]; rfl)
        · simp only [ofFrame, enough, split, intact, ↓reduceIte, read, length_messageOf]
      | some payload =>
        have same := Payload.bytes_of_ofBytes? read
        have size := congrArg List.length same
        rw [Payload.length_bytes, length_messageOf, payloadSize] at size
        refine .inr ⟨by omega, fits, payload, same, ?_⟩
        simp only [ofFrame, enough, split, intact, ↓reduceIte, read]
    · have broken : ¬Checksum.verify frame = true := mt (verify_iff room).mp fits
      refine .inl ⟨long, fits, ?_⟩
      simp only [ofFrame, enough, split, broken, ↓reduceIte, Bool.false_eq_true]

/-- The outcomes of reading a frame, each with the frames that have it. -/
theorem ofFrame_verdict (frame : List UInt8) :
    (∀ size, ofFrame frame = .error (.invalidProfile (.tooShort size)) ↔
      frame.length < 5 ∧ size = frame.length) ∧
    (∀ expected actual, ofFrame frame = .error (.checksumMismatch expected actual) ↔
      5 ≤ frame.length ∧ Checksum.crc (messageOf frame) ≠ trailerOf frame ∧
        expected = Checksum.crc (messageOf frame) ∧ actual = trailerOf frame) ∧
    (∀ size, ofFrame frame = .error (.invalidProfile (.wrongPayloadSize size)) ↔
      5 ≤ frame.length ∧ Checksum.crc (messageOf frame) = trailerOf frame ∧
        frame.length ≠ 22 ∧ size = frame.length - 2) ∧
    ((∃ p, ofFrame frame = .ok p) ↔
      frame.length = 22 ∧ Checksum.crc (messageOf frame) = trailerOf frame) ∧
    ∀ p, ofFrame frame = .ok p → p.payload.bytes = messageOf frame ∧ p.checksum = trailerOf frame := by
  obtain ⟨short, refused⟩ | ⟨long, differ, refused⟩ | ⟨long, fits, size, refused⟩ |
    ⟨size, fits, payload, same, held⟩ := ofFrame_cases frame
  · have notLong : ¬5 ≤ frame.length := by omega
    have notWhole : frame.length ≠ 22 := by omega
    simp [refused, short, notLong, notWhole, eq_comm]
  · have notShort : ¬frame.length < 5 := by omega
    simp [refused, notShort, long, differ, eq_comm]
  · have notShort : ¬frame.length < 5 := by omega
    simp [refused, notShort, long, fits, size, eq_comm]
  · have notShort : ¬frame.length < 5 := by omega
    refine ⟨by simp [held, notShort], by simp [held, fits], by simp [held, size],
      by simp [held, size, fits], ?_⟩
    intro p accepted
    rw [held] at accepted
    cases accepted
    exact ⟨same, rfl⟩

/-- A frame is refused as no profile for its size only. -/
theorem ofFrame_defect {frame : List UInt8} {defect : ProfileDefect}
    (refused : ofFrame frame = .error (.invalidProfile defect)) :
    defect = .tooShort frame.length ∨ defect = .wrongPayloadSize (frame.length - 2) := by
  obtain ⟨_, short⟩ | ⟨_, _, differ⟩ | ⟨_, _, _, long⟩ | ⟨_, _, _, _, held⟩ := ofFrame_cases frame
  · cases short.symm.trans refused
    exact .inl rfl
  · cases differ.symm.trans refused
  · cases long.symm.trans refused
    exact .inr rfl
  · cases held.symm.trans refused

theorem ofFrame_eq_ok_iff {frame : List UInt8} {p : Profile} :
    ofFrame frame = .ok p ↔ frame = p.frame ∧ p.isValid = true := by
  constructor
  · intro read
    obtain ⟨_, _, _, accepted, parts⟩ := ofFrame_verdict frame
    obtain ⟨size, fits⟩ := accepted.mp ⟨p, read⟩
    obtain ⟨message, trailer⟩ := parts p read
    constructor
    · rw [Profile.frame, message, trailer, messageOf_append_trailerOf (by omega)]
    · rw [isValid, message, trailer, fits]
      exact beq_self_eq_true _
  · rintro ⟨rfl, valid⟩
    rw [ofFrame_frame, if_pos ((verify_frame_iff p).mpr valid)]

/-! ## Texts -/

theorem parse_of_spells {text : String} {data : List UInt8}
    (spelling : Hex.Spells (trim text.toList) data) : parse text = ofFrame data := by
  rw [parse, Hex.decode_eq_ok_iff.mpr spelling]

theorem parse_cases (text : String) :
    ((¬∃ frame, Hex.Spells (trim text.toList) frame) ∧
      ∃ fault, parse text = .error (.invalidProfile (.notHex fault))) ∨
    ∃ frame, Hex.Spells (trim text.toList) frame ∧ parse text = ofFrame frame := by
  cases read : Hex.decode (trim text.toList) with
  | error fault =>
    refine .inl ⟨?_, fault, by rw [parse, read]⟩
    rintro ⟨frame, spelling⟩
    rw [Hex.decode_eq_ok_iff.mpr spelling] at read
    cases read
  | ok frame =>
    have spelling := Hex.decode_eq_ok_iff.mp read
    exact .inr ⟨frame, spelling, parse_of_spells spelling⟩

/-- What reading a text leaves in the log: the number of the bytes that it spells, if it spells
any. -/
structure Remarked (text : String) (remarks : List String) : Prop where
  spelled : ∀ frame, Hex.Spells (trim text.toList) frame →
    remarks = ["CookerProfile::parse called with " ++ toString frame.length ++ " bytes"]
  unspelled : (¬∃ frame, Hex.Spells (trim text.toList) frame) → remarks = []

theorem remarked_readingRemarks (text : String) : Remarked text (readingRemarks text) where
  spelled frame spelling := by
    rw [readingRemarks, Hex.decode_eq_ok_iff.mpr spelling]
  unspelled none := by
    rw [readingRemarks]
    cases read : Hex.decode (trim text.toList) with
    | error fault => rfl
    | ok frame => exact absurd ⟨frame, Hex.decode_eq_ok_iff.mp read⟩ none

theorem parse_encode (data : List UInt8) : parse (String.ofList (Hex.encode data)) = ofFrame data := by
  apply parse_of_spells
  rw [String.toList_ofList, Hex.trim_encode]
  exact Hex.spells_encode data

/-- A text holds exactly the profile whose frame it spells, if the checksum of
that profile is up to date. -/
theorem parse_eq_ok_iff {text : String} {p : Profile} :
    parse text = .ok p ↔ Hex.Spells (trim text.toList) p.frame ∧ p.isValid = true := by
  constructor
  · intro read
    obtain ⟨_, fault, refused⟩ | ⟨frame, spelling, same⟩ := parse_cases text
    · rw [read] at refused
      cases refused
    · rw [read] at same
      obtain ⟨rfl, valid⟩ := ofFrame_eq_ok_iff.mp same.symm
      exact ⟨spelling, valid⟩
  · rintro ⟨spelling, valid⟩
    rw [parse_of_spells spelling]
    exact ofFrame_eq_ok_iff.mpr ⟨rfl, valid⟩

/-- All profiles have the same size. -/
theorem Remarked.of_parse {text : String} {remarks : List String} {p : Profile}
    (remarked : Remarked text remarks) (read : parse text = .ok p) :
    remarks = ["CookerProfile::parse called with 22 bytes"] := by
  rw [remarked.spelled p.frame (parse_eq_ok_iff.mp read).1, length_frame]
  rfl

/-! ## Reasons -/

/-- A text is refused as no profile, for a reason in words. -/
def RefusedFor (text reason : String) : Prop :=
  ∃ defect, parse text = .error (.invalidProfile defect) ∧ defect.message = reason

theorem message_tooShort (size : Nat) :
    ProfileDefect.message (.tooShort size) = toString size ++ " bytes (need at least 5)" := by
  have behind : " bytes (need at least " ++ (toString minFrameSize ++ ")") =
      " bytes (need at least 5)" := rfl
  show toString size ++ " bytes (need at least " ++ toString minFrameSize ++ ")" = _
  rw [String.append_assoc, String.append_assoc, behind]

theorem message_wrongPayloadSize (size : Nat) :
    ProfileDefect.message (.wrongPayloadSize size) =
      "payload is " ++ toString size ++ " bytes (expected 20)" := by
  have behind : " bytes (expected " ++ (toString payloadSize ++ ")") = " bytes (expected 20)" := rfl
  show "payload is " ++ toString size ++ " bytes (expected " ++ toString payloadSize ++ ")" = _
  rw [String.append_assoc, String.append_assoc, behind]

/-- A number in front of anything shows a digit first. -/
private theorem head?_toString_append (n : Nat) (behind : String) :
    ∃ c, (toString n ++ behind).toList.head? = some c ∧ c.isDigit = true := by
  rw [String.toList_append, Nat.toString_eq_repr, Nat.toList_repr]
  cases shape : Nat.toDigits 10 n with
  | nil => exact absurd shape Nat.toDigits_ne_nil
  | cons first rest =>
    exact ⟨first, rfl,
      Nat.isDigit_of_mem_toDigits (by decide) (by decide) (shape ▸ List.mem_cons_self)⟩

private theorem toString_append_ne (n : Nat) (behind : String) {text : String} {c : Char}
    (first : text.toList.head? = some c) (letter : c.isDigit = false) :
    toString n ++ behind ≠ text := by
  intro same
  obtain ⟨d, shown, digit⟩ := head?_toString_append n behind
  rw [same, first] at shown
  cases shown
  rw [letter] at digit
  cases digit

private theorem toString_inj {m n : Nat} : toString m = toString n ↔ m = n := by
  refine ⟨fun same => ?_, fun same => same ▸ rfl⟩
  have digits := congrArg (fun text => Nat.ofDigitChars 10 text.toList 0) same
  simpa [Nat.toString_eq_repr, Nat.toList_repr] using digits

section Reasons
variable {defect : ProfileDefect} (known : ∀ reason, defect ≠ .described reason)
include known

theorem message_eq_notHex_iff {detail : String} :
    defect.message = "not a hex string: " ++ detail ↔
      ∃ fault, defect = .notHex fault ∧ fault.message = detail := by
  have letter : ("not a hex string: " ++ detail).toList.head? = some 'n' := by simp
  cases defect with
  | notHex fault =>
    show "not a hex string: " ++ fault.message = _ ↔ _
    simp
  | tooShort size =>
    rw [message_tooShort]
    exact iff_of_false (toString_append_ne _ _ letter (by decide)) (by simp)
  | wrongPayloadSize size =>
    rw [message_wrongPayloadSize]
    refine iff_of_false (fun same => ?_) (by simp)
    rw [← same] at letter
    simp at letter
  | described reason => exact absurd rfl (known reason)

theorem message_eq_tooShort_iff {size : Nat} :
    defect.message = toString size ++ " bytes (need at least 5)" ↔ defect = .tooShort size := by
  cases defect with
  | notHex fault =>
    have letter : (ProfileDefect.message (.notHex fault)).toList.head? = some 'n' := by
      show ("not a hex string: " ++ fault.message).toList.head? = _
      simp
    exact iff_of_false (toString_append_ne _ _ letter (by decide)).symm (by simp)
  | tooShort other =>
    rw [message_tooShort, String.append_left_inj, toString_inj, ProfileDefect.tooShort.injEq]
  | wrongPayloadSize other =>
    have letter : ("payload is " ++ toString other ++ " bytes (expected 20)").toList.head? =
      some 'p' := by simp
    rw [message_wrongPayloadSize]
    exact iff_of_false (toString_append_ne _ _ letter (by decide)).symm (by simp)
  | described reason => exact absurd rfl (known reason)

theorem message_eq_wrongPayloadSize_iff {size : Nat} :
    defect.message = "payload is " ++ toString size ++ " bytes (expected 20)" ↔
      defect = .wrongPayloadSize size := by
  have letter : ("payload is " ++ toString size ++ " bytes (expected 20)").toList.head? =
    some 'p' := by simp
  cases defect with
  | notHex fault =>
    show "not a hex string: " ++ fault.message = _ ↔ _
    refine iff_of_false (fun same => ?_) (by simp)
    rw [← same] at letter
    simp at letter
  | tooShort other =>
    rw [message_tooShort]
    exact iff_of_false (toString_append_ne _ _ letter (by decide)) (by simp)
  | wrongPayloadSize other =>
    rw [message_wrongPayloadSize, String.append_left_inj, String.append_right_inj, toString_inj,
      ProfileDefect.wrongPayloadSize.injEq]
  | described reason => exact absurd rfl (known reason)

end Reasons

/-- Reading never makes up a reason of its own. -/
theorem parse_ne_described (text reason : String) :
    parse text ≠ .error (.invalidProfile (.described reason)) := by
  intro refused
  obtain ⟨_, _, unspelled⟩ | ⟨frame, _, same⟩ := parse_cases text
  · cases unspelled.symm.trans refused
  · obtain short | long := ofFrame_defect (same.symm.trans refused)
    · cases short
    · cases long

section RefusedFor
variable {text : String}

private theorem known_of_parse {defect : ProfileDefect}
    (refused : parse text = .error (.invalidProfile defect)) (reason : String) :
    defect ≠ .described reason :=
  fun same => parse_ne_described text reason (same ▸ refused)

theorem refusedFor_notHex_iff {detail : String} :
    RefusedFor text ("not a hex string: " ++ detail) ↔ Hex.Faulty (trim text.toList) detail := by
  rw [Hex.faulty_iff]
  constructor
  · rintro ⟨defect, refused, reason⟩
    obtain ⟨fault, rfl, message⟩ := (message_eq_notHex_iff (known_of_parse refused)).mp reason
    rw [parse] at refused
    cases read : Hex.decode (trim text.toList) with
    | error other =>
      rw [read] at refused
      cases refused
      exact ⟨fault, rfl, message⟩
    | ok frame =>
      rw [read] at refused
      obtain short | long := ofFrame_defect refused
      · cases short
      · cases long
  · rintro ⟨fault, read, rfl⟩
    exact ⟨.notHex fault, by rw [parse, read], rfl⟩

/-- A reason that is given for one defect only stands for that defect. -/
private theorem refusedFor_iff_of_message {defect : ProfileDefect} {reason : String}
    (own : ∀ {other : ProfileDefect}, (∀ reason, other ≠ .described reason) →
      (other.message = reason ↔ other = defect)) :
    RefusedFor text reason ↔ parse text = .error (.invalidProfile defect) := by
  constructor
  · rintro ⟨other, refused, said⟩
    rw [refused, (own (known_of_parse refused)).mp said]
  · intro refused
    exact ⟨defect, refused, (own (known_of_parse refused)).mpr rfl⟩

theorem refusedFor_tooShort_iff {size : Nat} :
    RefusedFor text (toString size ++ " bytes (need at least 5)") ↔
      parse text = .error (.invalidProfile (.tooShort size)) :=
  refusedFor_iff_of_message fun known => message_eq_tooShort_iff known

theorem refusedFor_wrongPayloadSize_iff {size : Nat} :
    RefusedFor text ("payload is " ++ toString size ++ " bytes (expected 20)") ↔
      parse text = .error (.invalidProfile (.wrongPayloadSize size)) :=
  refusedFor_iff_of_message fun known => message_eq_wrongPayloadSize_iff known

end RefusedFor

/-! ## Verdict -/

/-- **Every text is accepted, or refused for the first of four causes that
applies**, and except for the checksum the reason is given in words: what is
wrong with the digits, how many bytes there are, or how many the payload has. A
text that is refused for its checksum is shown two different checksums, and an
accepted one holds a profile with the right checksum. -/
theorem parse_verdict (text : String) :
    ((∃ detail, RefusedFor text ("not a hex string: " ++ detail)) ↔
      ¬((trim text.toList).length % 2 = 0 ∧ ∀ c ∈ trim text.toList, Hex.isDigit c = true)) ∧
    (∀ detail, RefusedFor text ("not a hex string: " ++ detail) ↔
      Hex.Faulty (trim text.toList) detail) ∧
    (∀ frame, Hex.Spells (trim text.toList) frame →
      (∀ size : Nat, RefusedFor text (toString size ++ " bytes (need at least 5)") ↔
        frame.length < 5 ∧ size = frame.length) ∧
      (∀ expected actual, parse text = .error (.checksumMismatch expected actual) ↔
        5 ≤ frame.length ∧ Checksum.crc (messageOf frame) ≠ trailerOf frame ∧
          expected = Checksum.crc (messageOf frame) ∧ actual = trailerOf frame) ∧
      (∀ size : Nat, RefusedFor text ("payload is " ++ toString size ++ " bytes (expected 20)") ↔
        5 ≤ frame.length ∧ Checksum.crc (messageOf frame) = trailerOf frame ∧
          frame.length ≠ 22 ∧ size = frame.length - 2) ∧
      ((∃ p, parse text = .ok p) ↔
        frame.length = 22 ∧ Checksum.crc (messageOf frame) = trailerOf frame) ∧
      ∀ p, parse text = .ok p →
        p.payload.bytes = messageOf frame ∧ p.checksum = trailerOf frame) ∧
    (∀ expected actual, parse text = .error (.checksumMismatch expected actual) →
      expected ≠ actual) ∧
    (∀ p, parse text = .ok p → p.isValid = true) ∧
    ((∃ detail, RefusedFor text ("not a hex string: " ++ detail)) ∨
      (∃ size : Nat, RefusedFor text (toString size ++ " bytes (need at least 5)")) ∨
      (∃ expected actual, parse text = .error (.checksumMismatch expected actual)) ∨
      (∃ size : Nat, RefusedFor text ("payload is " ++ toString size ++ " bytes (expected 20)")) ∨
      ∃ p, parse text = .ok p) := by
  rw [← Hex.exists_spells_iff]
  refine ⟨?_, fun _ => refusedFor_notHex_iff, fun frame spelling => ?_,
    fun expected actual mismatch => ?_, fun p accepted => (parse_eq_ok_iff.mp accepted).2, ?_⟩
  · simp only [refusedFor_notHex_iff]
    exact Hex.exists_faulty_iff
  · simp only [refusedFor_tooShort_iff, refusedFor_wrongPayloadSize_iff]
    rw [parse_of_spells spelling]
    exact ofFrame_verdict frame
  · obtain ⟨_, _, refused⟩ | ⟨frame, _, same⟩ := parse_cases text
    · rw [mismatch] at refused
      cases refused
    · rw [same] at mismatch
      obtain ⟨_, differ, rfl, rfl⟩ := ((ofFrame_verdict frame).2.1 expected actual).mp mismatch
      exact differ
  · simp only [refusedFor_notHex_iff, refusedFor_tooShort_iff, refusedFor_wrongPayloadSize_iff]
    obtain ⟨unspelled, _⟩ | ⟨frame, _, same⟩ := parse_cases text
    · exact .inl (Hex.exists_faulty_iff.mpr unspelled)
    · rw [same]
      obtain ⟨_, refused⟩ | ⟨_, _, refused⟩ | ⟨_, _, _, refused⟩ | ⟨_, _, payload, _, held⟩ :=
        ofFrame_cases frame
      · exact .inr (.inl ⟨_, refused⟩)
      · exact .inr (.inr (.inl ⟨_, _, refused⟩))
      · exact .inr (.inr (.inr (.inl ⟨_, refused⟩)))
      · exact .inr (.inr (.inr (.inr ⟨_, held⟩)))

/-- White rice: every ability, ten minutes to an hour, and thirty minutes
chosen. -/
def whiteRice : Profile where
  payload := {
    deviceType := 2
    subType := 1
    menuIndex := 0
    menuId := 1
    abilities := 0x60
    duration := ⟨0, 30⟩
    cookTimeMax := ⟨1, 0⟩
    cookTimeMin := ⟨0, 10⟩
    scheduleEnabled := false
    scheduleHours := 0
    autoKeepWarm := false
    scheduleMinutes := 0
    reserved := 0
    riceId := 1
    taste := 1 }
  checksum := 0x00fc

theorem parse_whiteRice :
    parse "0201000000000160001e0100000a00000000010100fc" = .ok whiteRice := by
  decide +kernel

/-- A trailer that is one too high is reported next to the right one, and a
single byte is too short for a trailer. -/
theorem parse_high_trailer :
    Hex.Spells (trim " 0201000000000160001E0100000A00000000010100FD\n".toList)
        (whiteRice.payload.bytes ++ bytes 0x00fd) ∧
      parse " 0201000000000160001E0100000A00000000010100FD\n" =
        .error (.checksumMismatch 0x00fc 0x00fd) ∧
      Hex.Spells (trim "00".toList) [0] ∧
      RefusedFor "00" "1 bytes (need at least 5)" ∧
      RefusedFor "0x" "not a hex string: Invalid character 'x' at position 1" := by
  have spelled : Hex.Spells (trim " 0201000000000160001E0100000A00000000010100FD\n".toList)
      (whiteRice.payload.bytes ++ bytes 0x00fd) := Hex.decode_eq_ok_iff.mp (by decide +kernel)
  have single : Hex.Spells (trim "00".toList) [0] := Hex.decode_eq_ok_iff.mp (by decide +kernel)
  refine ⟨spelled, ?_, single, ?_, ?_⟩
  · apply (((parse_verdict _).2.2.1 _ spelled).2.1 0x00fc 0x00fd).mpr
    decide +kernel
  · exact (((parse_verdict _).2.2.1 _ single).1 1).mpr ⟨by decide, rfl⟩
  · exact ((parse_verdict "0x").2.1 _).mpr (Hex.faulty_iff.mpr ⟨.badDigit 0x78 1, rfl, rfl⟩)

end RiceCooker.Profile
