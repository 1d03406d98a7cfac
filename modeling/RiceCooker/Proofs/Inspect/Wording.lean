import RiceCooker.Inspect
import RiceCooker.Proofs.Profile.Acceptance

/-! What the command writes, letter by letter. The report is a table whose
values stand in one column, with every number taken from the fields of the
payload; a complaint is one line about the error that ended the run. Both are
spelled out here on their own and then compared with what the command prints. -/
namespace RiceCooker.Inspect
open BigEndian Profile Text

/-! ## Rows -/

/-- A row of a report: a label with a colon, and a value that starts in the eighteenth column. -/
def row (label value : String) : String :=
  String.ofList ((label ++ ":").toList.rightpad 17 ' ') ++ value

/-- A row about an ability: the label is set in and carries no colon. -/
def abilityRow (label : String) (able : Bool) : String :=
  String.ofList (("  " ++ label).toList.rightpad 17 ' ') ++ if able then "true" else "false"

/-- A byte as a hexadecimal number of at least two digits. -/
def hexadecimal (byte : UInt8) : String :=
  "0x" ++ String.ofList ((Nat.toDigits 16 byte.toNat).leftpad 2 '0')

/-- A time as a number of minutes. -/
def minutes (time : HourMinute) : Nat := time.hours.toNat * 60 + time.minutes.toNat

/-- The delay before cooking as a number of minutes. -/
def delayMinutes (p : Payload) : Nat := p.scheduleHours.toNat * 60 + p.scheduleMinutes.toNat

/-- The rows of the report on a payload. -/
def rows (p : Payload) : List String :=
  [row "Device type" (hexadecimal p.deviceType),
    row "Sub-type" (hexadecimal p.subType),
    row "Menu" (toString p.menuId.toNat ++ " (index " ++ toString p.menuIndex.toNat ++ ")"),
    row "Cook time" (toString (minutes p.duration) ++ " min (" ++
      toString (minutes p.cookTimeMin) ++ "..=" ++ toString (minutes p.cookTimeMax) ++ ")"),
    row "Schedule" (toString (delayMinutes p) ++ " min (" ++
      (if p.scheduleEnabled then "enabled" else "disabled") ++ ")"),
    row "Keep warm" (if p.autoKeepWarm then "true" else "false"),
    row "Rice" (toString p.riceId.toNat),
    row "Taste" (toString p.taste.toNat),
    "",
    "Capabilities:",
    abilityRow "duration" (decide (minutes p.cookTimeMin < minutes p.cookTimeMax)),
    abilityRow "schedule" (p.abilities.toNat.testBit 6),
    abilityRow "keep warm" (p.abilities.toNat.testBit 5),
    abilityRow "rice" (decide (p.menuId = 1 ∨ p.menuId = 2)),
    abilityRow "taste" (decide (p.menuId = 1))]

/-- The rows about a payload that was adjusted, under the text that it is written as. -/
def editRows (hex : String) (p : Payload) : List String :=
  [row "Edited profile" hex,
    row "Duration" (toString (minutes p.duration) ++ " min"),
    row "Schedule" (toString (delayMinutes p) ++ " min"),
    row "Taste" (toString p.taste.toNat)]

theorem markedByte_eq (byte : UInt8) : Hex.markedByte byte = hexadecimal byte := by
  have digits := forall_byte (P := fun byte =>
    Hex.encodeByte byte = (Nat.toDigits 16 byte.toNat).leftpad 2 '0') (by decide +kernel) byte
  rw [Hex.markedByte, hexadecimal, digits]

theorem canSchedule_eq_testBit (p : Payload) : p.canSchedule = p.abilities.toNat.testBit 6 :=
  forall_byte (P := fun abilities => (abilities &&& 0x40 != 0) = abilities.toNat.testBit 6)
    (by decide +kernel) p.abilities

theorem canSetAutoKeepWarm_eq_testBit (p : Payload) :
    p.canSetAutoKeepWarm = p.abilities.toNat.testBit 5 :=
  forall_byte (P := fun abilities => (abilities &&& 0x20 != 0) = abilities.toNat.testBit 5)
    (by decide +kernel) p.abilities

theorem canSetDuration_eq_decide (p : Payload) :
    p.canSetDuration = decide (minutes p.cookTimeMin < minutes p.cookTimeMax) := by
  rw [Payload.canSetDuration, decide_eq_decide, UInt16.lt_iff_toNat_lt, HourMinute.toNat_total,
    HourMinute.toNat_total, minutes, minutes]

theorem canChooseRice_eq_decide (p : Payload) :
    p.canChooseRice = decide (p.menuId = 1 ∨ p.menuId = 2) := by
  simp [Payload.canChooseRice, Payload.riceMenus]

theorem canConfigureTaste_eq_decide (p : Payload) :
    p.canConfigureTaste = decide (p.menuId = 1) := by
  rw [Payload.canConfigureTaste, Payload.tasteMenu, Bool.beq_eq_decide_eq]

theorem inMinutes_total (time : HourMinute) :
    inMinutes time.total = toString (minutes time) ++ " min" := by
  rw [inMinutes, HourMinute.toNat_total, minutes]

theorem inMinutes_scheduleDuration (p : Payload) :
    inMinutes p.scheduleDuration = toString (delayMinutes p) ++ " min" := by
  rw [inMinutes, Payload.toNat_scheduleDuration, delayMinutes]

/-- A label up to the column of the values. -/
theorem row_eq {label shown : String}
    (padded : (label ++ ":").toList.rightpad 17 ' ' = shown.toList) (value : String) :
    row label value = shown ++ value := by
  rw [row, padded, String.ofList_toList]

theorem abilityRow_eq {label shown : String}
    (padded : ("  " ++ label).toList.rightpad 17 ' ' = shown.toList) (able : Bool) :
    abilityRow label able = shown ++ Text.truth able := by
  rw [abilityRow, padded, String.ofList_toList, Text.truth]

/-- **The report is the table of rows**, in their order. -/
theorem report_eq_rows (p : Profile) : report p = rows p.payload := by
  have joined (behind : String) : " min" ++ (" (" ++ behind) = " min (" ++ behind := by
    rw [← String.append_assoc]
    rfl
  have total (time : HourMinute) : time.total.toNat = minutes time := time.toNat_total
  simp only [report, rows, attributes, Payload.attributes, inMinutes_total,
    inMinutes_scheduleDuration, total, markedByte_eq, canSchedule_eq_testBit,
    canSetAutoKeepWarm_eq_testBit, canSetDuration_eq_decide, canChooseRice_eq_decide,
    canConfigureTaste_eq_decide, List.cons.injEq, and_true, true_and]
  refine ⟨?deviceType, ?subType, ?menu, ?cookTime, ?schedule, ?keepWarm, ?rice, ?taste,
    ?duration, ?canSchedule, ?canKeepWarm, ?canChooseRice, ?canConfigureTaste⟩
  case menu =>
    rw [row_eq (show _ = "Menu:            ".toList by decide)]
    simp only [String.append_assoc]
  case cookTime =>
    rw [row_eq (show _ = "Cook time:       ".toList by decide)]
    simp only [String.append_assoc, joined]
  case schedule =>
    rw [row_eq (show _ = "Schedule:        ".toList by decide)]
    simp only [String.append_assoc, joined]
  case deviceType | subType | keepWarm | rice | taste => exact (row_eq (by decide) _).symm
  case duration | canSchedule | canKeepWarm | canChooseRice | canConfigureTaste =>
    exact (abilityRow_eq (by decide) _).symm

theorem editReport_eq_editRows (p : Profile) : editReport p = editRows p.toHex p.payload := by
  simp only [editReport, editRows, inMinutes_total, inMinutes_scheduleDuration, List.cons.injEq,
    and_true]
  exact ⟨(row_eq (by decide) _).symm, (row_eq (by decide) _).symm, (row_eq (by decide) _).symm,
    (row_eq (by decide) _).symm⟩

/-! ## Complaints -/

/-- A character that was quoted, as it looks when the text around it is quoted too: what stood
behind one backslash stands behind two. -/
def twiceQuoted (c : Char) : List Char :=
  if c = '\x00' then ['\\', '\\', '0']
  else if c = '\t' then ['\\', '\\', 't']
  else if c = '\n' then ['\\', '\\', 'n']
  else if c = '\r' then ['\\', '\\', 'r']
  else if c = '\x27' then ['\\', '\\', '\x27']
  else if c = '\x22' then ['\\', '\x22']
  else if c = '\\' then ['\\', '\\', '\\', '\\']
  else if c.toNat < 32 ∨ 127 ≤ c.toNat ∧ c.toNat ≤ 160 ∨ c.toNat = 173 then
    ['\\', '\\', 'u', '\x7b'] ++ Nat.toDigits 16 c.toNat ++ ['\x7d']
  else [c]

/-- The line about each error that ends a run. -/
inductive Complaint : Error → String → Prop where
  | oddLength : Complaint (.invalidProfile (.notHex .oddLength))
      "Error: InvalidProfile \x7b reason: \"not a hex string: Odd number of digits\" \x7d\n"
  | badDigit (byte : UInt8) (position : Nat) :
    Complaint (.invalidProfile (.notHex (.badDigit byte position)))
      ("Error: InvalidProfile \x7b reason: \"not a hex string: Invalid character \x27" ++
        String.ofList (twiceQuoted (Char.ofNat byte.toNat)) ++ "\x27 at position " ++
        toString position ++ "\" \x7d\n")
  | tooShort (size : Nat) : Complaint (.invalidProfile (.tooShort size))
      ("Error: InvalidProfile \x7b reason: \"" ++ toString size ++
        " bytes (need at least 5)\" \x7d\n")
  | wrongPayloadSize (size : Nat) : Complaint (.invalidProfile (.wrongPayloadSize size))
      ("Error: InvalidProfile \x7b reason: \"payload is " ++ toString size ++
        " bytes (expected 20)\" \x7d\n")
  | checksum (expected actual : UInt16) : Complaint (.checksumMismatch expected actual)
      ("Error: ChecksumMismatch \x7b expected: " ++ toString expected.toNat ++ ", actual: " ++
        toString actual.toNat ++ " \x7d\n")
  | taste (taste : UInt8) : Complaint (.invalidParameter "taste" (toString taste.toNat))
      ("Error: InvalidParameter \x7b name: \"taste\", value: \"" ++ toString taste.toNat ++
        "\" \x7d\n")

/-! ## Quoting -/

/-- A text as it stands between double marks. -/
def escaped (text : String) : String :=
  String.ofList (text.toList.flatMap (Quoted.escape Quoted.doubleMark))

theorem escaped_append (front back : String) :
    escaped (front ++ back) = escaped front ++ escaped back := by
  rw [escaped, String.toList_append, List.flatMap_append, String.ofList_append, escaped, escaped]

/-- The digits of a number are quoted as they are. -/
theorem escaped_toString (n : Nat) : escaped (toString n) = toString n := by
  have plain : ∀ c ∈ (toString n).toList, Quoted.escape Quoted.doubleMark c = [c] := by
    intro c member
    rw [Nat.toString_eq_repr, Nat.toList_repr] at member
    have digit := Nat.isDigit_of_mem_toDigits (by decide) (by decide) member
    obtain ⟨above, below⟩ := Char.isDigit_iff_toNat.mp digit
    have table : ∀ k : Fin 58, 48 ≤ k.val →
        Quoted.escape Quoted.doubleMark (Char.ofNat k.val) = [Char.ofNat k.val] := by decide
    have entry := table ⟨c.toNat, Nat.lt_succ_of_le below⟩ above
    rwa [Char.ofNat_toNat] at entry
  rw [escaped, List.flatMap_congr plain, List.flatMap_singleton', String.ofList_toList]

/-- A byte is quoted as a character, and that character once more in the text around it. -/
theorem escaped_letter (byte : UInt8) :
    escaped (Quoted.letter (Char.ofNat byte.toNat)) =
      "\x27" ++ String.ofList (twiceQuoted (Char.ofNat byte.toNat)) ++ "\x27" := by
  have twice := forall_byte (P := fun byte =>
    (Quoted.escape Quoted.apostrophe (Char.ofNat byte.toNat)).flatMap
      (Quoted.escape Quoted.doubleMark) = twiceQuoted (Char.ofNat byte.toNat))
    (by decide +kernel) byte
  have mark : Quoted.escape Quoted.doubleMark Quoted.apostrophe = ['\x27'] := by decide
  apply String.toList_inj.mp
  simp [escaped, Quoted.letter, twice, mark]

theorem complaint_invalidProfile (defect : ProfileDefect) :
    complaint (.invalidProfile defect) =
      "Error: InvalidProfile \x7b reason: \"" ++ escaped defect.message ++ "\" \x7d\n" := by
  show "Error: " ++ ("InvalidProfile" ++ (" \x7b " ++ ", ".intercalate ["reason" ++ ": " ++
    Quoted.string defect.message] ++ " \x7d")) ++ "\n" = _
  apply String.toList_inj.mp
  simp [Quoted.string, Quoted.doubleMark, escaped]

theorem complaint_invalidParameter (name value : String) :
    complaint (.invalidParameter name value) =
      "Error: InvalidParameter \x7b name: \"" ++ escaped name ++ "\", value: \"" ++
        escaped value ++ "\" \x7d\n" := by
  show "Error: " ++ ("InvalidParameter" ++ (" \x7b " ++ ", ".intercalate ["name" ++ ": " ++
    Quoted.string name, "value" ++ ": " ++ Quoted.string value] ++ " \x7d")) ++ "\n" = _
  apply String.toList_inj.mp
  simp [Quoted.string, Quoted.doubleMark, escaped]

theorem complaint_checksumMismatch (expected actual : UInt16) :
    complaint (.checksumMismatch expected actual) =
      "Error: ChecksumMismatch \x7b expected: " ++ toString expected.toNat ++ ", actual: " ++
        toString actual.toNat ++ " \x7d\n" := by
  show "Error: " ++ ("ChecksumMismatch" ++ (" \x7b " ++ ", ".intercalate ["expected" ++ ": " ++
    toString expected.toNat, "actual" ++ ": " ++ toString actual.toNat] ++ " \x7d")) ++ "\n" = _
  apply String.toList_inj.mp
  simp

theorem complaint_oddLength : complaint (.invalidProfile (.notHex .oddLength)) =
    "Error: InvalidProfile \x7b reason: \"not a hex string: Odd number of digits\" \x7d\n" := by
  decide +kernel

theorem complaint_badDigit (byte : UInt8) (position : Nat) :
    complaint (.invalidProfile (.notHex (.badDigit byte position))) =
      "Error: InvalidProfile \x7b reason: \"not a hex string: Invalid character \x27" ++
        String.ofList (twiceQuoted (Char.ofNat byte.toNat)) ++ "\x27 at position " ++
        toString position ++ "\" \x7d\n" := by
  have message : ProfileDefect.message (.notHex (.badDigit byte position)) =
      "not a hex string: " ++ ("Invalid character " ++ Quoted.letter (Char.ofNat byte.toNat) ++
        " at position " ++ toString position) := rfl
  have front : escaped "not a hex string: " = "not a hex string: " := by decide
  have middle : escaped "Invalid character " = "Invalid character " := by decide
  have back : escaped " at position " = " at position " := by decide
  rw [complaint_invalidProfile, message]
  simp only [escaped_append, escaped_toString, escaped_letter, front, middle, back]
  apply String.toList_inj.mp
  simp

theorem complaint_tooShort (size : Nat) : complaint (.invalidProfile (.tooShort size)) =
    "Error: InvalidProfile \x7b reason: \"" ++ toString size ++
      " bytes (need at least 5)\" \x7d\n" := by
  have back : escaped " bytes (need at least 5)" = " bytes (need at least 5)" := by decide
  rw [complaint_invalidProfile, message_tooShort, escaped_append, escaped_toString, back]
  apply String.toList_inj.mp
  simp

theorem complaint_wrongPayloadSize (size : Nat) :
    complaint (.invalidProfile (.wrongPayloadSize size)) =
      "Error: InvalidProfile \x7b reason: \"payload is " ++ toString size ++
        " bytes (expected 20)\" \x7d\n" := by
  have front : escaped "payload is " = "payload is " := by decide
  have back : escaped " bytes (expected 20)" = " bytes (expected 20)" := by decide
  rw [complaint_invalidProfile, message_wrongPayloadSize, escaped_append, escaped_append,
    escaped_toString, front, back]
  apply String.toList_inj.mp
  simp

theorem complaint_taste (taste : UInt8) :
    complaint (.invalidParameter "taste" (toString taste.toNat)) =
      "Error: InvalidParameter \x7b name: \"taste\", value: \"" ++ toString taste.toNat ++
        "\" \x7d\n" := by
  have name : escaped "taste" = "taste" := by decide
  rw [complaint_invalidParameter, escaped_toString, name]
  apply String.toList_inj.mp
  simp

/-- There is one line about each error. -/
theorem Complaint.eq_complaint {error : Error} {line : String} (said : Complaint error line) :
    line = complaint error := by
  cases said with
  | oddLength => exact complaint_oddLength.symm
  | badDigit byte position => exact (complaint_badDigit byte position).symm
  | tooShort size => exact (complaint_tooShort size).symm
  | wrongPayloadSize size => exact (complaint_wrongPayloadSize size).symm
  | checksum expected actual => exact (complaint_checksumMismatch expected actual).symm
  | taste taste => exact (complaint_taste taste).symm

/-- **A text that holds no profile is complained about in these words.** -/
theorem complaint_of_parse {text : String} {error : Error} (refused : parse text = .error error) :
    Complaint error (complaint error) := by
  obtain ⟨_, fault, unspelled⟩ | ⟨frame, _, same⟩ := parse_cases text
  · cases unspelled.symm.trans refused
    cases fault with
    | oddLength =>
      rw [complaint_oddLength]
      exact .oddLength
    | badDigit byte position =>
      rw [complaint_badDigit]
      exact .badDigit byte position
  · rw [same] at refused
    obtain ⟨_, short⟩ | ⟨_, _, differ⟩ | ⟨_, _, _, long⟩ | ⟨_, _, _, _, held⟩ :=
      ofFrame_cases frame
    · cases short.symm.trans refused
      rw [complaint_tooShort]
      exact .tooShort _
    · cases differ.symm.trans refused
      rw [complaint_checksumMismatch]
      exact .checksum _ _
    · cases long.symm.trans refused
      rw [complaint_wrongPayloadSize]
      exact .wrongPayloadSize _
    · cases held.symm.trans refused

end RiceCooker.Inspect
