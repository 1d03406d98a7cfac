import RiceCooker.Proofs.Inspect.Wording
import RiceCooker.Proofs.Profile.Adjustment
import RiceCooker.Proofs.Profile.RoundTrip
import RiceCooker.Proofs.Text.NumeralSpelling

/-! What a run of the command amounts to. An argument counts exactly when it is
a numeral in range; the profile is read once for the report and once more for
the adjustments, with a remark each time; and how far a run comes is seen from
its exit code, from its complaint and from what it has printed by then. -/
namespace RiceCooker.Inspect
open Profile Text

/-! ## Arguments -/

theorem word?_eq_some_iff {argument : String} {word : UInt16} :
    word? argument = some word ↔ Unsigned argument.toList word.toNat :=
  map_unsigned?_eq_some_iff (fun word => Nat.le_of_lt_succ word.toNat_lt)
    (fun _ => UInt16.ofNat_toNat) fun _ small => UInt16.toNat_ofNat_of_lt' (Nat.lt_succ_of_le small)

theorem byte?_eq_some_iff {argument : String} {byte : UInt8} :
    byte? argument = some byte ↔ Unsigned argument.toList byte.toNat :=
  map_unsigned?_eq_some_iff (fun byte => Nat.le_of_lt_succ byte.toNat_lt)
    (fun _ => UInt8.ofNat_toNat) fun _ small => UInt8.toNat_ofNat_of_lt' (Nat.lt_succ_of_le small)

/-- The argument at a place is a numeral of a number. -/
def Tells (arguments : List String) (place n : Nat) : Prop :=
  ∃ argument, arguments[place]? = some argument ∧ Unsigned argument.toList n

/-- What the arguments behind the profile ask for. -/
structure Asked (arguments : List String) (wanted : Options) : Prop where
  duration : ∀ minutes, wanted.duration = some minutes ↔ Tells arguments 0 minutes.toNat
  schedule : ∀ minutes, wanted.schedule = some minutes ↔ Tells arguments 1 minutes.toNat
  taste : ∀ taste, wanted.taste = some taste ↔ Tells arguments 2 taste.toNat
  autoKeepWarm : wanted.autoKeepWarm = none

theorem asked_options (arguments : List String) : Asked arguments (options arguments) where
  duration minutes := by
    simp only [options, Option.bind_eq_some_iff, word?_eq_some_iff, Tells]
  schedule minutes := by
    simp only [options, Option.bind_eq_some_iff, word?_eq_some_iff, Tells]
  taste taste := by
    simp only [options, Option.bind_eq_some_iff, byte?_eq_some_iff, Tells]
  autoKeepWarm := rfl

theorem options_eq_none_iff {wanted : Options} (keep : wanted.autoKeepWarm = none) :
    wanted = Options.none ↔
      wanted.duration = none ∧ wanted.schedule = none ∧ wanted.taste = none := by
  obtain ⟨duration, schedule, autoKeepWarm, taste⟩ := wanted
  cases keep
  simp [Options.none]

/-! ## What is printed -/

/-- What stands above every report. -/
def heading : List String := ["Cooking Profile", "===============", ""]

/-- What is remarked whenever a profile is read. -/
def readRemark : Output := .remark "CookerProfile::parse called with 22 bytes"

/-- All that is printed up to the end of the report on a payload. -/
def reported (p : Payload) : List Output :=
  heading.map .line ++ readRemark :: (rows p).map .line

/-- All that is printed about an adjusted payload. -/
def edited (hex : String) (q : Payload) : List Output :=
  .line "" :: .remark ("Serialized profile: " ++ hex) :: (editRows hex q).map .line

theorem reporting_eq_reported {text : String} {p : Profile} (read : parse text = .ok p) :
    reporting text p = reported p.payload := by
  rw [reporting, opening, (remarked_readingRemarks text).of_parse read, report_eq_rows,
    List.append_assoc]
  rfl

theorem reopening_eq {text : String} {p : Profile} (read : parse text = .ok p) :
    reopening text = [readRemark] := by
  rw [reopening, (remarked_readingRemarks text).of_parse read]
  rfl

theorem editing_eq_edited (q : Profile) : editing q = edited q.toHex q.payload := by
  rw [editing, editReport_eq_editRows]
  rfl

theorem filterMap_line?_reported (p : Payload) :
    (reported p).filterMap Output.line? = heading ++ rows p := by
  rw [reported, List.filterMap_append, filterMap_line?_map_line, List.filterMap_cons_none rfl,
    filterMap_line?_map_line]

theorem filterMap_line?_edited (hex : String) (q : Payload) :
    (edited hex q).filterMap Output.line? = "" :: editRows hex q := by
  show "" :: ((editRows hex q).map Output.line).filterMap Output.line? = _
  rw [filterMap_line?_map_line]

/-! ## The adjusted profile among the lines -/

theorem toList_editedRow (hex : String) :
    (row "Edited profile" hex).toList = "Edited profile:  ".toList ++ hex.toList := by
  rw [row_eq (show _ = "Edited profile:  ".toList by decide), String.toList_append]

theorem editedRow_inj {first second : String} :
    row "Edited profile" first = row "Edited profile" second ↔ first = second := by
  rw [← String.toList_inj, toList_editedRow, toList_editedRow, List.append_cancel_left_eq,
    String.toList_inj]

/-- No other line begins as that one does. -/
private theorem editedRow_not_mem_of_letters {lines : List String}
    (letters : ∀ line ∈ lines, line.toList.head? ≠ some 'E') (hex : String) :
    row "Edited profile" hex ∉ lines :=
  fun member => letters _ member (by simp [toList_editedRow])

theorem editedRow_not_mem_heading (hex : String) : row "Edited profile" hex ∉ heading :=
  editedRow_not_mem_of_letters (by simp [heading]) hex

theorem editedRow_not_mem (p : Payload) (hex : String) :
    row "Edited profile" hex ∉ heading ++ rows p := by
  have letters : ∀ line ∈ rows p, line.toList.head? ≠ some 'E' := by
    simp [rows, row, abilityRow, List.rightpad]
  intro member
  rcases List.mem_append.mp member with above | below
  · exact editedRow_not_mem_heading hex above
  · exact editedRow_not_mem_of_letters letters hex below

theorem eq_of_mem_editRows {hex shown : String} {q : Payload}
    (member : row "Edited profile" shown ∈ "" :: editRows hex q) : shown = hex := by
  obtain ⟨before, after, parts, letters⟩ : ∃ before after,
      "" :: editRows hex q = before ++ row "Edited profile" hex :: after ∧
        ∀ line ∈ before ++ after, line.toList.head? ≠ some 'E' :=
    ⟨[""], _, rfl, by simp [row, List.rightpad]⟩
  have others := editedRow_not_mem_of_letters letters shown
  rw [List.mem_append, not_or] at others
  rw [parts, List.mem_append, List.mem_cons] at member
  obtain above | same | below := member
  · exact absurd above others.1
  · exact editedRow_inj.mp same
  · exact absurd below others.2

/-! ## Outcomes -/

/-- A run with arguments ends in one of four ways. -/
theorem run_cases (text : String) (rest : List String) :
    (∃ error, parse text = .error error ∧ run (text :: rest) = failed (opening text) error) ∨
    ∃ p, parse text = .ok p ∧
      ((options rest = Options.none ∧ run (text :: rest) = ⟨0, reported p.payload, ""⟩) ∨
      (∃ error, withOptions text (options rest) = .error error ∧
        run (text :: rest) = failed (reported p.payload ++ [readRemark]) error) ∨
      (options rest ≠ Options.none ∧ ∃ q, withOptions text (options rest) = .ok q ∧
        run (text :: rest) =
          ⟨0, reported p.payload ++ readRemark :: edited q.toHex q.payload, ""⟩)) := by
  cases read : parse text with
  | error error => exact .inl ⟨error, rfl, by simp only [run, read]⟩
  | ok p =>
    have report := reporting_eq_reported read
    have again := reopening_eq read
    refine .inr ⟨p, rfl, ?_⟩
    by_cases absent : options rest = Options.none
    · exact .inl ⟨absent, by simp only [run, read, absent, ↓reduceIte, report]⟩
    · cases made : withOptions text (options rest) with
      | error error =>
        exact .inr (.inl ⟨error, rfl, by
          simp only [run, read, absent, made, ↓reduceIte, report, again]⟩)
      | ok q =>
        exact .inr (.inr ⟨absent, q, rfl, by
          simp only [run, read, absent, made, ↓reduceIte, report, again, editing_eq_edited,
            List.append_assoc, List.singleton_append]⟩)

/-- The menu asks for a taste, and the one wanted is firmer than the firmest. -/
def TooFirm (p : Profile) (wanted : Options) : Prop :=
  p.payload.menuId = 1 ∧ ∃ taste, wanted.taste = some taste ∧ 2 < taste

/-- Reading again with options fails for the taste only. -/
theorem exists_error_iff {text : String} {p : Profile} (read : parse text = .ok p)
    (wanted : Options) : (∃ error, withOptions text wanted = .error error) ↔ TooFirm p wanted := by
  obtain ⟨failure, _⟩ := (withOptions_result text wanted).2 p read
  constructor
  · rintro ⟨error, failed⟩
    obtain ⟨taste, asked, menu, firm, _⟩ := (failure error).mp failed
    exact ⟨menu, taste, asked, firm⟩
  · rintro ⟨menu, taste, asked, firm⟩
    exact ⟨_, (failure _).mpr ⟨taste, asked, menu, firm, rfl⟩⟩

/-- Whatever opening a profile fails with is complained about. -/
theorem complaint_of_withOptions {text : String} {wanted : Options} {error : Error}
    (refused : withOptions text wanted = .error error) : Complaint error (complaint error) := by
  cases read : parse text with
  | error cause =>
    cases ((withOptions_result text wanted).1 cause read).symm.trans refused
    exact complaint_of_parse read
  | ok p =>
    obtain ⟨taste, _, _, _, rfl⟩ := (((withOptions_result text wanted).2 p read).1 error).mp refused
    rw [complaint_taste]
    exact .taste taste

/-- Duration, delay and taste are all absent. -/
def NothingWanted (wanted : Options) : Prop :=
  wanted.duration = none ∧ wanted.schedule = none ∧ wanted.taste = none

/-- What a run leaves behind, given a text and what is wanted of the profile in it. -/
structure Answered (text : String) (wanted : Options) (exit : Exit) : Prop where
  /-- The run succeeds exactly with a text that holds a profile and a taste that it may have. -/
  success : exit.code = 0 ↔ ∃ p, parse text = .ok p ∧ ¬TooFirm p wanted
  /-- Then it has nothing to complain about. -/
  silence : exit.code = 0 → exit.complaint = ""
  /-- Otherwise it complains about what opening the profile came to. -/
  failure : exit.code ≠ 0 → exit.code = 1 ∧ ∃ error, withOptions text wanted = .error error ∧
    Complaint error exit.complaint
  /-- Above a text without a profile there is only the heading, and a remark on its size. -/
  unread : ∀ error, parse text = .error error → exit.lines = heading ∧
    ∃ remarks, Remarked text remarks ∧
      exit.output = heading.map .line ++ remarks.map .remark
  /-- A profile that may not have the taste is reported on as it is. -/
  refused : ∀ p error, parse text = .ok p → withOptions text wanted = .error error →
    exit.lines = heading ++ rows p.payload ∧ exit.output = reported p.payload ++ [readRemark]
  /-- So is a profile of which nothing is wanted. -/
  unadjusted : ∀ p, parse text = .ok p → NothingWanted wanted →
    exit.lines = heading ++ rows p.payload ∧ exit.output = reported p.payload
  /-- An adjusted profile is shown exactly when the run succeeds and something is wanted. -/
  shown : (∃ hex, row "Edited profile" hex ∈ exit.lines) ↔ exit.code = 0 ∧ ¬NothingWanted wanted
  /-- What is shown is the profile that opening with the options gives, and its times and taste
  follow at the end. -/
  held : ∀ hex, row "Edited profile" hex ∈ exit.lines → ∃ p q r, parse text = .ok p ∧
    withOptions text wanted = .ok q ∧ parse hex = .ok r ∧ r.payload = q.payload ∧
    exit.lines = heading ++ rows p.payload ++ "" :: editRows hex q.payload ∧
    exit.output = reported p.payload ++ readRemark :: edited hex q.payload

theorem Answered.of_unread {text : String} {error : Error} (refused : parse text = .error error)
    (wanted : Options) : Answered text wanted (failed (opening text) error) := by
  have lines : (failed (opening text) error).lines = heading := by
    rw [Exit.lines, failed, opening, List.filterMap_append, filterMap_line?_map_line,
      filterMap_line?_map_remark, List.append_nil]
    rfl
  have none (hex : String) : row "Edited profile" hex ∉ (failed (opening text) error).lines :=
    lines ▸ editedRow_not_mem_heading hex
  exact {
    success := by
      constructor
      · nofun
      · rintro ⟨p, read, _⟩
        cases refused.symm.trans read
    silence := nofun
    failure := fun _ => ⟨rfl, error, (withOptions_result text wanted).1 error refused,
      complaint_of_parse refused⟩
    unread := fun _ _ => ⟨lines, _, remarked_readingRemarks text, rfl⟩
    refused := fun p other read => by cases refused.symm.trans read
    unadjusted := fun p read => by cases refused.symm.trans read
    shown := by
      constructor
      · rintro ⟨hex, member⟩
        exact absurd member (none hex)
      · nofun
    held := fun hex member => absurd member (none hex) }

section Read
variable {text : String} {p q : Profile} {wanted : Options} (read : parse text = .ok p)
include read

theorem not_tooFirm_iff : ¬TooFirm p wanted ↔ ∃ q, withOptions text wanted = .ok q := by
  rw [← exists_error_iff read wanted]
  cases withOptions text wanted <;> simp

theorem Answered.of_unadjusted : Answered text Options.none ⟨0, reported p.payload, ""⟩ := by
  have lines : (Exit.mk 0 (reported p.payload) "").lines = heading ++ rows p.payload :=
    filterMap_line?_reported p.payload
  have none (hex : String) :
      row "Edited profile" hex ∉ (Exit.mk 0 (reported p.payload) "").lines :=
    lines ▸ editedRow_not_mem p.payload hex
  exact {
    success := by
      refine ⟨fun _ => ⟨p, read, ?_⟩, fun _ => rfl⟩
      rintro ⟨_, taste, asked, _⟩
      cases asked
    silence := fun _ => rfl
    failure := nofun
    unread := fun error refused => by cases read.symm.trans refused
    refused := fun other error again failed => by
      rw [withOptions, again] at failed
      cases failed
    unadjusted := fun other again _ => by
      cases read.symm.trans again
      exact ⟨lines, rfl⟩
    shown := by
      constructor
      · rintro ⟨hex, member⟩
        exact absurd member (none hex)
      · rintro ⟨_, something⟩
        exact absurd ⟨rfl, rfl, rfl⟩ something
    held := fun hex member => absurd member (none hex) }

theorem Answered.of_refused {error : Error} (refused : withOptions text wanted = .error error) :
    Answered text wanted (failed (reported p.payload ++ [readRemark]) error) := by
  have lines : (failed (reported p.payload ++ [readRemark]) error).lines =
      heading ++ rows p.payload := by
    rw [Exit.lines, failed, List.filterMap_append, filterMap_line?_reported,
      List.filterMap_cons_none rfl, List.filterMap_nil, List.append_nil]
  have none (hex : String) :
      row "Edited profile" hex ∉ (failed (reported p.payload ++ [readRemark]) error).lines :=
    lines ▸ editedRow_not_mem p.payload hex
  have firm : TooFirm p wanted := (exists_error_iff read wanted).mp ⟨error, refused⟩
  exact {
    success := by
      constructor
      · nofun
      · rintro ⟨other, again, fine⟩
        cases read.symm.trans again
        exact absurd firm fine
    silence := nofun
    failure := fun _ => ⟨rfl, error, refused, complaint_of_withOptions refused⟩
    unread := fun error unreadable => by cases read.symm.trans unreadable
    refused := fun other same again _ => by
      cases read.symm.trans again
      exact ⟨lines, rfl⟩
    unadjusted := fun _ _ nothing => by
      obtain ⟨_, taste, asked, _⟩ := firm
      cases nothing.2.2.symm.trans asked
    shown := by
      constructor
      · rintro ⟨hex, member⟩
        exact absurd member (none hex)
      · nofun
    held := fun hex member => absurd member (none hex) }

theorem Answered.of_adjusted (made : withOptions text wanted = .ok q)
    (something : ¬NothingWanted wanted) : Answered text wanted
      ⟨0, reported p.payload ++ readRemark :: edited q.toHex q.payload, ""⟩ := by
  have lines : (Exit.mk 0 (reported p.payload ++ readRemark :: edited q.toHex q.payload) "").lines =
      heading ++ rows p.payload ++ "" :: editRows q.toHex q.payload := by
    rw [Exit.lines, List.filterMap_append, filterMap_line?_reported, List.filterMap_cons_none rfl,
      filterMap_line?_edited]
  exact {
    success := ⟨fun _ => ⟨p, read, (not_tooFirm_iff read).mpr ⟨q, made⟩⟩, fun _ => rfl⟩
    silence := fun _ => rfl
    failure := nofun
    unread := fun error refused => by cases read.symm.trans refused
    refused := fun other error again failed => by cases made.symm.trans failed
    unadjusted := fun _ _ nothing => absurd nothing something
    shown := by
      refine ⟨fun _ => ⟨rfl, something⟩, fun _ => ⟨q.toHex, ?_⟩⟩
      rw [lines]
      exact List.mem_append_right _ (List.mem_cons_of_mem _ List.mem_cons_self)
    held := fun hex member => by
      rw [lines] at member
      rcases List.mem_append.mp member with above | below
      · exact absurd above (editedRow_not_mem p.payload hex)
      · cases eq_of_mem_editRows below
        exact ⟨p, q, q.refresh, read, made, parse_toHex q, rfl, lines, rfl⟩ }

end Read

/-! ## Runs -/

theorem answered_run (text : String) (rest : List String) :
    Answered text (options rest) (run (text :: rest)) := by
  obtain ⟨error, refused, ran⟩ | ⟨p, read, ending⟩ := run_cases text rest
  · rw [ran]
    exact .of_unread refused _
  · obtain ⟨absent, ran⟩ | ⟨error, refused, ran⟩ | ⟨something, q, made, ran⟩ := ending
    · rw [ran, absent]
      exact .of_unadjusted read
    · rw [ran]
      exact .of_refused read refused
    · rw [ran]
      exact .of_adjusted read made (mt (options_eq_none_iff rfl).mpr something)

/-- Every run with arguments prints the heading, and none ends as a run without them does. -/
theorem run_cons_ne (text : String) (rest : List String) :
    (run (text :: rest)).code ≠ 2 ∧ (run (text :: rest)).output ≠ [] := by
  obtain ⟨_, _, ran⟩ | ⟨_, _, ending⟩ := run_cases text rest
  · simp [ran, failed, opening, header]
  · obtain ⟨_, ran⟩ | ⟨_, _, ran⟩ | ⟨_, _, _, ran⟩ := ending
    · simp [ran, reported, heading]
    · simp [ran, failed, reported, heading]
    · simp [ran, reported, heading]

end RiceCooker.Inspect
