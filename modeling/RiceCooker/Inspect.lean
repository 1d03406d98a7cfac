import RiceCooker.Profile.Options

/-! A command that shows a profile and, when asked, what it becomes with other
settings. What is printed, and how the command ends, is a function of its
arguments. The command shows the log down to the remarks, in the same place as
its own lines. -/
namespace RiceCooker.Inspect

/-! ## Exit -/

/-- A piece of what is printed. -/
inductive Output where
  /-- A line that the command prints. -/
  | line (text : String)
  /-- A remark that is logged. The logger puts the time and the level in front of it. -/
  | remark (text : String)
deriving DecidableEq

/-- The text of a line, for a line. -/
def Output.line? : Output → Option String
  | line text => some text
  | remark _ => none

/-- What a run of the command leaves behind. -/
structure Exit where
  /-- The exit code. -/
  code : UInt8
  /-- What was printed, in order. -/
  output : List Output
  /-- What was printed as a complaint. -/
  complaint : String
deriving DecidableEq

/-- The lines that the command printed. -/
def Exit.lines (exit : Exit) : List String := exit.output.filterMap Output.line?

theorem filterMap_line?_map_line (texts : List String) :
    (texts.map Output.line).filterMap Output.line? = texts := by
  rw [List.filterMap_map]
  exact List.filterMap_some

theorem filterMap_line?_map_remark (texts : List String) :
    (texts.map Output.remark).filterMap Output.line? = [] := by
  rw [List.filterMap_map]
  exact List.filterMap_eq_nil_iff.mpr fun _ _ => rfl

/-- How to call the command. -/
def usage : String := "Usage: profile_inspect <profile-hex> [duration] [schedule] [taste]\n"

/-! ## Report -/

/-- What stands above every report. -/
def header : List String := ["Cooking Profile", "===============", ""]

/-- A number of minutes in a report. -/
def inMinutes (minutes : UInt16) : String := toString minutes.toNat ++ " min"

/-- The report on a profile. -/
def report (profile : Profile) : List String :=
  let a := profile.attributes
  ["Device type:     " ++ Text.Hex.markedByte profile.payload.deviceType,
    "Sub-type:        " ++ Text.Hex.markedByte profile.payload.subType,
    "Menu:            " ++ toString a.menuId.toNat ++ " (index " ++
      toString profile.payload.menuIndex.toNat ++ ")",
    "Cook time:       " ++ inMinutes a.duration ++ " (" ++ toString a.cookTimeMin.toNat ++ "..=" ++
      toString a.cookTimeMax.toNat ++ ")",
    "Schedule:        " ++ inMinutes a.scheduleDuration ++ " (" ++
      (if a.scheduleEnabled then "enabled" else "disabled") ++ ")",
    "Keep warm:       " ++ Text.truth a.autoKeepWarm,
    "Rice:            " ++ toString a.riceId.toNat,
    "Taste:           " ++ toString a.taste.toNat,
    "",
    "Capabilities:",
    "  duration       " ++ Text.truth a.canSetDuration,
    "  schedule       " ++ Text.truth a.canSchedule,
    "  keep warm      " ++ Text.truth a.canSetAutoKeepWarm,
    "  rice           " ++ Text.truth a.canChooseRice,
    "  taste          " ++ Text.truth a.canConfigureTaste]

/-- The report on a profile that was adjusted. -/
def editReport (profile : Profile) : List String :=
  ["Edited profile:  " ++ profile.toHex,
    "Duration:        " ++ inMinutes profile.payload.duration.total,
    "Schedule:        " ++ inMinutes profile.payload.scheduleDuration,
    "Taste:           " ++ toString profile.payload.taste.toNat]

/-! ## Arguments -/

/-- An argument that is a number of at most sixteen bits. -/
def word? (argument : String) : Option UInt16 :=
  (Text.unsigned? 65535 argument.toList).map UInt16.ofNat

/-- An argument that is a number of at most eight bits. -/
def byte? (argument : String) : Option UInt8 :=
  (Text.unsigned? 255 argument.toList).map UInt8.ofNat

/-- The settings behind the profile: duration, delay and taste. An argument
that is no such number counts as absent. -/
def options (arguments : List String) : Profile.Options where
  duration := arguments[0]?.bind word?
  schedule := arguments[1]?.bind word?
  taste := arguments[2]?.bind byte?

/-! ## Running -/

/-- What is printed up to the report: the header, and what is remarked when the
profile is read. -/
def opening (text : String) : List Output :=
  header.map .line ++ (Profile.readingRemarks text).map .remark

/-- What is printed up to the end of the report. -/
def reporting (text : String) (profile : Profile) : List Output :=
  opening text ++ (report profile).map .line

/-- What is printed when the profile is read once more. -/
def reopening (text : String) : List Output := (Profile.readingRemarks text).map .remark

/-- What is printed about an adjusted profile. It is written in the middle of
its report, so that the remark on it comes first. -/
def editing (profile : Profile) : List Output :=
  .line "" :: .remark (Profile.writingRemark profile.toHex) :: (editReport profile).map .line

/-- The line about an error that ends a run. -/
def complaint (error : Error) : String := "Error: " ++ error.record ++ "\n"

/-- The end of a run that printed this and failed. -/
def failed (output : List Output) (error : Error) : Exit := ⟨1, output, complaint error⟩

/-- Runs the command. -/
def run : List String → Exit
  | [] => ⟨2, [], usage⟩
  | text :: rest =>
    match Profile.parse text with
    | .error error => failed (opening text) error
    | .ok profile =>
      let wanted := options rest
      if wanted = Profile.Options.none then ⟨0, reporting text profile, ""⟩
      else
        match Profile.withOptions text wanted with
        | .error error => failed (reporting text profile ++ reopening text) error
        | .ok edited => ⟨0, reporting text profile ++ reopening text ++ editing edited, ""⟩

end RiceCooker.Inspect
