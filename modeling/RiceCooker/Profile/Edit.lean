import RiceCooker.Profile.Options

/-! A session with one profile: a sequence of steps, each of which changes the
profile, writes it, or looks at it, and gives an answer. -/
namespace RiceCooker.Profile

/-! ## Steps -/

/-- A field and the value to write. -/
inductive Setting where
  /-- The place in the menu list. -/
  | menuIndex (index : UInt8)
  /-- The duration in minutes. -/
  | duration (minutes : UInt16)
  /-- The switch of the delay. -/
  | scheduleEnabled (enabled : Bool)
  /-- The delay in minutes, which also switches it on. -/
  | scheduleDuration (minutes : UInt16)
  /-- The switch for keeping warm. -/
  | autoKeepWarm (enabled : Bool)
  /-- The type of rice. -/
  | riceId (riceId : UInt32)
  /-- The taste. -/
  | taste (taste : UInt8)
deriving DecidableEq

/-- One step of a session. -/
inductive Step where
  /-- Write a field. -/
  | set (setting : Setting)
  /-- Bring the stored checksum up to date. -/
  | refresh
  /-- Write the profile as bytes, which brings the checksum up to date. -/
  | toBytes
  /-- Write the profile as text, which brings the checksum up to date. -/
  | toHex
  /-- Compare with the profile that a text holds. -/
  | compare (text : String)
  /-- Write the profile as text and go on with what that text holds. -/
  | reread
deriving DecidableEq

/-- What a step says. -/
inductive Answer where
  /-- The step is done. -/
  | done
  /-- What became of a setting. -/
  | outcome (outcome : Outcome)
  /-- The step failed and changed nothing. -/
  | refused (error : Error)
  /-- The bytes that were written. -/
  | bytes (bytes : List UInt8)
  /-- The text that was written. -/
  | text (text : String)
  /-- Whether two profiles are equal. -/
  | equal (equal : Bool)
  /-- The text that was written, and whether what it holds equals the profile
  as it was before, checksum included. -/
  | reread (text : String) (same : Bool)
deriving DecidableEq

/-! ## Running -/

/-- Writes a field. -/
def set (p : Profile) : Setting → Except Error (Outcome × Profile)
  | .menuIndex index => .ok (.applied, p.setMenuIndex index)
  | .duration minutes => .ok (p.setDuration minutes)
  | .scheduleEnabled enabled => .ok (p.setScheduleEnabled enabled)
  | .scheduleDuration minutes => .ok (p.setScheduleDuration minutes)
  | .autoKeepWarm enabled => .ok (p.setAutoKeepWarm enabled)
  | .riceId riceId => .ok (p.setRiceId riceId)
  | .taste taste => p.setTaste taste

/-- Takes one step. The place in the menu list is always written, so there is
no more to say about it. -/
def step (p : Profile) : Step → Answer × Profile
  | .set (.menuIndex index) => (.done, p.setMenuIndex index)
  | .set setting =>
    match p.set setting with
    | .ok (outcome, q) => (.outcome outcome, q)
    | .error error => (.refused error, p)
  | .refresh => (.done, p.refresh)
  | .toBytes => (.bytes p.toBytes, p.refresh)
  | .toHex => (.text p.toHex, p.refresh)
  | .compare text =>
    match parse text with
    | .ok q => (.equal (decide (q = p)), p)
    | .error error => (.refused error, p)
  | .reread =>
    match parse p.toHex with
    | .ok q => (.reread p.toHex (decide (q = p)), q)
    | .error error => (.refused error, p)

/-- The profile after a sequence of steps. -/
def run (p : Profile) (steps : List Step) : Profile :=
  steps.foldl (fun q s => (q.step s).2) p

/-- Every answer with the profile right after it. -/
def trace (p : Profile) : List Step → List (Answer × Profile)
  | [] => []
  | s :: rest => p.step s :: trace (p.step s).2 rest

@[simp] theorem run_nil (p : Profile) : p.run [] = p := rfl

@[simp] theorem run_cons (p : Profile) (s : Step) (rest : List Step) :
    p.run (s :: rest) = (p.step s).2.run rest := rfl

theorem run_append (p : Profile) (first second : List Step) :
    p.run (first ++ second) = (p.run first).run second := by
  simp [run]

end RiceCooker.Profile
