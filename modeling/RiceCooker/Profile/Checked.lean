import RiceCooker.Profile.Edit

/-! A profile in memory, with every check switched on. Here the payload is a
sequence of bytes, and a field is whatever stands at its place under its mask.
Sizes, places, sums of minutes, limits and finished frames are checked where
they are used, and the first check that fails stops the run. -/
namespace RiceCooker.Profile.Checked
open BigEndian Text

/-! ## Checks -/

/-- What a run stops for. -/
inductive Stop where
  /-- A size would be less than nothing. -/
  | negativeSize
  /-- A place lies behind the end. -/
  | outOfBounds
  /-- A number of minutes does not fit in a word. -/
  | overflow
  /-- The least value allowed is above the greatest. -/
  | crossedLimits
  /-- A frame is about to be sent with a trailer that does not fit it. -/
  | brokenFrame
deriving DecidableEq

/-- A computation that a failed check stops. -/
abbrev Run := Except Stop

/-- A value that may be used only under this condition. -/
def guarded {α : Type} (condition : Prop) [Decidable condition] (stop : Stop) (value : α) : Run α :=
  if condition then .ok value else .error stop

/-- What is left of a size. -/
def difference (size less : Nat) : Run Nat := guarded (less ≤ size) .negativeSize (size - less)

/-- The bytes in front of a place and the bytes from there on. -/
def split (bytes : List UInt8) (place : Nat) : Run (List UInt8 × List UInt8) :=
  guarded (place ≤ bytes.length) .outOfBounds (bytes.splitAt place)

/-- The byte at a place. -/
def load (bytes : List UInt8) (place : Nat) : Run UInt8 :=
  guarded (place < bytes.length) .outOfBounds (bytes.getD place 0)

/-- The bytes with another one at a place. -/
def store (bytes : List UInt8) (place : Nat) (byte : UInt8) : Run (List UInt8) :=
  guarded (place < bytes.length) .outOfBounds (bytes.set place byte)

/-- The product of two words. -/
def product (first second : UInt16) : Run UInt16 :=
  guarded (first.toNat * second.toNat < 65536) .overflow (first * second)

/-- The sum of two words. -/
def sum (first second : UInt16) : Run UInt16 :=
  guarded (first.toNat + second.toNat < 65536) .overflow (first + second)

/-- A word moved between two limits. -/
def clamp (word least greatest : UInt16) : Run UInt16 :=
  guarded (least ≤ greatest) .crossedLimits
    (if word < least then least else if greatest < word then greatest else word)

/-! ## Bytes under a mask -/

/-- The mask of the top bit. -/
def topMask : UInt8 := 0x80

/-- The mask of the bits below the top bit. -/
def lowMask : UInt8 := 0x7f

/-- Whether a byte has a bit of the mask. -/
def hasBit (mask byte : UInt8) : Bool := byte &&& mask != 0

/-- The bytes with the top bit at a place switched. -/
def storeSwitch (bytes : List UInt8) (place : Nat) (on : Bool) : Run (List UInt8) := do
  let byte ← load bytes place
  store bytes place (if on then byte ||| topMask else byte &&& lowMask)

/-! ## Minutes -/

/-- Hours and minutes in minutes. -/
def inMinutes (hours minutes : UInt8) : Run UInt16 := do
  sum (← product hours.toUInt16 60) minutes.toUInt16

/-- The time in the two bytes from a place on. -/
def minutesAt (bytes : List UInt8) (place : Nat) : Run UInt16 := do
  let hours ← load bytes place
  let minutes ← load bytes (place + 1)
  inMinutes hours minutes

/-- The bytes with a time in the two from a place on. -/
def storeMinutes (bytes : List UInt8) (place : Nat) (minutes : UInt16) : Run (List UInt8) := do
  let bytes ← store bytes place (UInt8.ofNat (minutes.toNat / 60))
  store bytes (place + 1) (UInt8.ofNat (minutes.toNat % 60))

/-- The delay, whose two bytes have a switch in the top bit. -/
def scheduleDuration (bytes : List UInt8) : Run UInt16 := do
  let hours ← load bytes 14
  let minutes ← load bytes 15
  inMinutes (hours &&& lowMask) (minutes &&& lowMask)

/-! ## Abilities -/

/-- The menu in the four bytes that hold it. -/
def menuId (bytes : List UInt8) : Run UInt32 := do
  let up := join (← load bytes 3) (← load bytes 4)
  let lo := join (← load bytes 5) (← load bytes 6)
  pure (joinHalves up lo)

/-- Whether the profile can start after a delay. -/
def canSchedule (bytes : List UInt8) : Run Bool := do pure (hasBit 0x40 (← load bytes 7))

/-- Whether keeping warm can be switched. -/
def canSetAutoKeepWarm (bytes : List UInt8) : Run Bool := do pure (hasBit 0x20 (← load bytes 7))

/-- Whether there is more than one duration to choose from. -/
def canSetDuration (bytes : List UInt8) : Run Bool := do
  let greatest ← minutesAt bytes 10
  let least ← minutesAt bytes 12
  pure (decide (least < greatest))

/-- Whether a type of rice can be chosen. -/
def canChooseRice (bytes : List UInt8) : Run Bool := do
  pure (Payload.riceMenus.contains (← menuId bytes))

/-- Whether the taste can be chosen. -/
def canConfigureTaste (bytes : List UInt8) : Run Bool := do
  pure ((← menuId bytes) == Payload.tasteMenu)

/-- What a user sees. -/
def attributes (bytes : List UInt8) : Run Attributes := do
  pure {
    menuId := ← menuId bytes
    canSchedule := ← canSchedule bytes
    canSetAutoKeepWarm := ← canSetAutoKeepWarm bytes
    canSetDuration := ← canSetDuration bytes
    canChooseRice := ← canChooseRice bytes
    canConfigureTaste := ← canConfigureTaste bytes
    cookTimeMin := ← minutesAt bytes 12
    cookTimeMax := ← minutesAt bytes 10
    duration := ← minutesAt bytes 8
    scheduleEnabled := hasBit topMask (← load bytes 14)
    scheduleDuration := ← scheduleDuration bytes
    autoKeepWarm := hasBit topMask (← load bytes 15)
    riceId := join (← load bytes 17) (← load bytes 18)
    taste := ← load bytes 19 }

/-! ## Settings -/

/-- What becomes of a setting that needs an ability. -/
def gated (able : Run Bool) (bytes : List UInt8) (written : Run (List UInt8)) :
    Run (Outcome × List UInt8) := do
  if ← able then pure (.applied, ← written) else pure (.unsupported, bytes)

/-- Sets the duration. The limits are those of the bytes that it is written to. -/
def setDuration (bytes : List UInt8) (minutes : UInt16) : Run (Outcome × List UInt8) :=
  gated (canSetDuration bytes) bytes do
    let least ← minutesAt bytes 12
    let greatest ← minutesAt bytes 10
    storeMinutes bytes 8 (← clamp minutes least greatest)

/-- Sets the delay, next to the switch for keeping warm, and switches it on. -/
def setScheduleDuration (bytes : List UInt8) (minutes : UInt16) : Run (Outcome × List UInt8) :=
  gated (canSchedule bytes) bytes do
    let hours := UInt8.ofNat (minutes.toNat / 60)
    let rest := UInt8.ofNat (minutes.toNat % 60)
    let bytes ← store bytes 14 ((← load bytes 14) &&& topMask ||| hours &&& lowMask)
    let bytes ← store bytes 15 ((← load bytes 15) &&& topMask ||| rest)
    storeSwitch bytes 14 true

/-- Switches keeping warm. -/
def setAutoKeepWarm (bytes : List UInt8) (enabled : Bool) : Run (Outcome × List UInt8) :=
  gated (canSetAutoKeepWarm bytes) bytes (storeSwitch bytes 15 enabled)

/-- Sets the type of rice. -/
def setRiceId (bytes : List UInt8) (riceId : UInt32) : Run (Outcome × List UInt8) :=
  gated (canChooseRice bytes) bytes do
    let stored := if riceId.toNat < 65536 then riceId.toUInt16 else 0
    let bytes ← store bytes 17 (high stored)
    store bytes 18 (low stored)

/-- Sets the taste. -/
def setTaste (bytes : List UInt8) (taste : UInt8) :
    Run (Except Error (Outcome × List UInt8)) := do
  if ← canConfigureTaste bytes then
    if Payload.maxTaste < taste then
      pure (.error (.invalidParameter "taste" (toString taste.toNat)))
    else pure (.ok (.applied, ← store bytes 19 taste))
  else pure (.ok (.unsupported, bytes))

/-- Writes a field. -/
def set (bytes : List UInt8) : Setting → Run (Except Error (Outcome × List UInt8))
  | .menuIndex index => do pure (.ok (.applied, ← store bytes 2 index))
  | .duration minutes => do pure (.ok (← setDuration bytes minutes))
  | .scheduleEnabled enabled => do pure (.ok (.applied, ← storeSwitch bytes 14 enabled))
  | .scheduleDuration minutes => do pure (.ok (← setScheduleDuration bytes minutes))
  | .autoKeepWarm enabled => do pure (.ok (← setAutoKeepWarm bytes enabled))
  | .riceId riceId => do pure (.ok (← setRiceId bytes riceId))
  | .taste taste => setTaste bytes taste

/-! ## Reading and writing -/

/-- A profile in memory. -/
structure Image where
  /-- The payload. -/
  bytes : List UInt8
  /-- The checksum as it was last read or refreshed. -/
  checksum : UInt16
deriving DecidableEq

/-- The profile in memory that a text holds. -/
def parse (text : String) : Run (Except Error Image) :=
  match Hex.decode (trim text.toList) with
  | .error fault => pure (.error (.invalidProfile (.notHex fault)))
  | .ok frame =>
    if frame.length < minFrameSize then
      pure (.error (.invalidProfile (.tooShort frame.length)))
    else do
      let (payload, trailer) ← split frame (← difference frame.length trailerSize)
      let stored := join (← load trailer 0) (← load trailer 1)
      if Checksum.verify frame then
        if payload.length = payloadSize then pure (.ok ⟨payload, stored⟩)
        else pure (.error (.invalidProfile (.wrongPayloadSize payload.length)))
      else pure (.error (.checksumMismatch (Checksum.crc payload) stored))

/-- Adjusts one field, if that is wanted. -/
def adjusted {α : Type} (bytes : List UInt8) (wanted : Option α)
    (set : α → Run (Outcome × List UInt8)) : Run (List UInt8) :=
  match wanted with
  | some value => do pure (← set value).2
  | none => pure bytes

/-- Reads a profile and adjusts it. -/
def withOptions (text : String) (options : Options) : Run (Except Error Image) := do
  match ← parse text with
  | .error error => pure (.error error)
  | .ok image =>
    let bytes ← adjusted image.bytes options.duration (setDuration image.bytes)
    let bytes ← adjusted bytes options.schedule fun minutes => do
      if (← minutesAt bytes 8) < minutes ∧ minutes ≤ maxScheduleMinutes then
        setScheduleDuration bytes minutes
      else pure (.unsupported, bytes)
    let bytes ← adjusted bytes options.autoKeepWarm fun enabled => do
      if enabled then setAutoKeepWarm bytes true else pure (.unsupported, bytes)
    match options.taste with
    | none => pure (.ok { image with bytes })
    | some taste =>
      match ← setTaste bytes taste with
      | .error error => pure (.error error)
      | .ok (_, bytes) => pure (.ok { image with bytes })

/-- The frame of a profile with a new checksum, and the profile with that
checksum. The finished frame is looked at once more. -/
def toBytes (image : Image) : Run (List UInt8 × Image) := do
  let image := { image with checksum := Checksum.crc image.bytes }
  let frame := image.bytes ++ bytes image.checksum
  guarded (Checksum.verify frame = true) .brokenFrame (frame, image)

/-- The same as text. -/
def toHex (image : Image) : Run (String × Image) := do
  let (frame, image) ← toBytes image
  pure (String.ofList (Hex.encode frame), image)

/-! ## Sessions -/

/-- Takes one step. -/
def step (image : Image) : Step → Run (Answer × Image)
  | .set (.menuIndex index) => do
    pure (.done, { image with bytes := ← store image.bytes 2 index })
  | .set setting => do
    match ← set image.bytes setting with
    | .ok (outcome, bytes) => pure (.outcome outcome, { image with bytes })
    | .error error => pure (.refused error, image)
  | .refresh => pure (.done, { image with checksum := Checksum.crc image.bytes })
  | .toBytes => do
    let (frame, image) ← toBytes image
    pure (.bytes frame, image)
  | .toHex => do
    let (text, image) ← toHex image
    pure (.text text, image)
  | .compare text => do
    match ← parse text with
    | .ok other => pure (.equal (decide (other = image)), image)
    | .error error => pure (.refused error, image)
  | .reread => do
    let (text, _) ← toHex image
    match ← parse text with
    | .ok other => pure (.reread text (decide (other = image)), other)
    | .error error => pure (.refused error, image)

/-- Every answer with the profile right after it and what a user sees of it. -/
def trace (image : Image) : List Step → Run (List (Answer × Image × Attributes))
  | [] => pure []
  | first :: rest => do
    let (answer, next) ← step image first
    let seen ← attributes next.bytes
    let later ← trace next rest
    pure ((answer, next, seen) :: later)

/-- Reads a profile, with adjustments or without. -/
def openWith (text : String) : Option Options → Run (Except Error Image)
  | some options => withOptions text options
  | none => parse text

/-- A whole session: the profile that is opened, what a user sees of it, and
what happens then. -/
def session (text : String) (options : Option Options) (steps : List Step) :
    Run (Except Error (Image × Attributes × List (Answer × Image × Attributes))) := do
  match ← openWith text options with
  | .error error => pure (.error error)
  | .ok image => pure (.ok (image, ← attributes image.bytes, ← trace image steps))

end RiceCooker.Profile.Checked
