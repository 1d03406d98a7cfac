import RiceCooker.Profile.Checked
import RiceCooker.Proofs.Profile.Session

/-! No check ever stops a run. Every place is inside the bytes that it is looked
up in, because a frame is measured before it is cut and a payload keeps its
size; the minutes of any two bytes fit in a word; limits are in order where a
duration is moved between them; and a new trailer always fits the bytes in
front of it. What remains of a run without stops is the profile itself, field
by field. -/
namespace RiceCooker.Profile
open BigEndian Text

/-- A profile as it is in memory. -/
def image (p : Profile) : Checked.Image := ⟨p.payload.bytes, p.checksum⟩

theorem image_inj {p q : Profile} : p.image = q.image ↔ p = q := by
  refine ⟨fun same => ?_, fun same => same ▸ rfl⟩
  obtain ⟨samePayload, sameChecksum⟩ := Checked.Image.mk.inj same
  rw [Profile.mk.injEq]
  exact ⟨Payload.bytes_inj.mp samePayload, sameChecksum⟩

namespace Checked

/-! ## Checks -/

theorem guarded_eq_error_iff {α : Type} {condition : Prop} [Decidable condition] {stop : Stop}
    {value : α} : guarded condition stop value = .error stop ↔ ¬condition := by
  rw [guarded]
  split <;> simp [*]

/-- Each check stops a run exactly when what it looks at is wrong. -/
structure Strict : Prop where
  difference (size less : Nat) : difference size less = .error .negativeSize ↔ size < less
  split (data : List UInt8) (place : Nat) :
    split data place = .error .outOfBounds ↔ data.length < place
  load (data : List UInt8) (place : Nat) :
    load data place = .error .outOfBounds ↔ data.length ≤ place
  store (data : List UInt8) (place : Nat) (byte : UInt8) :
    store data place byte = .error .outOfBounds ↔ data.length ≤ place
  product (first second : UInt16) :
    product first second = .error .overflow ↔ 65536 ≤ first.toNat * second.toNat
  sum (first second : UInt16) :
    sum first second = .error .overflow ↔ 65536 ≤ first.toNat + second.toNat
  clamp (word least greatest : UInt16) :
    clamp word least greatest = .error .crossedLimits ↔ greatest < least
  frame (image : Image) : toBytes image = .error .brokenFrame ↔
    Checksum.verify (image.bytes ++ bytes (Checksum.crc image.bytes)) = false

theorem strict : Strict where
  difference _ _ := guarded_eq_error_iff.trans Nat.not_le
  split _ _ := guarded_eq_error_iff.trans Nat.not_le
  load _ _ := guarded_eq_error_iff.trans Nat.not_lt
  store _ _ _ := guarded_eq_error_iff.trans Nat.not_lt
  product _ _ := guarded_eq_error_iff.trans Nat.not_lt
  sum _ _ := guarded_eq_error_iff.trans Nat.not_lt
  clamp _ _ _ := guarded_eq_error_iff.trans UInt16.not_le
  frame _ := guarded_eq_error_iff.trans (iff_of_eq (Bool.not_eq_true _))

theorem guarded_of {α : Type} {condition : Prop} [Decidable condition] (holds : condition)
    (stop : Stop) (value : α) : guarded condition stop value = .ok value :=
  if_pos holds

@[simp] theorem ok_bind {α β : Type} (value : α) (next : α → Run β) :
    ((.ok value : Run α) >>= next) = next value := rfl

@[simp] theorem pure_eq_ok {α : Type} (value : α) : (pure value : Run α) = .ok value := rfl

theorem load_of_inside {data : List UInt8} {place : Nat} (inside : place < data.length) :
    load data place = .ok (data.getD place 0) :=
  guarded_of inside _ _

theorem store_of_inside {data : List UInt8} {place : Nat} (inside : place < data.length)
    (byte : UInt8) : store data place byte = .ok (data.set place byte) :=
  guarded_of inside _ _

/-- A payload has twenty bytes. -/
theorem load_bytes (p : Payload) {place : Nat} (inside : place < 20) :
    load p.bytes place = .ok (p.bytes.getD place 0) :=
  load_of_inside inside

theorem store_bytes (p : Payload) {place : Nat} (inside : place < 20) (byte : UInt8) :
    store p.bytes place byte = .ok (p.bytes.set place byte) :=
  store_of_inside inside byte

theorem split_append (front back : List UInt8) :
    split (front ++ back) front.length = .ok (front, back) := by
  rw [split, guarded_of (by simp), List.splitAt_eq, List.take_left, List.drop_left]

/-! ## Bytes under a mask -/

section Mask
variable (on other : Bool) (number rest : BitVec 7)

theorem switched_and_switched :
    switched on number &&& switched other rest = switched (on && other) (number &&& rest) := by
  apply UInt8.toBitVec_inj.mp
  rw [UInt8.toBitVec_and]
  exact BitVec.cons_and_cons number rest on other

theorem switched_or_switched :
    switched on number ||| switched other rest = switched (on || other) (number ||| rest) := by
  apply UInt8.toBitVec_inj.mp
  rw [UInt8.toBitVec_or]
  exact BitVec.cons_or_cons number rest on other

theorem topMask_eq : topMask = switched true 0 := by decide

theorem lowMask_eq : lowMask = switched false (BitVec.allOnes 7) := by decide

@[simp] theorem switched_and_topMask : switched on number &&& topMask = switched on 0 := by
  rw [topMask_eq, switched_and_switched, Bool.and_true]
  congr 1
  exact BitVec.and_zero

@[simp] theorem switched_or_topMask : switched on number ||| topMask = switched true number := by
  rw [topMask_eq, switched_or_switched, Bool.or_true]
  congr 1
  exact BitVec.or_zero

/-- A number is put below a switch. -/
theorem switched_and_topMask_or :
    switched on number &&& topMask ||| switched false rest = switched on rest := by
  rw [switched_and_topMask, switched_or_switched, Bool.or_false]
  congr 1
  exact BitVec.zero_or

@[simp] theorem switched_and_lowMask : switched on number &&& lowMask = switched false number := by
  rw [lowMask_eq, switched_and_switched, Bool.and_false, BitVec.and_allOnes]

@[simp] theorem hasBit_topMask : hasBit topMask (switched on number) = on := by
  rw [hasBit, switched_and_topMask]
  cases on <;> decide

theorem toNat_switched_false : (switched false number).toNat = number.toNat := by
  simp [switched, UInt8.toNat, BitVec.toNat_cons]

theorem ofNat_and_lowMask (count : Nat) :
    UInt8.ofNat count &&& lowMask = switched false (BitVec.ofNat 7 count) := by
  have number : numberOf (UInt8.ofNat count) = BitVec.ofNat 7 count := by
    simp [numberOf, UInt8.ofNat]
  rw [← switched_switchOf_numberOf (UInt8.ofNat count), switched_and_lowMask, number]

theorem ofNat_eq_switched {count : Nat} (small : count < 128) :
    UInt8.ofNat count = switched false (BitVec.ofNat 7 count) := by
  apply UInt8.toNat_inj.mp
  rw [toNat_switched_false, UInt8.toNat_ofNat', BitVec.toNat_ofNat]
  omega

end Mask

/-! ## Minutes -/

/-- The minutes of any two bytes fit in a word. -/
theorem inMinutes_eq (hours minutes : UInt8) :
    inMinutes hours minutes = .ok (HourMinute.total ⟨hours, minutes⟩) := by
  have hoursBound := hours.toNat_lt
  have minutesBound := minutes.toNat_lt
  have timesSixty : (hours.toUInt16 * 60).toNat = hours.toNat * 60 := by
    simp
    omega
  have fits : (hours.toUInt16 * 60).toNat + minutes.toUInt16.toNat < 65536 := by
    rw [timesSixty, UInt8.toNat_toUInt16]
    omega
  rw [inMinutes, product, guarded_of (by simp; omega), ok_bind, sum, guarded_of fits]
  congr 1
  apply UInt16.toNat_inj.mp
  rw [HourMinute.toNat_total, UInt16.toNat_add, Nat.mod_eq_of_lt fits, timesSixty,
    UInt8.toNat_toUInt16]

theorem minutesAt_bytes (p : Payload) {place : Nat} (inside : place + 1 < 20) :
    minutesAt p.bytes place =
      .ok (HourMinute.total ⟨p.bytes.getD place 0, p.bytes.getD (place + 1) 0⟩) := by
  rw [minutesAt, load_bytes p (by omega), ok_bind, load_bytes p inside, ok_bind, inMinutes_eq]

/-- Only the places are checked: the hours narrow to a byte as they are. -/
theorem storeMinutes_bytes (p : Payload) {place : Nat} (inside : place + 1 < 20)
    (minutes : UInt16) :
    storeMinutes p.bytes place minutes =
      .ok ((p.bytes.set place (HourMinute.ofMinutes minutes).hours).set (place + 1)
        (HourMinute.ofMinutes minutes).minutes) := by
  rw [storeMinutes, store_bytes p (by omega), ok_bind,
    store_of_inside (by rw [List.length_set]; exact inside)]
  rfl

/-! ## What is read -/

section Reading
variable (p : Payload)

theorem duration_bytes : minutesAt p.bytes 8 = .ok p.duration.total :=
  minutesAt_bytes p (by decide)

theorem cookTimeMax_bytes : minutesAt p.bytes 10 = .ok p.cookTimeMax.total :=
  minutesAt_bytes p (by decide)

theorem cookTimeMin_bytes : minutesAt p.bytes 12 = .ok p.cookTimeMin.total :=
  minutesAt_bytes p (by decide)

theorem load_scheduleHours :
    load p.bytes 14 = .ok (switched p.scheduleEnabled p.scheduleHours) :=
  load_bytes p (by decide)

theorem load_scheduleMinutes :
    load p.bytes 15 = .ok (switched p.autoKeepWarm p.scheduleMinutes) :=
  load_bytes p (by decide)

theorem scheduleDuration_bytes : scheduleDuration p.bytes = .ok p.scheduleDuration := by
  rw [scheduleDuration, load_scheduleHours, ok_bind, load_scheduleMinutes, ok_bind,
    switched_and_lowMask, switched_and_lowMask, inMinutes_eq]
  congr 1
  apply UInt16.toNat_inj.mp
  rw [HourMinute.toNat_total, toNat_switched_false, toNat_switched_false,
    Payload.toNat_scheduleDuration]

theorem menuId_bytes : menuId p.bytes = .ok p.menuId := by
  have joined : menuId p.bytes = .ok (joinHalves
      (join (high (upper p.menuId)) (low (upper p.menuId)))
      (join (high (lower p.menuId)) (low (lower p.menuId)))) := rfl
  rw [joined, join_high_low, join_high_low, joinHalves_upper_lower]

theorem canSchedule_bytes : canSchedule p.bytes = .ok p.canSchedule := rfl

theorem canSetAutoKeepWarm_bytes : canSetAutoKeepWarm p.bytes = .ok p.canSetAutoKeepWarm := rfl

theorem canSetDuration_bytes : canSetDuration p.bytes = .ok p.canSetDuration := by
  rw [canSetDuration, cookTimeMax_bytes, ok_bind, cookTimeMin_bytes]
  rfl

theorem canChooseRice_bytes : canChooseRice p.bytes = .ok p.canChooseRice := by
  rw [canChooseRice, menuId_bytes]
  rfl

theorem canConfigureTaste_bytes : canConfigureTaste p.bytes = .ok p.canConfigureTaste := by
  rw [canConfigureTaste, menuId_bytes]
  rfl

/-- Everything that a user sees is read without a stop, whatever the bytes. -/
theorem attributes_bytes : attributes p.bytes = .ok p.attributes := by
  have rest : load p.bytes 17 = .ok (high p.riceId) ∧ load p.bytes 18 = .ok (low p.riceId) ∧
      load p.bytes 19 = .ok p.taste :=
    ⟨load_bytes p (by decide), load_bytes p (by decide), load_bytes p (by decide)⟩
  simp only [attributes, menuId_bytes, canSchedule_bytes, canSetAutoKeepWarm_bytes,
    canSetDuration_bytes, canChooseRice_bytes, canConfigureTaste_bytes, duration_bytes,
    cookTimeMax_bytes, cookTimeMin_bytes, scheduleDuration_bytes, load_scheduleHours,
    load_scheduleMinutes, rest, ok_bind, pure_eq_ok, hasBit_topMask, join_high_low]
  rfl

end Reading

/-! ## What is written -/

/-- What a setter leaves of a payload. -/
def left (p : Payload) : Option Payload → Outcome × List UInt8
  | some written => (.applied, written.bytes)
  | none => (.unsupported, p.bytes)

section Writing
variable (p : Payload)

theorem gated_bytes {able : Bool} {write : Run (List UInt8)} {written : Payload}
    (writes : able = true → write = .ok written.bytes) :
    gated (.ok able) p.bytes write = .ok (left p (if able then some written else none)) := by
  cases able with
  | false => rfl
  | true =>
    rw [gated, writes rfl]
    rfl

/-- Where a duration can be set at all, the limits that it is moved between are
in order. -/
theorem clamp_of_canSetDuration (able : p.canSetDuration = true) (minutes : UInt16) :
    clamp minutes p.cookTimeMin.total p.cookTimeMax.total = .ok (p.clampDuration minutes) :=
  guarded_of (UInt16.le_of_lt (of_decide_eq_true able)) _ _

theorem setDuration_bytes (minutes : UInt16) :
    setDuration p.bytes minutes = .ok (left p (p.setDuration? minutes)) := by
  rw [setDuration, canSetDuration_bytes]
  apply gated_bytes
  intro able
  rw [cookTimeMin_bytes, ok_bind, cookTimeMax_bytes, ok_bind, clamp_of_canSetDuration p able,
    ok_bind, storeMinutes_bytes p (by decide)]
  rfl

theorem storeSwitch_bytes {place : Nat} {on : Bool} {number : BitVec 7} (inside : place < 20)
    (held : p.bytes.getD place 0 = switched on number) (wanted : Bool) :
    storeSwitch p.bytes place wanted = .ok (p.bytes.set place (switched wanted number)) := by
  rw [storeSwitch, load_bytes p inside, ok_bind, held, store_bytes p inside]
  cases wanted with
  | false => rw [if_neg (by decide), switched_and_lowMask]
  | true => rw [if_pos rfl, switched_or_topMask]

theorem setScheduleEnabled_bytes (enabled : Bool) :
    storeSwitch p.bytes 14 enabled = .ok (p.withScheduleEnabled enabled).bytes :=
  storeSwitch_bytes p (by decide) rfl enabled

theorem setScheduleDuration_bytes (minutes : UInt16) :
    setScheduleDuration p.bytes minutes = .ok (left p (p.setScheduleDuration? minutes)) := by
  rw [setScheduleDuration, canSchedule_bytes]
  apply gated_bytes
  intro _
  let early : Payload := { p with scheduleHours := BitVec.ofNat 7 (minutes.toNat / 60) }
  let late : Payload := { early with scheduleMinutes := BitVec.ofNat 7 (minutes.toNat % 60) }
  have restHeld : load early.bytes 15 = .ok (switched p.autoKeepWarm p.scheduleMinutes) :=
    load_scheduleMinutes early
  -- The hours are masked; the minutes fit below the switch as they are.
  have hoursStored : store p.bytes 14 (switched p.scheduleEnabled p.scheduleHours &&& topMask |||
      UInt8.ofNat (minutes.toNat / 60) &&& lowMask) = .ok early.bytes := by
    rw [ofNat_and_lowMask, switched_and_topMask_or]
    exact store_bytes p (by decide) _
  have restStored : store early.bytes 15 (switched p.autoKeepWarm p.scheduleMinutes &&& topMask |||
      UInt8.ofNat (minutes.toNat % 60)) = .ok late.bytes := by
    rw [ofNat_eq_switched (by omega), switched_and_topMask_or]
    exact store_bytes early (by decide) _
  simp only [load_scheduleHours, hoursStored, restHeld, restStored, ok_bind]
  exact setScheduleEnabled_bytes late true

theorem setAutoKeepWarm_bytes (enabled : Bool) :
    setAutoKeepWarm p.bytes enabled = .ok (left p (p.setAutoKeepWarm? enabled)) := by
  rw [setAutoKeepWarm, canSetAutoKeepWarm_bytes]
  apply gated_bytes
  intro _
  exact storeSwitch_bytes p (by decide) rfl enabled

theorem setRiceId_bytes (riceId : UInt32) :
    setRiceId p.bytes riceId = .ok (left p (p.setRiceId? riceId)) := by
  rw [setRiceId, canChooseRice_bytes]
  apply gated_bytes
  intro _
  rfl

theorem setTaste_bytes (taste : UInt8) :
    setTaste p.bytes taste = .ok ((p.setTaste? taste).map (left p)) := by
  rw [setTaste, canConfigureTaste_bytes, Payload.setTaste?, ok_bind]
  cases p.canConfigureTaste with
  | false => rfl
  | true =>
    by_cases firm : Payload.maxTaste < taste
    · simp only [firm, ↓reduceIte]
      rfl
    · simp only [firm, ↓reduceIte]
      rfl

end Writing

/-! ## Profiles -/

/-- What a setter leaves of a profile, in memory. -/
def stored (result : Outcome × Profile) : Outcome × List UInt8 :=
  (result.1, result.2.payload.bytes)

theorem left_eq_stored (p : Profile) (payload? : Option Payload) :
    left p.payload payload? = stored (p.accept payload?) := by
  cases payload? <;> rfl

theorem set_bytes (p : Profile) (setting : Setting) :
    set p.payload.bytes setting = .ok ((p.set setting).map stored) := by
  cases setting with
  | menuIndex index => rfl
  | duration minutes =>
    rw [set, setDuration_bytes, left_eq_stored]
    rfl
  | scheduleEnabled enabled =>
    rw [set, setScheduleEnabled_bytes]
    rfl
  | scheduleDuration minutes =>
    rw [set, setScheduleDuration_bytes, left_eq_stored]
    rfl
  | autoKeepWarm enabled =>
    rw [set, setAutoKeepWarm_bytes, left_eq_stored]
    rfl
  | riceId riceId =>
    rw [set, setRiceId_bytes, left_eq_stored]
    rfl
  | taste taste =>
    rw [set, setTaste_bytes, Profile.set, Profile.setTaste]
    cases p.payload.setTaste? taste with
    | error error => rfl
    | ok payload? =>
      simp only [Except.map, left_eq_stored]

/-- A frame that is long enough is cut in front of its trailer, and the trailer
has its two bytes. -/
theorem parse_image (text : String) : parse text = .ok ((Profile.parse text).map image) := by
  rw [parse, Profile.parse]
  cases Hex.decode (trim text.toList) with
  | error fault => rfl
  | ok frame =>
    simp only [ofFrame]
    by_cases short : frame.length < minFrameSize
    · simp only [short, ↓reduceIte]
      rfl
    · cases cut : Checksum.splitTrailer? frame with
      | none =>
        have tooShort := (Checksum.splitTrailer?_eq_none_iff frame).mp cut
        simp only [minFrameSize] at short
        omega
      | some parts =>
        obtain ⟨message, trailer⟩ := parts
        obtain rfl := Checksum.eq_append_of_splitTrailer? cut
        have front : difference (message ++ bytes trailer).length trailerSize =
            .ok message.length := by
          rw [List.length_append, length_bytes]
          exact guarded_of (Nat.le_add_left 2 message.length) _ _
        have first : load (bytes trailer) 0 = .ok (high trailer) := rfl
        have second : load (bytes trailer) 1 = .ok (low trailer) := rfl
        simp only [short, ↓reduceIte, front, ok_bind, split_append, first, second, join_high_low]
        cases Checksum.verify (message ++ bytes trailer) with
        | false => rfl
        | true =>
          cases read : Payload.ofBytes? message with
          | none =>
            have size := (Payload.ofBytes?_eq_none_iff message).mp read
            simp only [size, ↓reduceIte]
            rfl
          | some payload =>
            obtain rfl := Payload.bytes_of_ofBytes? read
            rfl

section Adjusting
variable (p : Payload)

theorem adjusted_bytes {α : Type} {set : α → Run (Outcome × List UInt8)}
    {choose : α → Option Payload} (sets : ∀ value, set value = .ok (left p (choose value)))
    (wanted : Option α) :
    adjusted p.bytes wanted set = .ok ((wanted.bind choose).getD p).bytes := by
  cases wanted with
  | none => rfl
  | some value =>
    rw [adjusted, sets, ok_bind, Option.bind_some]
    cases choose value <;> rfl

theorem adjustDuration_bytes (wanted : Option UInt16) :
    adjusted p.bytes wanted (setDuration p.bytes) = .ok (p.adjustDuration wanted).bytes := by
  rw [adjusted_bytes p (setDuration_bytes p)]
  cases wanted <;> rfl

theorem adjustSchedule_bytes (wanted : Option UInt16) :
    (adjusted p.bytes wanted fun minutes => do
      if (← minutesAt p.bytes 8) < minutes ∧ minutes ≤ maxScheduleMinutes then
        setScheduleDuration p.bytes minutes
      else pure (.unsupported, p.bytes)) = .ok (p.adjustSchedule wanted).bytes := by
  have sets (minutes : UInt16) : (do
      if (← minutesAt p.bytes 8) < minutes ∧ minutes ≤ maxScheduleMinutes then
        setScheduleDuration p.bytes minutes
      else pure (.unsupported, p.bytes)) = Except.ok (left p
        (if p.duration.total < minutes ∧ minutes ≤ maxScheduleMinutes then
          p.setScheduleDuration? minutes else none)) := by
    rw [duration_bytes, ok_bind, setScheduleDuration_bytes]
    split <;> rfl
  rw [adjusted_bytes p sets]
  cases wanted with
  | none => rfl
  | some minutes =>
    rw [Option.bind_some, Payload.adjustSchedule]
    split <;> rfl

theorem adjustAutoKeepWarm_bytes (wanted : Option Bool) :
    (adjusted p.bytes wanted fun enabled => do
      if enabled then setAutoKeepWarm p.bytes true else pure (.unsupported, p.bytes)) =
        .ok (p.adjustAutoKeepWarm wanted).bytes := by
  have sets (enabled : Bool) : (do
      if enabled then setAutoKeepWarm p.bytes true else pure (.unsupported, p.bytes)) =
        Except.ok (left p (if enabled then p.setAutoKeepWarm? true else none)) := by
    rw [setAutoKeepWarm_bytes]
    cases enabled <;> rfl
  rw [adjusted_bytes p sets]
  match wanted with
  | none => rfl
  | some false => rfl
  | some true => rfl

end Adjusting

theorem withOptions_image (text : String) (options : Options) :
    withOptions text options = .ok ((Profile.withOptions text options).map image) := by
  rw [withOptions, Profile.withOptions, parse_image, ok_bind]
  cases Profile.parse text with
  | error error => rfl
  | ok p =>
    simp only [Except.map, Except.bind, image, Profile.adjust, Payload.adjust]
    rw [adjustDuration_bytes, ok_bind, adjustSchedule_bytes, ok_bind, adjustAutoKeepWarm_bytes,
      ok_bind]
    generalize ((p.payload.adjustDuration options.duration).adjustSchedule
      options.schedule).adjustAutoKeepWarm options.autoKeepWarm = adjusted
    cases options.taste with
    | none => rfl
    | some taste =>
      simp only [setTaste_bytes, ok_bind, Payload.adjustTaste]
      cases adjusted.setTaste? taste with
      | error error => rfl
      | ok written? => cases written? <;> rfl

/-- The trailer that was computed just now fits, whatever the payload is and
whatever trailer was there before. -/
theorem toBytes_image (p : Profile) : toBytes p.image = .ok (p.toBytes, p.refresh.image) :=
  guarded_of (Checksum.verify_append p.payload.bytes) _ _

theorem toHex_image (p : Profile) : toHex p.image = .ok (p.toHex, p.refresh.image) := by
  rw [toHex, toBytes_image]
  rfl

/-! ## Sessions -/

/-- One step is never stopped. -/
theorem step_image (p : Profile) (next : Step) :
    step p.image next = .ok ((p.step next).1, (p.step next).2.image) := by
  cases next with
  | set setting =>
    cases taken : p.payload.takes setting with
    | true =>
      have written := set_of_takes taken
      rw [step_set_of_takes taken]
      cases setting with
      | menuIndex index => rfl
      | _ =>
        simp only [step, image, set_bytes, written, ok_bind]
        rfl
    | false =>
      cases setting with
      | menuIndex index => cases taken
      | _ =>
        simp only [step, image, set_bytes, ok_bind, Profile.step]
        obtain unsupported | ⟨_, _, refused⟩ := set_of_not_takes taken
        · rw [unsupported]
          rfl
        · rw [refused]
          rfl
  | refresh => rfl
  | toBytes =>
    rw [step, toBytes_image]
    rfl
  | toHex =>
    rw [step, toHex_image]
    rfl
  | compare text =>
    rw [step, parse_image, Profile.step, ok_bind]
    cases Profile.parse text with
    | error error => rfl
    | ok q => simp only [Except.map, image_inj, pure_eq_ok]
  | reread =>
    simp only [step, toHex_image, parse_image, Profile.step, parse_toHex, Except.map, image_inj,
      ok_bind, pure_eq_ok]

/-- What is looked at after each step of a session. -/
def seen (after : Answer × Profile) : Answer × Image × Attributes :=
  (after.1, after.2.image, after.2.attributes)

theorem trace_image (p : Profile) (steps : List Step) :
    trace p.image steps = .ok ((p.trace steps).map seen) := by
  -- Every step leaves the image of a profile again, and this is all that the next one needs.
  induction steps generalizing p with
  | nil => rfl
  | cons first rest ih =>
    have shown : attributes (p.step first).2.image.bytes = .ok (p.step first).2.attributes :=
      attributes_bytes (p.step first).2.payload
    simp only [trace, step_image, shown, ih, ok_bind]
    rfl

end Checked

/-- The profile that a text holds, with adjustments or without. -/
def openWith (text : String) : Option Options → Except Error Profile
  | some options => withOptions text options
  | none => parse text

theorem Checked.openWith_image (text : String) (options : Option Options) :
    Checked.openWith text options = .ok ((Profile.openWith text options).map image) := by
  cases options with
  | none => exact Checked.parse_image text
  | some options => exact Checked.withOptions_image text options

/-- **No check stops a run, whatever text is read and whatever is done then, also
with a profile whose bytes and stored checksum are arbitrary.** The checks are
strict, and the run with them does what the run without them does. -/
theorem runs_without_stops :
    Checked.Strict ∧
    (∀ (text : String) (options : Option Options) (steps : List Step),
      Checked.session text options steps = .ok ((openWith text options).map fun p =>
        (p.image, p.attributes, (p.trace steps).map Checked.seen))) ∧
    ∀ (p : Profile) (steps : List Step),
      Checked.trace p.image steps = .ok ((p.trace steps).map Checked.seen) := by
  refine ⟨Checked.strict, fun text options steps => ?_, Checked.trace_image⟩
  rw [Checked.session, Checked.openWith_image, Checked.ok_bind]
  cases openWith text options with
  | error error => rfl
  | ok p =>
    have shown : Checked.attributes p.image.bytes = .ok p.attributes :=
      Checked.attributes_bytes p.payload
    simp only [Except.map, shown, Checked.trace_image, Checked.ok_bind, Checked.pure_eq_ok]

end RiceCooker.Profile
