import RiceCooker.Proofs.Profile.Session

/-! The last write wins. What a session leaves in a field is what the last
setting taken for it would have made of the payload at the start, whatever was
set, refused or written out in between; so sessions that end alike in every
field end in the same payload, and settings of different fields can change
places. -/
namespace RiceCooker.Profile

/-- Different settings write different fields, but for a delay and its switch. -/
theorem Setting.writes_apart {first second : Setting} (differ : first.field ≠ second.field)
    (switchFirst : ¬(first.field = .scheduleEnabled ∧ second.field = .scheduleDuration))
    (delayFirst : ¬(first.field = .scheduleDuration ∧ second.field = .scheduleEnabled))
    (field : Field) : ¬(first.writes field = true ∧ second.writes field = true) := by
  simp only [writes, Bool.or_eq_true, Bool.and_eq_true, beq_iff_eq]
  rintro ⟨rfl | ⟨firstDelay, rfl⟩, secondNamed | ⟨secondDelay, switch⟩⟩
  · exact differ secondNamed.symm
  · exact switchFirst ⟨switch, secondDelay⟩
  · exact delayFirst ⟨firstDelay, secondNamed⟩
  · exact differ (firstDelay.trans secondDelay.symm)

theorem Payload.lastTaken_swap (p : Payload) {first second : Setting} {field : Field}
    (apart : ¬(first.writes field = true ∧ second.writes field = true)) :
    p.lastTaken [.set first, .set second] field = p.lastTaken [.set second, .set first] field := by
  have after (before last : Setting) : p.lastTaken [.set before, .set last] field =
      if last.writes field && p.takes last then some last
      else if before.writes field && p.takes before then some before else none := by
    have once := p.lastTaken_append_set [] before field
    have twice := p.lastTaken_append_set [.set before] last field
    rw [List.nil_append] at once
    rw [List.singleton_append, once] at twice
    exact twice
  rw [after, after]
  cases firstWrites : first.writes field with
  | false => simp
  | true =>
    have secondKeeps := Bool.eq_false_iff.mpr fun secondWrites => apart ⟨firstWrites, secondWrites⟩
    simp [secondKeeps]

/-- Sessions whose last settings taken are the same end in the same payload. -/
theorem payload_run_congr (p : Profile) {first second : List Step}
    (same : ∀ field, p.payload.lastTaken first field = p.payload.lastTaken second field) :
    (p.run first).payload = (p.run second).payload := by
  rw [payload_run, payload_run]
  simp only [same]

/-- **Each field ends as the last setting taken for it leaves the payload that
the session began with**, the delay's switch as it was last switched or as a
later delay switches it, and the stored checksum as the last refresh left it. -/
theorem last_setting_taken_wins :
    (∀ (p : Profile) (steps : List Step),
      (p.run steps).payload = p.payload.withFields fun field =>
        (p.payload.lastTaken steps field).elim p.payload fun setting =>
          (p.step (.set setting)).2.payload) ∧
    (∀ (p : Profile) (steps : List Step) (enabled : Bool),
      p.payload.lastTaken steps .scheduleEnabled = some (.scheduleEnabled enabled) →
        (p.run steps).payload.scheduleEnabled = enabled) ∧
    (∀ (p : Profile) (steps : List Step) (minutes : UInt16),
      p.payload.lastTaken steps .scheduleEnabled = some (.scheduleDuration minutes) →
        (p.run steps).payload.scheduleEnabled = true) ∧
    (∀ (p : Profile) (first second : List Step),
      (∀ field, p.payload.lastTaken first field = p.payload.lastTaken second field) →
        (p.run first).payload = (p.run second).payload) ∧
    (∀ (p : Profile) (first second : Setting), first.field ≠ second.field →
      ¬(first.field = .scheduleEnabled ∧ second.field = .scheduleDuration) →
      ¬(first.field = .scheduleDuration ∧ second.field = .scheduleEnabled) →
        (p.run [.set first, .set second]).payload = (p.run [.set second, .set first]).payload) ∧
    (∀ (p : Profile) (before : List Step) (step : Step) (after : List Step),
      step.refreshes = true → (∀ later ∈ after, later.refreshes = false) →
        (p.run (before ++ step :: after)).checksum = Checksum.crc (p.run before).payload.bytes) ∧
    ∀ (p : Profile) (steps : List Step), (∀ step ∈ steps, step.refreshes = false) →
      (p.run steps).checksum = p.checksum := by
  refine ⟨fun p steps => ?_, fun p steps enabled last => ?_, fun p steps minutes last => ?_,
    fun p _ _ => payload_run_congr p, fun p first second differ switchFirst delayFirst => ?_,
    fun p before _ _ => checksum_run_of_refreshes p before, fun p _ => checksum_run p⟩
  · rw [payload_run]
    congr
    funext field
    cases last : p.payload.lastTaken steps field with
    | none => rfl
    | some setting =>
      have taken := (Payload.writes_takes_of_lastTaken last).2
      simp only [Option.elim_some, step_set_of_takes taken]
  · rw [payload_run, Payload.withFields, last]
    rfl
  · rw [payload_run, Payload.withFields, last]
    rfl
  · apply payload_run_congr
    intro field
    exact p.payload.lastTaken_swap (Setting.writes_apart differ switchFirst delayFirst field)

/-- Of two durations and two tastes, the last that is taken counts; a delay that
is switched off stays off until the next delay; keeping warm and the delay share
a byte and still change places; and the checksum is as old as the text that was
last written. -/
theorem last_settings_of_white_rice :
    (∀ field, whiteRice.payload.lastTaken
        [.set (.taste 2), .set (.duration 50), .set (.taste 3), .toHex, .set (.duration 20)] field =
      whiteRice.payload.lastTaken [.set (.duration 20), .set (.taste 2)] field) ∧
    (whiteRice.run
        [.set (.taste 2), .set (.duration 50), .set (.taste 3), .toHex, .set (.duration 20)]).payload =
      (whiteRice.run [.set (.duration 20), .set (.taste 2)]).payload ∧
    (whiteRice.run [.set (.scheduleDuration 100), .set (.scheduleEnabled false)]
      ).payload.scheduleEnabled = false ∧
    (whiteRice.run [.set (.scheduleEnabled false), .set (.scheduleDuration 100)]
      ).payload.scheduleEnabled = true ∧
    (whiteRice.run [.set (.autoKeepWarm true), .set (.scheduleDuration 100)]).payload =
      (whiteRice.run [.set (.scheduleDuration 100), .set (.autoKeepWarm true)]).payload ∧
    (whiteRice.run ([.set (.taste 2)] ++ .toHex :: [.set (.duration 20)])).checksum =
      Checksum.crc (whiteRice.run [.set (.taste 2)]).payload.bytes ∧
    (whiteRice.run [.set (.duration 20), .set (.taste 2)]).checksum = 0x00fc := by
  obtain ⟨_, switched, delayed, congr, swap, fresh, stale⟩ := last_setting_taken_wins
  have same : ∀ field, whiteRice.payload.lastTaken
      [.set (.taste 2), .set (.duration 50), .set (.taste 3), .toHex, .set (.duration 20)] field =
        whiteRice.payload.lastTaken [.set (.duration 20), .set (.taste 2)] field := by
    intro field
    cases field <;> decide
  exact ⟨same, congr _ _ _ same, switched _ _ _ (by decide), delayed _ _ 100 (by decide),
    swap _ _ _ nofun nofun nofun, fresh _ _ _ _ rfl (by decide), stale _ _ (by decide)⟩

end RiceCooker.Profile
