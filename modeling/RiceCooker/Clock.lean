/-! Spans and instants, exact to the nanosecond, and the whole minutes that a
profile can hold. Minutes are cut toward zero, never negative, and stop at the
largest word. -/
namespace RiceCooker

/-! ## Spans -/

/-- A length of time, which may be negative. -/
structure Span where
  /-- The length in nanoseconds. -/
  nanoseconds : Int
deriving DecidableEq

/-- A point in time. -/
structure Instant where
  /-- The nanoseconds since the epoch. -/
  nanoseconds : Int
deriving DecidableEq

/-- Nanoseconds in a second. -/
def nanosecondsPerSecond : Int := 1000000000

/-- Nanoseconds in a minute. -/
def nanosecondsPerMinute : Int := 60 * nanosecondsPerSecond

/-- Seconds with nanoseconds on top, also when the seconds are negative. -/
def Span.ofParts (seconds nanoseconds : Int) : Span :=
  ⟨seconds * nanosecondsPerSecond + nanoseconds⟩

/-- Seconds since the epoch with nanoseconds on top. -/
def Instant.ofParts (seconds nanoseconds : Int) : Instant :=
  ⟨seconds * nanosecondsPerSecond + nanoseconds⟩

/-- The span from one instant to another. -/
def Instant.since (later earlier : Instant) : Span := ⟨later.nanoseconds - earlier.nanoseconds⟩

/-! ## Minutes -/

/-- The largest number of minutes in a word. -/
def maxMinutes : Int := 65535

/-- The whole minutes of a span, cut toward zero. -/
def Span.wholeMinutes (span : Span) : Int := span.nanoseconds.tdiv nanosecondsPerMinute

/-- The whole minutes of a span, as a profile holds them. -/
def Span.minutes (span : Span) : UInt16 :=
  UInt16.ofNat (min maxMinutes (max 0 span.wholeMinutes)).toNat

/-- The whole minutes from now until an instant, if there are any. -/
def Instant.minutesUntil? (instant now : Instant) : Option UInt16 :=
  let minutes := (instant.since now).minutes
  if minutes = 0 then none else some minutes

/-- The limits of a word are kept, so nothing is lost in it. -/
theorem Span.toNat_minutes (span : Span) :
    (span.minutes.toNat : Int) = min maxMinutes (max 0 span.wholeMinutes) := by
  simp only [minutes, maxMinutes, UInt16.toNat_ofNat']
  omega

/-- There is no delay of zero minutes. -/
theorem Instant.minutesUntil?_ne_zero (instant now : Instant) :
    instant.minutesUntil? now ≠ some 0 := by
  simp only [minutesUntil?]
  split
  · simp
  · rename_i some_left
    simpa using some_left

end RiceCooker
