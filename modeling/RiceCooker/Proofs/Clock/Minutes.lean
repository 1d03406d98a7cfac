import RiceCooker.Clock

/-! Whole minutes, rounded down. A profile holds at most a word of them and no
negative ones, so the minutes that it holds are the minutes that are left as
long as there are some and they fit. -/
namespace RiceCooker

/-! ## Spans -/

theorem Span.toNat_minutes_eq_floor (span : Span) :
    (span.minutes.toNat : Int) = min maxMinutes (max 0 (span.nanoseconds / nanosecondsPerMinute)) := by
  rw [toNat_minutes, wholeMinutes]
  by_cases future : 0 ≤ span.nanoseconds
  · rw [Int.tdiv_eq_ediv_of_nonneg future]
  · -- Cutting toward zero and rounding down differ here, but neither is positive.
    have cut : span.nanoseconds.tdiv nanosecondsPerMinute =
        -(-span.nanoseconds / nanosecondsPerMinute) := by
      rw [← Int.tdiv_eq_ediv_of_nonneg (by omega), Int.neg_tdiv, Int.neg_neg]
    rw [cut]
    simp only [nanosecondsPerMinute, nanosecondsPerSecond]
    omega

theorem Span.minutes_mono {shorter longer : Span}
    (le : shorter.nanoseconds ≤ longer.nanoseconds) : shorter.minutes ≤ longer.minutes := by
  have floors : shorter.nanoseconds / nanosecondsPerMinute ≤
      longer.nanoseconds / nanosecondsPerMinute := Int.ediv_le_ediv (by decide) le
  have short := shorter.toNat_minutes_eq_floor
  have long := longer.toNat_minutes_eq_floor
  rw [UInt16.le_iff_toNat_le]
  omega

theorem Span.minutes_eq_zero_iff (span : Span) :
    span.minutes = 0 ↔ span.nanoseconds < nanosecondsPerMinute := by
  have held := span.toNat_minutes_eq_floor
  rw [← UInt16.toNat_inj, UInt16.toNat_zero]
  simp only [maxMinutes, nanosecondsPerMinute, nanosecondsPerSecond] at held ⊢
  omega

/-- Nanoseconds on top of whole seconds never fill up a minute. -/
theorem Span.toNat_minutes_ofParts (seconds : Int) {nanoseconds : Int} (least : 0 ≤ nanoseconds)
    (below : nanoseconds < nanosecondsPerSecond) :
    ((ofParts seconds nanoseconds).minutes.toNat : Int) =
      min maxMinutes (max 0 (seconds / 60)) := by
  rw [toNat_minutes_eq_floor]
  simp only [ofParts, nanosecondsPerMinute, nanosecondsPerSecond] at below ⊢
  omega

/-! ## Instants -/

namespace Instant

/-- The whole minutes from now until an instant, rounded down. -/
def minutesAhead (instant now : Instant) : Int :=
  (instant.nanoseconds - now.nanoseconds) / nanosecondsPerMinute

variable (instant now : Instant)

theorem minutesAhead_pos_iff :
    0 < instant.minutesAhead now ↔
      now.nanoseconds + nanosecondsPerMinute ≤ instant.nanoseconds := by
  rw [minutesAhead, nanosecondsPerMinute, nanosecondsPerSecond]
  omega

/-- An instant lies in the minute that begins as many minutes from now. -/
theorem minutesAhead_bounds :
    now.nanoseconds + instant.minutesAhead now * nanosecondsPerMinute ≤ instant.nanoseconds ∧
      instant.nanoseconds <
        now.nanoseconds + (instant.minutesAhead now + 1) * nanosecondsPerMinute := by
  rw [minutesAhead, nanosecondsPerMinute, nanosecondsPerSecond]
  omega

/-- There is a delay exactly from one minute on, and it stops at the largest word. -/
theorem minutesUntil?_cases :
    (instant.minutesAhead now ≤ 0 ∧ instant.minutesUntil? now = none) ∨
    ∃ minutes : UInt16, 0 < instant.minutesAhead now ∧
      (minutes.toNat : Int) = min maxMinutes (instant.minutesAhead now) ∧
      instant.minutesUntil? now = some minutes := by
  have held := Span.toNat_minutes_eq_floor (instant.since now)
  have ahead : (instant.since now).nanoseconds / nanosecondsPerMinute =
      instant.minutesAhead now := rfl
  rw [ahead, maxMinutes] at held
  rw [minutesUntil?]
  generalize (instant.since now).minutes = minutes at held
  by_cases none_left : minutes = 0
  · refine .inl ⟨?_, if_pos none_left⟩
    rw [none_left, UInt16.toNat_zero] at held
    omega
  · have some_left : minutes.toNat ≠ 0 := fun zero => none_left (UInt16.toNat_inj.mp zero)
    rw [maxMinutes]
    exact .inr ⟨minutes, by omega, by omega, if_neg none_left⟩

/-- The instant that lies as far behind another as this span is long. -/
def after (instant : Instant) (span : Span) : Instant :=
  ⟨instant.nanoseconds + span.nanoseconds⟩

/-- Without a delay there are no minutes left, and these are the minutes of the
span between the instants. -/
theorem getD_minutesUntil? :
    (instant.minutesUntil? now).getD 0 = (instant.since now).minutes := by
  rw [minutesUntil?]
  split
  · rename_i none_left
    exact none_left.symm
  · rfl

theorem minutesUntil?_eq_none_iff :
    instant.minutesUntil? now = none ↔
      instant.nanoseconds - now.nanoseconds < nanosecondsPerMinute := by
  rw [minutesUntil?, ite_eq_left_iff]
  simp only [reduceCtorEq, imp_false, Decidable.not_not]
  exact Span.minutes_eq_zero_iff _

theorem minutesUntil?_eq_some_iff (minutes : UInt16) :
    instant.minutesUntil? now = some minutes ↔
      nanosecondsPerMinute ≤ instant.nanoseconds - now.nanoseconds ∧
        (minutes.toNat : Int) = min maxMinutes (instant.minutesAhead now) := by
  have ahead := instant.minutesAhead_pos_iff now
  obtain ⟨passed, absent⟩ | ⟨held, left, fits, found⟩ := instant.minutesUntil?_cases now
  · rw [absent]
    constructor
    · intro impossible
      cases impossible
    · rintro ⟨minute, _⟩
      omega
  · rw [found, Option.some.injEq, ← UInt16.toNat_inj]
    omega

/-- Whole seconds are subtracted with one borrowed where the nanoseconds do not
suffice. -/
theorem since_ofParts (seconds nanoseconds sinceSeconds sinceNanoseconds : Int) :
    (ofParts seconds nanoseconds).since (ofParts sinceSeconds sinceNanoseconds) =
      if nanoseconds < sinceNanoseconds then
        .ofParts (seconds - sinceSeconds - 1)
          (nanosecondsPerSecond + nanoseconds - sinceNanoseconds)
      else .ofParts (seconds - sinceSeconds) (nanoseconds - sinceNanoseconds) := by
  simp only [since, ofParts, Span.ofParts, nanosecondsPerSecond]
  split
  · congr 1
    omega
  · congr 1
    omega

end Instant

/-! ## Both -/

/-- **The minutes of a span are its whole minutes rounded down, and the minutes
until an instant are those of the span that is left, if it is a minute or
more.** A longer span never has fewer of them, and two instants that are moved
by one span are as far apart as before. -/
theorem whole_minutes_of_spans_and_until_instants :
    (∀ span : Span,
      (0 ≤ span.nanoseconds →
        (span.minutes.toNat : Int) = min 65535 (span.nanoseconds / 60000000000)) ∧
      (span.nanoseconds < 0 → span.minutes = 0)) ∧
    (∀ shorter longer : Span, shorter.nanoseconds ≤ longer.nanoseconds →
      shorter.minutes ≤ longer.minutes) ∧
    (∀ instant now : Instant,
      (instant.minutesUntil? now = none ↔
        instant.nanoseconds - now.nanoseconds < 60000000000) ∧
      (∀ minutes : UInt16, instant.minutesUntil? now = some minutes ↔
        60000000000 ≤ instant.nanoseconds - now.nanoseconds ∧ (minutes.toNat : Int) =
          min 65535 ((instant.nanoseconds - now.nanoseconds) / 60000000000)) ∧
      instant.minutesUntil? now ≠ some 0) ∧
    (∀ earlier later now : Instant, earlier.nanoseconds ≤ later.nanoseconds →
      (earlier.minutesUntil? now).getD 0 ≤ (later.minutesUntil? now).getD 0) ∧
    (∀ instant before now : Instant, before.nanoseconds ≤ now.nanoseconds →
      (instant.minutesUntil? now).getD 0 ≤ (instant.minutesUntil? before).getD 0) ∧
    (∀ (instant now : Instant) (span : Span),
      (instant.after span).minutesUntil? (now.after span) = instant.minutesUntil? now) ∧
    ∀ seconds nanoseconds nowSeconds nowNanoseconds : Int,
      0 ≤ nanoseconds → nanoseconds < 1000000000 →
      0 ≤ nowNanoseconds → nowNanoseconds < 1000000000 →
        ((Span.ofParts seconds nanoseconds).minutes.toNat : Int) =
          min 65535 (max 0 (seconds / 60)) ∧
        ((((Instant.ofParts seconds nanoseconds).minutesUntil?
            (.ofParts nowSeconds nowNanoseconds)).getD 0).toNat : Int) =
          min 65535 (max 0 ((seconds - nowSeconds -
            if nanoseconds < nowNanoseconds then 1 else 0) / 60)) := by
  refine ⟨fun span => ⟨fun ahead => ?_, fun past => ?_⟩, fun _ _ => Span.minutes_mono,
    fun instant now => ⟨instant.minutesUntil?_eq_none_iff now,
      instant.minutesUntil?_eq_some_iff now, instant.minutesUntil?_ne_zero now⟩,
    fun earlier later now le => ?_, fun instant before now le => ?_, fun instant now span => ?_,
    fun seconds nanoseconds nowSeconds nowNanoseconds least below nowLeast nowBelow =>
      ⟨Span.toNat_minutes_ofParts seconds least below, ?_⟩⟩
  · have held := span.toNat_minutes_eq_floor
    simp only [maxMinutes, nanosecondsPerMinute, nanosecondsPerSecond] at held
    omega
  · apply span.minutes_eq_zero_iff.mpr
    simp only [nanosecondsPerMinute, nanosecondsPerSecond]
    omega
  · rw [Instant.getD_minutesUntil?, Instant.getD_minutesUntil?]
    exact Span.minutes_mono (Int.sub_le_sub_right le _)
  · rw [Instant.getD_minutesUntil?, Instant.getD_minutesUntil?]
    exact Span.minutes_mono (Int.sub_le_sub_left le _)
  · have same : (instant.after span).since (now.after span) = instant.since now := by
      simp only [Instant.since, Instant.after]
      congr 1
      omega
    rw [Instant.minutesUntil?, same, Instant.minutesUntil?]
  · rw [Instant.getD_minutesUntil?, Instant.since_ofParts]
    split
    · rw [Span.toNat_minutes_ofParts _ (by rw [nanosecondsPerSecond]; omega)
        (by rw [nanosecondsPerSecond]; omega)]
      rfl
    · rw [Span.toNat_minutes_ofParts _ (by omega) (by rw [nanosecondsPerSecond]; omega),
        Int.sub_zero]
      rfl

/-- The largest word is reached with the last nanosecond, a span just below zero
has no minutes, and a minute that lacks a nanosecond is no delay. -/
theorem minutes_at_the_last_nanosecond :
    0 ≤ (Span.ofParts 3932099 999999999).nanoseconds ∧
      ((Span.ofParts 3932099 999999999).minutes.toNat : Int) = 65534 ∧
      (Span.ofParts (-1) 999999999).nanoseconds < 0 ∧
      (Span.ofParts (-1) 999999999).minutes = 0 ∧
      (Span.ofParts (-1) 999999999).minutes ≤ (Span.ofParts 3932099 999999999).minutes ∧
      (Instant.ofParts 60 0).minutesUntil? (.ofParts 0 1) = none ∧
      (Instant.ofParts 60 1).minutesUntil? (.ofParts 0 1) = some 1 ∧
      ((Instant.ofParts 60 0).minutesUntil? (.ofParts 0 1)).getD 0 ≤
        ((Instant.ofParts 60 1).minutesUntil? (.ofParts 0 1)).getD 0 ∧
      ((Instant.ofParts 60 1).minutesUntil? (.ofParts 0 2)).getD 0 ≤
        ((Instant.ofParts 60 1).minutesUntil? (.ofParts 0 1)).getD 0 ∧
      ((((Instant.ofParts 120 0).minutesUntil? (.ofParts 0 999999999)).getD 0).toNat : Int) = 1 := by
  obtain ⟨spans, longer, instants, later, sooner, _, parts⟩ := whole_minutes_of_spans_and_until_instants
  have full : 0 ≤ (Span.ofParts 3932099 999999999).nanoseconds := by decide
  have past : (Span.ofParts (-1) 999999999).nanoseconds < 0 := by decide
  exact ⟨full, ((spans _).1 full).trans (by decide), past, (spans _).2 past,
    longer _ _ (by decide), ((instants _ _).1).mpr (by decide),
    ((instants _ _).2.1 1).mpr (by decide), later _ _ _ (by decide), sooner _ _ _ (by decide),
    ((parts 120 0 0 999999999 (by decide) (by decide) (by decide) (by decide)).2).trans (by decide)⟩

end RiceCooker
