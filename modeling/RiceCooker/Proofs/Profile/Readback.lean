import RiceCooker.Proofs.Profile.Adjustment
import RiceCooker.Proofs.Profile.Session

/-! Times as they read back after they were set. A number of minutes is stored
as hours and minutes below sixty, and the hours have eight bits in a duration
and seven in a delay. What reads back is the time that was stored, less the
hours for which there is no bit. -/
namespace RiceCooker.Profile

/-! ## Durations -/

namespace Payload
variable {p : Payload}

/-- The number of minutes in the allowed range that is nearest to another. -/
def nearestDuration (p : Payload) (minutes : UInt16) : ℕ :=
  max p.cookTimeMin.total.toNat (min minutes.toNat p.cookTimeMax.total.toNat)

theorem toNat_cookTimeMin_lt (able : p.canSetDuration = true) :
    p.cookTimeMin.total.toNat < p.cookTimeMax.total.toNat :=
  UInt16.lt_iff_toNat_lt.mp (of_decide_eq_true able)

theorem toNat_clampDuration (able : p.canSetDuration = true) (minutes : UInt16) :
    (p.clampDuration minutes).toNat = p.nearestDuration minutes := by
  have ordered := toNat_cookTimeMin_lt able
  simp only [clampDuration, nearestDuration, UInt16.lt_iff_toNat_lt]
  split
  · omega
  · split <;> omega

theorem nearestDuration_bounds (able : p.canSetDuration = true) (minutes : UInt16) :
    p.cookTimeMin.total.toNat ≤ p.nearestDuration minutes ∧
      p.nearestDuration minutes ≤ p.cookTimeMax.total.toNat := by
  have ordered := toNat_cookTimeMin_lt able
  unfold nearestDuration
  omega

end Payload

/-- **A duration that is set reads back as the nearest one allowed, exactly if
that is below 256 hours.** Of a longer one the first 256 hours are lost. -/
theorem setDuration_reads_back (p : Profile) (minutes : UInt16)
    (able : p.payload.canSetDuration = true) :
    ∃ q, p.setDuration minutes = (.applied, q) ∧
      q.payload.duration.total.toNat = p.payload.nearestDuration minutes % 15360 ∧
      (q.payload.duration.total.toNat = p.payload.nearestDuration minutes ↔
        p.payload.nearestDuration minutes < 15360) ∧
      (p.payload.nearestDuration minutes < 15360 →
        p.payload.cookTimeMin.total ≤ q.payload.duration.total ∧
          q.payload.duration.total ≤ p.payload.cookTimeMax.total) := by
  -- A duration is never out of range, so the ability alone decides.
  have taken : p.payload.takes (.duration minutes) = true := able
  have written : p.setDuration minutes =
      (.applied, { p with payload := p.payload.written (.duration minutes) }) :=
    Except.ok.inj (set_of_takes taken)
  have stored : (p.payload.written (.duration minutes)).duration.total.toNat =
      p.payload.nearestDuration minutes % 15360 := by
    rw [← Payload.toNat_clampDuration able]
    exact HourMinute.toNat_total_ofMinutes _
  have exactly : (p.payload.written (.duration minutes)).duration.total.toNat =
      p.payload.nearestDuration minutes ↔ p.payload.nearestDuration minutes < 15360 := by
    rw [stored, Nat.mod_eq_iff_lt (by decide)]
  refine ⟨_, written, stored, exactly, fun short => ?_⟩
  obtain ⟨above, below⟩ := Payload.nearestDuration_bounds able minutes
  rw [UInt16.le_iff_toNat_le, UInt16.le_iff_toNat_le, exactly.mpr short]
  exact ⟨above, below⟩

/-- White rice that may cook for the longest time that two bytes can tell. -/
def slowRice : Profile :=
  { whiteRice with payload.cookTimeMax := ⟨255, 255⟩, checksum := 0x8e80 }

theorem slow_rice_below_256_hours :
    slowRice.payload.canSetDuration = true ∧
      ∃ q, slowRice.setDuration 15359 = (.applied, q) ∧ q.payload.duration.total = 15359 ∧
        slowRice.payload.cookTimeMin.total ≤ q.payload.duration.total ∧
        q.payload.duration.total ≤ slowRice.payload.cookTimeMax.total := by
  have able : slowRice.payload.canSetDuration = true := by decide
  have short : slowRice.payload.nearestDuration 15359 < 15360 := by decide
  obtain ⟨q, set, _, exactly, allowed⟩ := setDuration_reads_back slowRice 15359 able
  exact ⟨able, q, set, UInt16.toNat_inj.mp (exactly.mpr short), allowed short⟩

/-- The next minute is in the allowed range as well, and what reads back is
below the shortest time allowed. -/
theorem duration_of_256_hours_is_lost :
    parse "0201000000000160001effff000a0000000001018e80" = .ok slowRice ∧
      slowRice.payload.canSetDuration = true ∧
      slowRice.payload.nearestDuration 15360 = 15360 ∧
      (slowRice.setDuration 15360).1 = .applied ∧
      (slowRice.setDuration 15360).2.payload.duration.total = 0 ∧
      ¬slowRice.payload.cookTimeMin.total ≤
        (slowRice.setDuration 15360).2.payload.duration.total := by
  decide +kernel

/-! ## Delays -/

/-- A delay has no room for more than 127 hours and 127 minutes. -/
theorem Payload.toNat_scheduleDuration_le (p : Payload) : p.scheduleDuration.toNat ≤ 7747 := by
  have hours := p.scheduleHours.isLt
  have minutes := p.scheduleMinutes.isLt
  rw [toNat_scheduleDuration]
  omega

/-- **A delay that is set is switched on and reads back up to multiples of 128
hours**, and only the two bytes that hold it change, where keeping warm stays as
it was. No payload at all holds a delay of more than 7747 minutes. -/
theorem setScheduleDuration_reads_back (p : Profile) (minutes : UInt16)
    (able : p.payload.canSchedule = true) :
    (∃ q, p.setScheduleDuration minutes = (.applied, q) ∧
      q.payload.scheduleDuration.toNat = minutes.toNat % 7680 ∧
      (q.payload.scheduleDuration = minutes ↔ minutes.toNat < 7680) ∧
      q.payload.scheduleEnabled = true ∧
      q.payload.autoKeepWarm = p.payload.autoKeepWarm ∧
      ∀ position, position ≠ 14 → position ≠ 15 → q.byteAt position = p.byteAt position) ∧
    ∀ held : Payload, held.scheduleDuration.toNat ≤ 7747 := by
  have taken : p.payload.takes (.scheduleDuration minutes) = true := able
  have written : p.setScheduleDuration minutes =
      (.applied, { p with payload := p.payload.written (.scheduleDuration minutes) }) :=
    Except.ok.inj (set_of_takes taken)
  have stored : (p.payload.written (.scheduleDuration minutes)).scheduleDuration.toNat =
      minutes.toNat % 7680 := Payload.toNat_scheduleDuration_of_minutes rfl rfl
  refine ⟨⟨_, written, stored, ?_, rfl, rfl, fun position notHours notMinutes => ?_⟩,
    Payload.toNat_scheduleDuration_le⟩
  · rw [← UInt16.toNat_inj, stored, Nat.mod_eq_iff_lt (by decide)]
  · exact p.payload.getD_bytes_written _ notHours notMinutes

theorem white_rice_delayed_below_128_hours :
    whiteRice.payload.canSchedule = true ∧
      ∃ q, whiteRice.setScheduleDuration 7679 = (.applied, q) ∧
        q.payload.scheduleDuration = 7679 ∧ q.byteAt 16 = whiteRice.byteAt 16 := by
  have able : whiteRice.payload.canSchedule = true := by decide
  obtain ⟨⟨q, set, _, exactly, _, _, others⟩, _⟩ :=
    setScheduleDuration_reads_back whiteRice 7679 able
  exact ⟨able, q, set, exactly.mpr (by decide), others 16 (by decide) (by decide)⟩

/-- No delay of a week can be read from any payload, and setting one gives
forty hours. -/
theorem delay_of_a_week_is_cut :
    whiteRice.payload.canSchedule = true ∧
      (whiteRice.setScheduleDuration 10080).1 = .applied ∧
      (whiteRice.setScheduleDuration 10080).2.payload.scheduleDuration = 2400 ∧
      ¬∃ p : Payload, p.scheduleDuration = 10080 := by
  refine ⟨by decide, by decide, by decide, ?_⟩
  rintro ⟨p, week⟩
  have bound := p.toNat_scheduleDuration_le
  rw [week] at bound
  exact absurd bound (by decide)

end RiceCooker.Profile
