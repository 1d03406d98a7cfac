import RiceCooker.Proofs.Checksum.Damage

/-! Bursts. Differences that lie within sixteen consecutive bits add up to a
power of `x` times something of lower degree than the generator, and since
powers of `x` can be undone, no such sum is a multiple of the generator but
zero. -/
namespace RiceCooker.Checksum
open Polynomial

/-- Different powers of `x` add up to nothing only if there are none of them. -/
theorem eq_empty_of_sum_X_pow_eq_zero {positions : Finset ℕ} {exponent : ℕ → ℕ}
    (distinct : Set.InjOn exponent positions)
    (none : ∑ i ∈ positions, (X ^ exponent i : (ZMod 2)[X]) = 0) : positions = ∅ := by
  apply Finset.eq_empty_of_forall_notMem
  intro i member
  have coefficients := congrArg (coeff · (exponent i)) none
  simp only [finsetSum_coeff, coeff_X_pow, coeff_zero] at coefficients
  rw [Finset.sum_eq_single_of_mem i member] at coefficients
  · simp at coefficients
  · intro j other apart
    exact if_neg fun same => apart (distinct other member same.symm)

/-- The generator divides no sum of different powers below its own degree, but
for the empty sum. -/
theorem eq_empty_of_dvd_of_lt {positions : Finset ℕ} {exponent : ℕ → ℕ}
    (distinct : Set.InjOn exponent positions) (small : ∀ i ∈ positions, exponent i < 16)
    (overlooked : generatorPolynomial ∣ ∑ i ∈ positions, (X ^ exponent i : (ZMod 2)[X])) :
    positions = ∅ := by
  have below : (∑ i ∈ positions, (X ^ exponent i : (ZMod 2)[X])).degree < 16 := by
    apply (degree_lt_iff_coeff_zero _ 16).mpr
    intro above high
    rw [finsetSum_coeff]
    refine Finset.sum_eq_zero fun i member => ?_
    rw [coeff_X_pow, if_neg]
    have bound := small i member
    omega
  apply eq_empty_of_sum_X_pow_eq_zero distinct
  by_contra some
  refine monic_generatorPolynomial.not_dvd_of_degree_lt some ?_ overlooked
  rw [degree_generatorPolynomial]
  exact below

/-- Nor does it divide such a sum moved up by any power of `x`. -/
theorem eq_empty_of_dvd_burst {positions : Finset ℕ} {exponent : ℕ → ℕ} (lowest : ℕ)
    (distinct : Set.InjOn exponent positions)
    (near : ∀ i ∈ positions, lowest ≤ exponent i ∧ exponent i < lowest + 16)
    (overlooked : generatorPolynomial ∣ ∑ i ∈ positions, (X ^ exponent i : (ZMod 2)[X])) :
    positions = ∅ := by
  have shifted : ∑ i ∈ positions, (X ^ exponent i : (ZMod 2)[X]) =
      X ^ lowest * ∑ i ∈ positions, X ^ (exponent i - lowest) := by
    rw [Finset.mul_sum]
    refine Finset.sum_congr rfl fun i member => ?_
    rw [← pow_add, Nat.add_sub_cancel' (near i member).1]
  rw [shifted, dvd_X_pow_mul_iff] at overlooked
  refine eq_empty_of_dvd_of_lt ?_ ?_ overlooked
  · intro i iMember j jMember same
    have iBound := (near i iMember).1
    have jBound := (near j jMember).1
    have equal : exponent i - lowest = exponent j - lowest := same
    exact distinct iMember jMember (by omega)
  · intro i member
    have bounds := near i member
    omega

/-- **Messages of one size that differ only within sixteen consecutive bits share
a checksum only if they do not differ at all.** -/
theorem eq_of_crc_eq_of_burst {first second : List UInt8} {start : ℕ}
    (size : first.length = second.length)
    (near : ∀ i ∈ differences first second, start ≤ i ∧ i < start + 16)
    (same : crc first = crc second) : first = second := by
  have overlooked := (crc_eq_crc_iff_differences size).mp same
  have inside : ∀ i ∈ differences first second, i < 8 * first.length := fun i member =>
    Finset.mem_range.mp (Finset.mem_filter.mp member).1
  apply eq_of_differences_eq_empty size
  -- The first of the sixteen bits has the highest power. If they reach beyond the end of the
  -- message, the lowest power is that of its last bit, and the subtraction stops at zero.
  refine eq_empty_of_dvd_burst (8 * first.length - (start + 16)) ?_ ?_ overlooked
  · intro i iMember j jMember equal
    have iInside := inside i iMember
    have jInside := inside j jMember
    omega
  · intro i member
    have within := near i member
    have bound := inside i member
    omega

/-! ## Inverted bits -/

/-- **Inverted bits within sixteen consecutive ones are always noticed**,
whatever the length of the frame and wherever in it they lie. -/
theorem burst_is_noticed {frame : List UInt8} {positions : List ℕ} (start : ℕ)
    (intact : verify frame = true) (distinct : positions.Nodup)
    (inside : ∀ i ∈ positions, i < 8 * frame.length) (some : positions ≠ [])
    (near : ∀ i ∈ positions, start ≤ i ∧ i < start + 16) :
    verify (flipBits frame positions) = false := by
  apply Bool.eq_false_iff.mpr
  intro overlooked
  have places := differences_flipBits frame distinct inside
  have size := (length_flipBits frame positions).symm
  apply ne_flipBits distinct inside some
  apply eq_of_crc_eq_of_burst size
  · intro i member
    rw [places, List.mem_toFinset] at member
    exact near i member
  · rw [crc_eq_zero_of_verify intact, crc_eq_zero_of_verify overlooked]

/-- The digits from one to nine in front of their checksum, with a bit inverted
in the last digit and one in each byte of the trailer. -/
theorem burst_across_a_trailer :
    verify [0x31, 0x32, 0x33, 0x34, 0x35, 0x36, 0x37, 0x38, 0x39, 0x31, 0xc3] = true ∧
      verify (flipBits [0x31, 0x32, 0x33, 0x34, 0x35, 0x36, 0x37, 0x38, 0x39, 0x31, 0xc3]
        [67, 72, 82]) = false := by
  have intact :
      verify [0x31, 0x32, 0x33, 0x34, 0x35, 0x36, 0x37, 0x38, 0x39, 0x31, 0xc3] = true := by
    decide +kernel
  exact ⟨intact, burst_is_noticed 67 intact (by decide) (by decide) (by decide) (by decide)⟩

/-- Seventeen consecutive bits are one too many. -/
example : verify [0x00, 0x00, 0x00] = true ∧
    verify (flipBits [0x00, 0x00, 0x00] [7, 11, 18, 23]) = true := by decide +kernel

/-! ## Neighbouring bytes -/

/-- Bytes that agree hold no differences. -/
theorem near_of_mem_differences {first second : List UInt8} {place : ℕ}
    (agree : ∀ i, i ≠ place → i ≠ place + 1 → first.getD i 0 = second.getD i 0) {i : ℕ}
    (member : i ∈ differences first second) : 8 * place ≤ i ∧ i < 8 * place + 16 := by
  have differ := (Finset.mem_filter.mp member).2
  by_contra outside
  refine differ ?_
  rw [bitAt, bitAt, agree (i / 8) (by omega) (by omega)]

/-- Two messages that agree but for two neighbouring bytes have one checksum
only if they agree there as well. -/
theorem eq_of_crc_eq_of_neighbours {first second : List UInt8} (place : ℕ)
    (size : first.length = second.length)
    (agree : ∀ i, i ≠ place → i ≠ place + 1 → first.getD i 0 = second.getD i 0)
    (same : crc first = crc second) : first = second :=
  eq_of_crc_eq_of_burst size (fun _ member => near_of_mem_differences agree member) same

end RiceCooker.Checksum
