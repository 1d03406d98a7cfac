import Mathlib.Data.ZMod.Basic
import RiceCooker.Proofs.Checksum.Damage
import RiceCooker.Proofs.Checksum.Order

/-! The distance between intact frames. A set of differences that the checksum
overlooks has an even number of members, because `x + 1` divides the generator;
and it has not two, because a power of `x` returns to one only after 32767
steps, which is further than the ends of a frame of 4095 bytes are apart. -/
namespace RiceCooker.Checksum
open Polynomial

private theorem eval_one_generatorPolynomial : generatorPolynomial.eval 1 = 0 := by
  simp only [generatorPolynomial, eval_add, eval_pow, eval_X, eval_one, one_pow]
  decide

/-- Every multiple of the generator has an even number of terms. -/
theorem even_card_of_dvd {positions : Finset ℕ} {exponent : ℕ → ℕ}
    (overlooked : generatorPolynomial ∣ ∑ i ∈ positions, (X ^ exponent i : (ZMod 2)[X])) :
    Even positions.card := by
  have sum := eval_eq_zero_of_dvd_of_eval_eq_zero overlooked eval_one_generatorPolynomial
  simp only [eval_finsetSum, eval_pow, eval_X, one_pow, Finset.sum_const, nsmul_eq_mul,
    mul_one] at sum
  exact (ZMod.natCast_eq_zero_iff_even).mp sum

/-- No two terms within 32767 bits make a multiple of the generator. -/
theorem card_ne_two_of_dvd {positions : Finset ℕ} {size : ℕ} (small : size < 32768)
    (inside : positions ⊆ Finset.range size)
    (overlooked : generatorPolynomial ∣ ∑ i ∈ positions, (X ^ (size - 1 - i) : (ZMod 2)[X])) :
    positions.card ≠ 2 := by
  intro two
  obtain ⟨i, j, differ, rfl⟩ := Finset.card_eq_two.mp two
  have iInside : i < size := Finset.mem_range.mp (inside (by simp))
  have jInside : j < size := Finset.mem_range.mp (inside (by simp))
  rw [Finset.sum_pair differ] at overlooked
  rcases Nat.lt_or_gt_of_ne differ with before | after
  · rw [add_comm] at overlooked
    exact not_dvd_X_pow_add_X_pow (by omega) (by omega) overlooked
  · exact not_dvd_X_pow_add_X_pow (by omega) (by omega) overlooked

/-- **Different messages of one size up to 4095 bytes that share a checksum
differ in at least four bits.** -/
theorem four_le_card_differences {first second : List UInt8}
    (size : first.length = second.length) (small : first.length ≤ 4095) (differ : first ≠ second)
    (same : crc first = crc second) : 4 ≤ (differences first second).card := by
  have overlooked := (crc_eq_crc_iff_differences size).mp same
  have even := even_card_of_dvd overlooked
  have inside : differences first second ⊆ Finset.range (8 * first.length) :=
    Finset.filter_subset _ _
  have notTwo := card_ne_two_of_dvd (by omega) inside overlooked
  have some : (differences first second).card ≠ 0 := by
    intro none
    exact differ (eq_of_differences_eq_empty size (Finset.card_eq_zero.mp none))
  obtain ⟨half, whole⟩ := even
  omega

/-- Intact frames have a checksum in common: nothing is left of any of them. -/
theorem four_le_card_differences_of_verify {first second : List UInt8}
    (size : first.length = second.length) (small : first.length ≤ 4095) (differ : first ≠ second)
    (firstIntact : verify first = true) (secondIntact : verify second = true) :
    4 ≤ (differences first second).card := by
  apply four_le_card_differences size small differ
  rw [crc_eq_zero_of_verify firstIntact, crc_eq_zero_of_verify secondIntact]

/-- The generator itself lies four bits from nothing. -/
example : verify [0x00, 0x00, 0x00] = true ∧ verify [0x01, 0x10, 0x21] = true ∧
    (differences [0x00, 0x00, 0x00] [0x01, 0x10, 0x21]).card = 4 := by decide +kernel

end RiceCooker.Checksum
