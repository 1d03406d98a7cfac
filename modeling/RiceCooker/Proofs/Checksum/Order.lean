import Mathlib.GroupTheory.OrderOfElement
import Mathlib.Tactic.NormNum.Prime
import RiceCooker.Proofs.Checksum.Residue

/-! The powers of `x` modulo the generator. They return to one after exactly
32767 steps, which is found without taking those steps: powers are computed by
squaring, and only the four that decide the order are looked at. -/
namespace RiceCooker.Checksum
open Polynomial

/-! ## Multiplying registers -/

/-- The product of two residues: the left one is added for each bit of the
right one, and shifted for each bit behind that. -/
def product (left right : Register) : Register :=
  (registerBits right).foldl (fun sum bit => shift sum ^^^ if bit then left else 0#16) 0#16

private theorem residue_foldl_product (factor : Register) (message : List Bool) (sum : Register) :
    residue (ofRegister
        (message.foldl (fun sum bit => shift sum ^^^ if bit then factor else 0#16) sum)) =
      residue X ^ message.length * residue (ofRegister sum) +
        residue (ofRegister factor) * residue (ofBits message) := by
  induction message generalizing sum with
  | nil => simp [ofBits]
  | cons bit rest ih =>
    have added : ofRegister (if bit then factor else 0#16) =
        C (coefficient bit) * ofRegister factor := by
      cases bit <;> simp [coefficient]
    rw [List.foldl_cons, ih, ofRegister_xor, added, map_add, residue_ofRegister_shift, ofBits,
      List.length_cons]
    simp only [map_add, map_mul, map_pow]
    ring

theorem residue_product (left right : Register) :
    residue (ofRegister (product left right)) =
      residue (ofRegister left) * residue (ofRegister right) := by
  rw [product, residue_foldl_product, ofRegister_zero, map_zero, mul_zero, zero_add,
    ofBits_registerBits]

/-! ## Powers -/

/-- A power of `x` whose exponent has at most so many binary digits. -/
def power : (digits exponent : ℕ) → Register
  | 0, _ => 1#16
  | digits + 1, exponent =>
    let square := product (power digits (exponent / 2)) (power digits (exponent / 2))
    if exponent % 2 = 1 then shift square else square

theorem residue_ofRegister_one : residue (ofRegister 1#16) = 1 := by
  have one : ofRegister 1#16 = 1 := by
    simp [ofRegister, coefficient]
  rw [one, map_one]

theorem residue_power (digits exponent : ℕ) (enough : exponent < 2 ^ digits) :
    residue (ofRegister (power digits exponent)) = residue X ^ exponent := by
  induction digits generalizing exponent with
  | zero =>
    have zero : exponent = 0 := by omega
    rw [zero, pow_zero, power, residue_ofRegister_one]
  | succ digits ih =>
    have half := ih (exponent / 2) (by omega)
    simp only [power]
    split
    · rename_i odd
      have whole : exponent = exponent / 2 + exponent / 2 + 1 := by omega
      rw [residue_ofRegister_shift, residue_product, half, ← pow_add, ← pow_succ', ← whole]
    · have whole : exponent = exponent / 2 + exponent / 2 := by omega
      rw [residue_product, half, ← pow_add, ← whole]

theorem residue_X_pow_eq_one_iff (digits exponent : ℕ) (enough : exponent < 2 ^ digits) :
    residue X ^ exponent = 1 ↔ power digits exponent = 1#16 := by
  rw [← residue_power digits exponent enough, ← residue_ofRegister_one, residue_ofRegister_inj]

/-! ## The order -/

/-- Without one of its three prime factors, 32767 is not a period. -/
theorem orderOf_residue_X : orderOf (residue X) = 32767 := by
  have period : residue X ^ 32767 = 1 :=
    (residue_X_pow_eq_one_iff 15 32767 (by norm_num)).mpr (by decide +kernel)
  have shorter : ∀ p ∈ [7, 31, 151], power 15 (32767 / p) ≠ 1#16 := by decide +kernel
  apply orderOf_eq_of_pow_and_pow_div_prime (by norm_num) period
  intro p prime divides
  have member : p ∈ [7, 31, 151] := by
    have factors : 32767 = 7 * 31 * 151 := by norm_num
    have seven : Nat.Prime 7 := by norm_num
    have thirtyOne : Nat.Prime 31 := by norm_num
    have last : Nat.Prime 151 := by norm_num
    rw [factors, prime.dvd_mul, prime.dvd_mul, Nat.prime_dvd_prime_iff_eq prime seven,
      Nat.prime_dvd_prime_iff_eq prime thirtyOne, Nat.prime_dvd_prime_iff_eq prime last] at divides
    rcases divides with (rfl | rfl) | rfl
    · exact .head _
    · exact .tail _ (.head _)
    · exact .tail _ (.tail _ (.head _))
  have small : 32767 / p < 2 ^ 15 := (Nat.div_le_self 32767 p).trans_lt (by norm_num)
  rw [Ne, residue_X_pow_eq_one_iff 15 (32767 / p) small]
  exact shorter p member

/-- Two powers of `x` that lie closer than the order have different residues. -/
theorem not_dvd_X_pow_add_X_pow {i j : ℕ} (apart : i < j) (near : j - i < 32767) :
    ¬generatorPolynomial ∣ (X ^ i + X ^ j : (ZMod 2)[X]) := by
  intro divides
  have factored : (X ^ i + X ^ j : (ZMod 2)[X]) = X ^ i * (X ^ (j - i) - 1) := by
    rw [CharTwo.sub_eq_add, mul_add, mul_one, ← pow_add, Nat.add_sub_cancel' apart.le, add_comm]
  rw [factored, dvd_X_pow_mul_iff, ← residue_eq_iff, map_pow, map_one] at divides
  have period := orderOf_dvd_of_pow_eq_one divides
  rw [orderOf_residue_X] at period
  have atLeast := Nat.le_of_dvd (by omega) period
  omega

end RiceCooker.Checksum
