import Mathlib.Algebra.CharP.Two
import Mathlib.Algebra.Field.ZMod
import Mathlib.RingTheory.AdjoinRoot
import Mathlib.Tactic.ComputeDegree
import Mathlib.Tactic.LinearCombination
import RiceCooker.Checksum

/-! Registers and messages as polynomials over the two-element field. Taking in
a message multiplies what the register holds by a power of `x`, adds the
message above the sixteen lowest powers and drops multiples of the generator.
Two messages therefore have the same checksum exactly when the generator
divides their difference, whatever their lengths. -/
namespace RiceCooker.Checksum
open Polynomial BigEndian

/-! ## Bits as coefficients -/

/-- The coefficient that a bit stands for. -/
def coefficient (bit : Bool) : ZMod 2 := if bit then 1 else 0

theorem coefficient_xor (first second : Bool) :
    coefficient (first ^^ second) = coefficient first + coefficient second := by
  cases first <;> cases second <;> decide

theorem coefficient_inj {first second : Bool} :
    coefficient first = coefficient second ↔ first = second := by
  cases first <;> cases second <;> decide

/-- The polynomial of a register: bit `i` is the coefficient of `x ^ i`. -/
noncomputable def ofRegister (register : Register) : (ZMod 2)[X] :=
  ∑ i ∈ Finset.range 16, C (coefficient (register.getLsbD i)) * X ^ i

/-- The polynomial of a sequence of bits: the first has the highest power. -/
noncomputable def ofBits : List Bool → (ZMod 2)[X]
  | [] => 0
  | bit :: rest => C (coefficient bit) * X ^ rest.length + ofBits rest

/-- The generator `x¹⁶ + x¹² + x⁵ + 1`. -/
noncomputable def generatorPolynomial : (ZMod 2)[X] := X ^ 16 + X ^ 12 + X ^ 5 + 1

/-! ## Sequences of bits -/

theorem ofBits_append (first second : List Bool) :
    ofBits (first ++ second) = X ^ second.length * ofBits first + ofBits second := by
  induction first with
  | nil => simp [ofBits]
  | cons bit rest ih =>
    simp only [List.cons_append, ofBits, ih, List.length_append]
    ring

theorem ofBits_eq_sum (message : List Bool) :
    ofBits message = ∑ i ∈ Finset.range message.length,
      C (coefficient (message[i]?.getD false)) * X ^ (message.length - 1 - i) := by
  induction message with
  | nil => simp [ofBits]
  | cons bit rest ih =>
    rw [ofBits, ih, List.length_cons, Finset.sum_range_succ', add_comm]
    simp [Nat.sub_sub, Nat.add_comm 1]

/-! ## Registers -/

theorem coeff_ofRegister (register : Register) (i : ℕ) :
    (ofRegister register).coeff i = coefficient (register.getLsbD i) := by
  simp only [ofRegister, finsetSum_coeff, coeff_C_mul_X_pow, Finset.sum_ite_eq, Finset.mem_range]
  split
  · rfl
  · rename_i above
    rw [BitVec.getLsbD_of_ge register i (by omega)]
    rfl

theorem ofRegister_injective : Function.Injective ofRegister := by
  intro left right same
  apply BitVec.eq_of_getLsbD_eq
  intro i _
  have agree := congrArg (coeff · i) same
  simpa only [coeff_ofRegister, coefficient_inj] using agree

theorem degree_ofRegister_lt (register : Register) : (ofRegister register).degree < 16 := by
  apply (degree_lt_iff_coeff_zero _ 16).mpr
  intro i above
  rw [coeff_ofRegister, BitVec.getLsbD_of_ge register i above]
  rfl

@[simp] theorem ofRegister_zero : ofRegister 0#16 = 0 := by
  simp [ofRegister, coefficient]

theorem ofRegister_xor (left right : Register) :
    ofRegister (left ^^^ right) = ofRegister left + ofRegister right := by
  ext i
  rw [coeff_add, coeff_ofRegister, coeff_ofRegister, coeff_ofRegister, BitVec.getLsbD_xor,
    coefficient_xor]

/-- A message bit is taken in as the coefficient of `x¹⁵`. -/
theorem ofRegister_topBit (bit : Bool) : ofRegister (topBit bit) = C (coefficient bit) * X ^ 15 := by
  cases bit <;> simp [topBit, ofRegister, coefficient, Finset.sum_range_succ]

/-- The generator without its leading term is what the register keeps of it. -/
theorem X_pow_add_ofRegister_generator :
    X ^ 16 + ofRegister generator = generatorPolynomial := by
  simp [generatorPolynomial, ofRegister, generator, coefficient, Finset.sum_range_succ]
  ring

/-- Moving the bits up by one place multiplies by `x` and loses the term in
`x¹⁶`. -/
theorem ofRegister_shiftLeft (register : Register) :
    ofRegister (register <<< 1) + C (coefficient register.msb) * X ^ 16 =
      X * ofRegister register := by
  have lowest : (register <<< 1).getLsbD 0 = false := by simp
  have moved : ∀ i ∈ Finset.range 15,
      C (coefficient ((register <<< 1).getLsbD (i + 1))) * X ^ (i + 1) =
        X * (C (coefficient (register.getLsbD i)) * X ^ i) := by
    intro i member
    have inside : i + 1 < 16 := by
      have bound := Finset.mem_range.mp member
      omega
    have one : ¬i + 1 < 1 := by omega
    rw [BitVec.getLsbD_shiftLeft]
    simp only [inside, one, decide_true, decide_false, Bool.true_and, Bool.not_false,
      Nat.add_sub_cancel]
    ring
  rw [ofRegister, ofRegister, Finset.sum_range_succ', Finset.sum_congr rfl moved, lowest,
    ← Finset.mul_sum, Finset.sum_range_succ _ 15, BitVec.msb_eq_getLsbD_last]
  simp only [coefficient, Bool.false_eq_true, ↓reduceIte, C_0]
  ring

/-- Shifting multiplies by `x`, up to a multiple of the generator. -/
theorem ofRegister_shift (register : Register) :
    ofRegister (shift register) =
      X * ofRegister register + C (coefficient register.msb) * generatorPolynomial := by
  have carried : ofRegister (if register.msb then generator else 0#16) =
      C (coefficient register.msb) * ofRegister generator := by
    cases register.msb <;> simp [coefficient]
  have cancel := CharTwo.add_self_eq_zero (C (coefficient register.msb) * X ^ 16 : (ZMod 2)[X])
  rw [shift, ofRegister_xor, carried, ← ofRegister_shiftLeft, ← X_pow_add_ofRegister_generator]
  linear_combination -cancel

end RiceCooker.Checksum
