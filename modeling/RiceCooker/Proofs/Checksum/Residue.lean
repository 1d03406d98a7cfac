import RiceCooker.Proofs.Checksum.Polynomial

/-! What the register knows of a message: its residue modulo the generator. The
power of `x` that the register multiplies by can be undone, so no two residues
are confused, and a frame leaves nothing exactly when its last two bytes are
the checksum of the bytes in front of them. -/
namespace RiceCooker.Checksum
open Polynomial BigEndian

/-! ## Residues -/

theorem natDegree_generatorPolynomial : generatorPolynomial.natDegree = 16 := by
  unfold generatorPolynomial
  compute_degree!

theorem monic_generatorPolynomial : generatorPolynomial.Monic := by
  unfold generatorPolynomial
  monicity!

theorem degree_generatorPolynomial : generatorPolynomial.degree = 16 := by
  rw [degree_eq_natDegree monic_generatorPolynomial.ne_zero, natDegree_generatorPolynomial]
  rfl

/-- Polynomials up to multiples of the generator. -/
noncomputable def residue : (ZMod 2)[X] →+* AdjoinRoot generatorPolynomial :=
  AdjoinRoot.mk generatorPolynomial

theorem residue_eq_iff {first second : (ZMod 2)[X]} :
    residue first = residue second ↔ generatorPolynomial ∣ first - second :=
  AdjoinRoot.mk_eq_mk

theorem residue_eq_zero_iff {polynomial : (ZMod 2)[X]} :
    residue polynomial = 0 ↔ generatorPolynomial ∣ polynomial :=
  AdjoinRoot.mk_eq_zero

/-- The registers are the polynomials below the generator, one of each residue. -/
theorem residue_ofRegister_inj {left right : Register} :
    residue (ofRegister left) = residue (ofRegister right) ↔ left = right := by
  refine ⟨fun same => ?_, fun same => same ▸ rfl⟩
  have small : (ofRegister left - ofRegister right).degree < generatorPolynomial.degree := by
    rw [degree_generatorPolynomial]
    exact (degree_sub_le _ _).trans_lt
      (max_lt (degree_ofRegister_lt left) (degree_ofRegister_lt right))
  by_contra different
  have left_over := sub_ne_zero.mpr (ofRegister_injective.ne different)
  exact monic_generatorPolynomial.not_dvd_of_degree_lt left_over small (residue_eq_iff.mp same)

theorem residue_ofRegister_shift (register : Register) :
    residue (ofRegister (shift register)) = residue X * residue (ofRegister register) := by
  rw [← map_mul, residue_eq_iff, ofRegister_shift, add_sub_cancel_left]
  exact dvd_mul_left _ _

/-- Multiplying by `x` can be undone, since the generator has a constant term. -/
theorem isUnit_residue_X : IsUnit (residue X) := by
  apply IsUnit.of_mul_eq_one (residue (X ^ 15 + X ^ 11 + X ^ 4))
  have none : residue (X ^ 16 + X ^ 12 + X ^ 5 + 1) = 0 := residue_eq_zero_iff.mpr dvd_rfl
  have twice := congrArg residue (CharTwo.add_self_eq_zero (1 : (ZMod 2)[X]))
  simp only [map_add, map_pow, map_one, map_zero] at none twice ⊢
  linear_combination none - twice

theorem dvd_X_pow_mul_iff (power : ℕ) (polynomial : (ZMod 2)[X]) :
    generatorPolynomial ∣ X ^ power * polynomial ↔ generatorPolynomial ∣ polynomial := by
  rw [← residue_eq_zero_iff, map_mul, map_pow, (isUnit_residue_X.pow power).mul_right_eq_zero,
    residue_eq_zero_iff]

/-! ## Messages -/

/-- What the register holds after some bits: what it held before and the bits,
each moved up by the shifts made since. -/
theorem residue_foldl_feed (message : List Bool) (register : Register) :
    residue (ofRegister (message.foldl feed register)) =
      residue X ^ message.length * residue (ofRegister register) +
        residue X ^ 16 * residue (ofBits message) := by
  induction message generalizing register with
  | nil => simp [ofBits]
  | cons bit rest ih =>
    rw [List.foldl_cons, ih, feed, residue_ofRegister_shift, ofRegister_xor, ofRegister_topBit,
      ofBits, List.length_cons]
    simp only [map_add, map_mul, map_pow]
    ring

/-- The register ends with the message above sixteen zero bits. -/
theorem residue_remainder (message : List UInt8) :
    residue (ofRegister (remainder message)) = residue X ^ 16 * residue (ofBits (bits message)) := by
  simp [remainder, residue_foldl_feed]

theorem crc_toBitVec (message : List UInt8) : (crc message).toBitVec = remainder message := rfl

/-- Messages of any lengths share a checksum exactly when the generator divides
their difference. -/
theorem crc_eq_crc_iff (first second : List UInt8) :
    crc first = crc second ↔ generatorPolynomial ∣ ofBits (bits first) - ofBits (bits second) := by
  rw [← UInt16.toBitVec_inj, crc_toBitVec, crc_toBitVec, ← residue_ofRegister_inj,
    residue_remainder, residue_remainder, (isUnit_residue_X.pow 16).mul_right_inj, residue_eq_iff]

/-- Nothing is left of a message exactly when the generator divides it. -/
theorem crc_eq_zero_iff (message : List UInt8) :
    crc message = 0 ↔ generatorPolynomial ∣ ofBits (bits message) := by
  have empty := crc_eq_crc_iff message []
  simpa [bits, ofBits] using empty

/-! ## Trailers -/

private theorem getMsbD_high (word : UInt16) (inside : i < 8) :
    (high word).toBitVec.getMsbD i = word.toBitVec.getMsbD i := by
  simp only [BitVec.getMsbD_eq_getLsbD, BitVec.getLsbD, UInt8.toNat_toBitVec, toNat_high,
    UInt16.toNat_toBitVec, show 256 = 2 ^ 8 by rfl, Nat.testBit_div_two_pow]
  simp only [inside, show i < 16 by omega, show 8 - 1 - i + 8 = 16 - 1 - i by omega]

private theorem getMsbD_low (word : UInt16) (inside : i < 8) :
    (low word).toBitVec.getMsbD i = word.toBitVec.getMsbD (8 + i) := by
  simp only [BitVec.getMsbD_eq_getLsbD, BitVec.getLsbD, UInt8.toNat_toBitVec, toNat_low,
    UInt16.toNat_toBitVec, show 256 = 2 ^ 8 by rfl, Nat.testBit_mod_two_pow]
  simp only [inside, show 8 + i < 16 by omega, show 16 - 1 - (8 + i) = 8 - 1 - i by omega,
    show 8 - 1 - i < 8 by omega, decide_true, Bool.true_and]

/-- The bits of a register, the highest power first. -/
def registerBits (register : Register) : List Bool :=
  (List.range 16).map fun position => register.getMsbD position

/-- The two bytes of a word carry its bits in their order. -/
theorem bits_bytes (word : UInt16) : bits (bytes word) = registerBits word.toBitVec := by
  have front : bitsOfByte (high word) = (List.range 8).map fun i => word.toBitVec.getMsbD i :=
    List.map_congr_left fun i member => getMsbD_high word (List.mem_range.mp member)
  have back : bitsOfByte (low word) = (List.range 8).map fun i => word.toBitVec.getMsbD (8 + i) :=
    List.map_congr_left fun i member => getMsbD_low word (List.mem_range.mp member)
  rw [bytes, bits, List.flatMap_cons, List.flatMap_cons, List.flatMap_nil, front, back]
  rfl

theorem ofBits_registerBits (register : Register) :
    ofBits (registerBits register) = ofRegister register := by
  rw [ofBits_eq_sum, ofRegister, ← Finset.sum_range_reflect]
  simp only [registerBits, List.length_map, List.length_range]
  refine Finset.sum_congr rfl fun i member => ?_
  have inside : i < 16 := Finset.mem_range.mp member
  have mirrored : 16 - 1 - i < 16 := by omega
  have back : 16 - 1 - (16 - 1 - i) = i := by omega
  simp only [List.getElem?_map, List.getElem?_range mirrored, Option.map_some, Option.getD_some,
    BitVec.getMsbD_eq_getLsbD, mirrored, decide_true, Bool.true_and, back]

/-- **A frame leaves nothing exactly when its trailer is the checksum of the
message in front of it.** -/
theorem crc_append_bytes_eq_zero_iff (message : List UInt8) (word : UInt16) :
    crc (message ++ bytes word) = 0 ↔ crc message = word := by
  have whole : ofBits (bits (message ++ bytes word)) =
      X ^ 16 * ofBits (bits message) + ofRegister word.toBitVec := by
    rw [bits_append, ofBits_append, length_bits, length_bytes, bits_bytes, ofBits_registerBits]
  rw [crc_eq_zero_iff, whole, ← CharTwo.sub_eq_add, ← residue_eq_iff, map_mul, map_pow,
    ← residue_remainder, residue_ofRegister_inj, ← crc_toBitVec, UInt16.toBitVec_inj]

theorem verify_append_bytes (message : List UInt8) (word : UInt16) :
    verify (message ++ bytes word) = true ↔ crc message = word := by
  simp [verify, crc_append_bytes_eq_zero_iff]

theorem verify_append (message : List UInt8) : verify (append message) = true :=
  (verify_append_bytes _ _).mpr rfl

/-- The checksum is the only trailer of two bytes that fits. -/
theorem verify_extension_iff (message : List UInt8) (hi lo : UInt8) :
    verify (message ++ [hi, lo]) = true ↔ message ++ [hi, lo] = append message := by
  rw [← bytes_join, verify_append_bytes, append, List.append_cancel_left_eq, bytes_inj, eq_comm]

theorem two_le_length_of_verify {frame : List UInt8} (intact : verify frame = true) :
    2 ≤ frame.length := by
  simp only [verify, Bool.and_eq_true, decide_eq_true_eq] at intact
  exact intact.1

theorem crc_eq_zero_of_verify {frame : List UInt8} (intact : verify frame = true) :
    crc frame = 0 := by
  simp only [verify, Bool.and_eq_true, beq_iff_eq] at intact
  exact intact.2

end RiceCooker.Checksum
