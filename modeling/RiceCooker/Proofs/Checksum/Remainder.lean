import RiceCooker.Proofs.Checksum.Damage

/-! The checksum as a remainder. A residue modulo the generator has one
polynomial below the degree of the generator, and the register is that
polynomial; so the checksum is what long division leaves of the message above
sixteen zero bits, and it adds up as remainders do. Since shifting is linear,
the register may take in a byte at a time. -/
namespace RiceCooker.Checksum
open Polynomial

/-- Of the polynomials with one residue, the one below the generator is the
remainder of all of them. -/
theorem eq_modByMonic_of_residue_eq {small polynomial : (ZMod 2)[X]} (below : small.degree < 16)
    (same : residue small = residue polynomial) : small = polynomial %ₘ generatorPolynomial := by
  have reduced : small %ₘ generatorPolynomial = small := by
    rw [modByMonic_eq_self_iff monic_generatorPolynomial, degree_generatorPolynomial]
    exact below
  rw [← reduced]
  exact modByMonic_eq_of_dvd_sub monic_generatorPolynomial (residue_eq_iff.mp same)

theorem ofRegister_crc (message : List UInt8) :
    ofRegister (crc message).toBitVec =
      (ofMessage message * X ^ 16) %ₘ generatorPolynomial := by
  apply eq_modByMonic_of_residue_eq (degree_ofRegister_lt _)
  rw [crc_toBitVec, residue_remainder, ofBits_bits, map_mul, map_pow, mul_comm]

/-! ## Sums of messages -/

/-- The message whose bits tell where two messages differ. -/
def sum (first second : List UInt8) : List UInt8 := List.zipWith (· ^^^ ·) first second

theorem length_sum {first second : List UInt8} (size : first.length = second.length) :
    (sum first second).length = first.length := by
  rw [sum, List.length_zipWith, ← size, Nat.min_self]

theorem bitAt_sum {first second : List UInt8} (size : first.length = second.length) {i : ℕ}
    (inside : i < 8 * first.length) :
    bitAt (sum first second) i = (bitAt first i ^^ bitAt second i) := by
  have inFirst : i / 8 < first.length := by omega
  have inSecond : i / 8 < second.length := by omega
  have inSum : i / 8 < (sum first second).length := by rw [length_sum size]; exact inFirst
  rw [bitAt, bitAt, bitAt, List.getD_eq_getElem _ _ inSum, List.getD_eq_getElem _ _ inFirst,
    List.getD_eq_getElem _ _ inSecond, ← BitVec.getMsbD_xor, ← UInt8.toBitVec_xor]
  simp only [sum, List.getElem_zipWith]

theorem ofMessage_sum {first second : List UInt8} (size : first.length = second.length) :
    ofMessage (sum first second) = ofMessage first + ofMessage second := by
  rw [ofMessage, ofMessage, ofMessage, length_sum size, ← size, ← Finset.sum_add_distrib]
  refine Finset.sum_congr rfl fun i member => ?_
  rw [bitAt_sum size (Finset.mem_range.mp member), coefficient_xor, C_add, add_mul]

/-- Remainders add up, and so do checksums. -/
theorem crc_sum {first second : List UInt8} (size : first.length = second.length) :
    crc (sum first second) = crc first ^^^ crc second := by
  apply UInt16.toBitVec_inj.mp
  apply ofRegister_injective
  rw [UInt16.toBitVec_xor, ofRegister_xor, ofRegister_crc, ofRegister_crc, ofRegister_crc,
    ofMessage_sum size, add_mul, add_modByMonic]

/-! ## Whole bytes -/

/-- Takes in a whole byte: it is added to the upper half of the register, which
is then shifted eight times. -/
def feedByte (register : Register) (byte : UInt8) : Register :=
  shift^[8] (register ^^^ byte.toBitVec.setWidth 16 <<< 8)

theorem iterate_shift_xor (times : ℕ) (left right : Register) :
    shift^[times] (left ^^^ right) = shift^[times] left ^^^ shift^[times] right := by
  induction times generalizing left right with
  | zero => rfl
  | succ times ih =>
    rw [Function.iterate_succ_apply, Function.iterate_succ_apply, Function.iterate_succ_apply,
      shift_xor, ih]

/-- What a register held before some bits only moves on with them. -/
theorem foldl_feed_eq (message : List Bool) (register : Register) :
    message.foldl feed register =
      shift^[message.length] register ^^^ message.foldl feed 0#16 := by
  induction message generalizing register with
  | nil => simp
  | cons bit rest ih =>
    rw [List.foldl_cons, List.foldl_cons, ih, ih (feed 0#16 bit), ← BitVec.xor_assoc,
      List.length_cons, Function.iterate_succ_apply, ← iterate_shift_xor, feed, feed, shift_xor,
      shift_xor, shift_zero, BitVec.zero_xor]

theorem foldl_feed_bitsOfByte (register : Register) (byte : UInt8) :
    (bitsOfByte byte).foldl feed register = feedByte register byte := by
  have alone := BigEndian.forall_byte (P := fun byte => (bitsOfByte byte).foldl feed 0#16 =
    shift^[8] (byte.toBitVec.setWidth 16 <<< 8)) (by decide +kernel) byte
  rw [foldl_feed_eq, length_bitsOfByte, alone, ← iterate_shift_xor, feedByte]

/-- The register may as well take in a byte at a time. -/
theorem remainder_eq_foldl_feedByte (message : List UInt8) :
    remainder message = message.foldl feedByte 0#16 := by
  rw [remainder, bits, List.foldl_flatMap]
  simp only [foldl_feed_bitsOfByte]

/-- **The checksum is the remainder that the generator `x¹⁶ + x¹² + x⁵ + 1`
leaves of the message above sixteen zero bits**, bit `i` the coefficient of
`x ^ i`. It is linear in messages of one size, and it is what a register that
starts at zero holds when it has taken in the message byte by byte. -/
theorem crc_is_the_remainder :
    (∀ message : List UInt8, ofRegister (crc message).toBitVec =
      (ofMessage message * X ^ 16) %ₘ (X ^ 16 + X ^ 12 + X ^ 5 + 1)) ∧
    (∀ first second : List UInt8, first.length = second.length →
      crc (List.zipWith (· ^^^ ·) first second) = crc first ^^^ crc second) ∧
    ∀ message : List UInt8, (crc message).toBitVec = message.foldl feedByte 0#16 :=
  ⟨ofRegister_crc, fun _ _ => crc_sum, remainder_eq_foldl_feedByte⟩

/-- Two messages that differ in their last byte. -/
theorem crc_of_the_last_byte_alone :
    ([0x01, 0x02, 0x03] : List UInt8).length = ([0x01, 0x02, 0x04] : List UInt8).length ∧
      crc [0x00, 0x00, 0x07] = crc [0x01, 0x02, 0x03] ^^^ crc [0x01, 0x02, 0x04] :=
  ⟨rfl, crc_is_the_remainder.2.1 [0x01, 0x02, 0x03] [0x01, 0x02, 0x04] rfl⟩

end RiceCooker.Checksum
