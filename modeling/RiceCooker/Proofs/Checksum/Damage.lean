import Mathlib.Data.List.GetD
import RiceCooker.Proofs.Checksum.Residue

/-! Damaged messages. Where two messages of one size differ is a set of
positions, and whether the checksum tells them apart depends on that set alone:
it overlooks the sets whose powers of `x` add up to a multiple of the
generator. -/
namespace RiceCooker.Checksum
open Polynomial

/-! ## Bits by position -/

/-- The bit at a position of a message, counted from the most significant bit
of the first byte. -/
def bitAt (message : List UInt8) (position : ℕ) : Bool :=
  (message.getD (position / 8) 0).toBitVec.getMsbD (position % 8)

/-- The positions where a message differs from another of the same size. -/
def differences (first second : List UInt8) : Finset ℕ :=
  {position ∈ Finset.range (8 * first.length) | bitAt first position ≠ bitAt second position}

/-- The message with the bit at one position inverted. -/
def flipBit (message : List UInt8) (position : ℕ) : List UInt8 :=
  message.modify (position / 8) fun byte => byte ^^^ (0x80 >>> UInt8.ofNat (position % 8))

/-- The message with the bits at some positions inverted, one after the other. -/
def flipBits (message : List UInt8) (positions : List ℕ) : List UInt8 := positions.foldl flipBit message

theorem getElem?_bits (message : List UInt8) (position : ℕ) (inside : position < 8 * message.length) :
    (bits message)[position]? = some (bitAt message position) := by
  induction message generalizing position with
  | nil => simp at inside
  | cons byte rest ih =>
    have split : bits (byte :: rest) = bitsOfByte byte ++ bits rest := rfl
    rw [split]
    by_cases front : position < 8
    · have first : position / 8 = 0 := by omega
      have same : position % 8 = position := by omega
      rw [List.getElem?_append_left (by rw [length_bitsOfByte]; exact front), bitAt, first, same]
      simp [bitsOfByte, front]
    · have back : 8 ≤ position := by omega
      have later : position / 8 = (position - 8) / 8 + 1 := by omega
      have same : position % 8 = (position - 8) % 8 := by omega
      rw [List.getElem?_append_right (by rw [length_bitsOfByte]; exact back), length_bitsOfByte,
        ih (position - 8) (by rw [List.length_cons] at inside; omega), bitAt, bitAt, later, same,
        List.getD_cons_succ]

/-- Messages of one size without a difference are the same. -/
theorem eq_of_differences_eq_empty {first second : List UInt8}
    (size : first.length = second.length) (none : differences first second = ∅) :
    first = second := by
  have agree : ∀ i < 8 * first.length, bitAt first i = bitAt second i := by
    intro i inside
    by_contra differ
    have member : i ∈ differences first second :=
      Finset.mem_filter.mpr ⟨Finset.mem_range.mpr inside, differ⟩
    rw [none] at member
    exact Finset.notMem_empty i member
  apply List.ext_getElem size
  intro i inFirst inSecond
  apply UInt8.toBitVec_inj.mp
  apply BitVec.eq_of_getMsbD_eq
  intro j inside
  have whole : (8 * i + j) / 8 = i := by omega
  have part : (8 * i + j) % 8 = j := by omega
  have bit := agree (8 * i + j) (by omega)
  rw [bitAt, bitAt, whole, part, List.getD_eq_getElem _ _ inFirst,
    List.getD_eq_getElem _ _ inSecond] at bit
  exact bit

/-- The polynomial of a message: its bits are the coefficients, and the first
bit of the first byte has the highest power. -/
noncomputable def ofMessage (message : List UInt8) : (ZMod 2)[X] :=
  ∑ i ∈ Finset.range (8 * message.length),
    C (coefficient (bitAt message i)) * X ^ (8 * message.length - 1 - i)

theorem ofBits_bits (message : List UInt8) : ofBits (bits message) = ofMessage message := by
  rw [ofBits_eq_sum, length_bits, ofMessage]
  refine Finset.sum_congr rfl fun i member => ?_
  rw [getElem?_bits message i (Finset.mem_range.mp member), Option.getD_some]

/-! ## What the checksum sees -/

theorem ofBits_sub_ofBits {first second : List UInt8} (size : first.length = second.length) :
    ofBits (bits first) - ofBits (bits second) =
      ∑ i ∈ differences first second, X ^ (8 * first.length - 1 - i) := by
  rw [CharTwo.sub_eq_add, ofBits_bits, ofBits_bits, ofMessage, ofMessage, ← size,
    ← Finset.sum_add_distrib, differences, Finset.sum_filter]
  refine Finset.sum_congr rfl fun i _ => ?_
  rw [← add_mul, ← C_add, ← coefficient_xor]
  cases bitAt first i <;> cases bitAt second i <;> simp [coefficient]

/-- **Two messages of one size share a checksum exactly when the positions
where they differ add up to a multiple of the generator.** -/
theorem crc_eq_crc_iff_differences {first second : List UInt8}
    (size : first.length = second.length) :
    crc first = crc second ↔
      generatorPolynomial ∣ ∑ i ∈ differences first second, X ^ (8 * first.length - 1 - i) := by
  rw [crc_eq_crc_iff, ofBits_sub_ofBits size]

/-! ## Inverted bits -/

@[simp] theorem length_flipBit (message : List UInt8) (position : ℕ) :
    (flipBit message position).length = message.length := by
  simp [flipBit]

@[simp] theorem length_flipBits (message : List UInt8) (positions : List ℕ) :
    (flipBits message positions).length = message.length := by
  induction positions generalizing message with
  | nil => rfl
  | cons position rest ih => rw [flipBits, List.foldl_cons, ← flipBits, ih, length_flipBit]

theorem bitAt_flipBit (message : List UInt8) {position i : ℕ}
    (inside : i < 8 * message.length) :
    bitAt (flipBit message position) i = (bitAt message i ^^ decide (i = position)) := by
  have table : ∀ r j : Fin 8, ((0x80 : UInt8) >>> UInt8.ofNat r.val).toBitVec.getMsbD j.val =
      decide (j = r) := by decide
  have mask := table ⟨position % 8, by omega⟩ ⟨i % 8, by omega⟩
  have present : i / 8 < message.length := by omega
  have found : message[i / 8]? = some message[i / 8] := List.getElem?_eq_getElem present
  rw [bitAt, bitAt, flipBit, List.getD_eq_getElem?_getD, List.getElem?_modify, found,
    List.getD_eq_getElem _ _ present, Option.map_eq_map, Option.map_some, Option.getD_some]
  by_cases sameByte : position / 8 = i / 8
  · have together : (i % 8 = position % 8) ↔ i = position := by omega
    simp only [Fin.mk.injEq, together] at mask
    rw [if_pos sameByte, UInt8.toBitVec_xor, BitVec.getMsbD_xor, mask]
  · have apart : i ≠ position := fun same => sameByte (by rw [same])
    simp [sameByte, apart]

theorem bitAt_flipBits (message : List UInt8) {positions : List ℕ} (distinct : positions.Nodup)
    {i : ℕ} (inside : i < 8 * message.length) :
    bitAt (flipBits message positions) i = (bitAt message i ^^ decide (i ∈ positions)) := by
  induction positions generalizing message with
  | nil => simp [flipBits]
  | cons position rest ih =>
    obtain ⟨fresh, distinctRest⟩ := List.nodup_cons.mp distinct
    have later := ih (flipBit message position) distinctRest (by rw [length_flipBit]; exact inside)
    rw [bitAt_flipBit message inside] at later
    rw [flipBits, List.foldl_cons, ← flipBits, later]
    by_cases here : i = position
    · subst i
      simp [fresh]
    · simp [here]

/-- Inverting some bits makes a difference at their positions and nowhere
else. -/
theorem differences_flipBits (message : List UInt8) {positions : List ℕ}
    (distinct : positions.Nodup) (inside : ∀ i ∈ positions, i < 8 * message.length) :
    differences message (flipBits message positions) = positions.toFinset := by
  ext i
  simp only [differences, Finset.mem_filter, Finset.mem_range, List.mem_toFinset]
  constructor
  · rintro ⟨within, differ⟩
    by_contra absent
    rw [bitAt_flipBits message distinct within] at differ
    simp [absent] at differ
  · intro member
    refine ⟨inside i member, ?_⟩
    rw [bitAt_flipBits message distinct (inside i member)]
    simp [member]

/-- Inverting some bits damages a message. -/
theorem ne_flipBits {message : List UInt8} {positions : List ℕ} (distinct : positions.Nodup)
    (inside : ∀ i ∈ positions, i < 8 * message.length) (some : positions ≠ []) :
    message ≠ flipBits message positions := by
  intro same
  have places := differences_flipBits message distinct inside
  rw [← same] at places
  have first := List.mem_toFinset.mpr (List.head_mem some)
  rw [← places] at first
  simp [differences] at first

end RiceCooker.Checksum
