import RiceCooker.Proofs.Checksum.Distance
import RiceCooker.Proofs.Profile.Acceptance

/-! Frames damaged on their way. A frame of a profile is far too short for two
intact frames to be three bits apart, so up to three inverted bits are always
reported, wherever they lie, together with what the damaged frame holds. -/
namespace RiceCooker.Profile
open Text Checksum

/-- An intact frame with one to three bits inverted is not intact. -/
theorem verify_flipBits {frame : List UInt8} {positions : List ℕ} (small : frame.length ≤ 4095)
    (intact : verify frame = true) (distinct : positions.Nodup)
    (inside : ∀ i ∈ positions, i < 8 * frame.length) (some : positions ≠ [])
    (few : positions.length ≤ 3) : verify (flipBits frame positions) = false := by
  apply Bool.eq_false_iff.mpr
  intro overlooked
  have differ := ne_flipBits distinct inside some
  have far := four_le_card_differences_of_verify (length_flipBits frame positions).symm small differ
    intact overlooked
  rw [differences_flipBits frame distinct inside, List.toFinset_card_of_nodup distinct] at far
  omega

/-- **Intact frames of one size differ in at least four bits**, so an accepted
frame in which one, two or three bits are inverted is refused for its checksum,
with the checksum of its damaged payload and its damaged trailer. -/
theorem inverted_bits_are_reported :
    (∀ first second : List UInt8, first.length = second.length → 2 ≤ first.length →
      first.length ≤ 4095 → first ≠ second → verify first = true → verify second = true →
      4 ≤ (differences first second).card) ∧
    (∀ frame p, parse (String.ofList (Hex.encode frame)) = .ok p →
      ∀ positions : List ℕ, positions.Nodup → (∀ i ∈ positions, i < 8 * 22) →
        1 ≤ positions.length → positions.length ≤ 3 →
        parse (String.ofList (Hex.encode (flipBits frame positions))) =
          .error (.checksumMismatch (crc (messageOf (flipBits frame positions)))
            (trailerOf (flipBits frame positions)))) := by
  constructor
  · intro first second size _ small differ firstIntact secondIntact
    exact four_le_card_differences_of_verify size small differ firstIntact secondIntact
  · intro frame p accepted positions distinct inside some few
    rw [parse_encode] at accepted ⊢
    obtain ⟨rfl, valid⟩ := ofFrame_eq_ok_iff.mp accepted
    have size : p.frame.length = 22 := length_frame p
    have intact : verify p.frame = true := (verify_frame_iff p).mpr valid
    have broken := verify_flipBits (by omega) intact distinct
      (fun i member => by rw [size]; exact inside i member) (List.length_pos_iff.mp some) few
    have damagedSize : (flipBits p.frame positions).length = 22 := by
      rw [length_flipBits, size]
    have differ : crc (messageOf (flipBits p.frame positions)) ≠
        trailerOf (flipBits p.frame positions) := by
      rw [Ne, ← verify_iff (by omega), broken]
      exact Bool.false_ne_true
    obtain ⟨_, mismatch, _⟩ := ofFrame_verdict (flipBits p.frame positions)
    exact (mismatch _ _).mpr ⟨by omega, differ, rfl, rfl⟩

/-- The generator lies four bits from nothing, which is as near as it gets; and
one bit of the device type, one of the taste and the last of the trailer are
reported. -/
theorem three_inverted_bits_of_white_rice :
    (verify [0x00, 0x00, 0x00] = true ∧ verify [0x01, 0x10, 0x21] = true ∧
        4 ≤ (differences [0x00, 0x00, 0x00] [0x01, 0x10, 0x21]).card) ∧
      parse (String.ofList (Hex.encode whiteRice.frame)) = .ok whiteRice ∧
      parse (String.ofList (Hex.encode (flipBits whiteRice.frame [0, 159, 175]))) =
        .error (.checksumMismatch 0x7a26 0x00fd) := by
  have accepted : parse (String.ofList (Hex.encode whiteRice.frame)) = .ok whiteRice := by
    decide +kernel
  have nothing : verify [0x00, 0x00, 0x00] = true := by decide +kernel
  have generator : verify [0x01, 0x10, 0x21] = true := by decide +kernel
  have far := inverted_bits_are_reported.1 [0x00, 0x00, 0x00] [0x01, 0x10, 0x21] rfl (by decide)
    (by decide) (by decide) nothing generator
  refine ⟨⟨nothing, generator, far⟩, accepted, ?_⟩
  rw [inverted_bits_are_reported.2 _ _ accepted [0, 159, 175] (by decide) (by decide) (by decide)
    (by decide)]
  decide +kernel

end RiceCooker.Profile
