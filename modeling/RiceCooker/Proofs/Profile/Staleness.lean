import RiceCooker.Proofs.Checksum.Burst
import RiceCooker.Proofs.Profile.Session

/-! Whether a stored checksum is still right. A setting writes at most two
neighbouring bytes, and the checksum tells all contents of two neighbouring
bytes apart, so after a single setting the stored checksum is right exactly
when nothing was changed. -/
namespace RiceCooker.Profile

theorem Payload.crc_written_eq_iff (p : Payload) (setting : Setting) :
    Checksum.crc (p.written setting).bytes = Checksum.crc p.bytes ↔
      (p.written setting).bytes = p.bytes := by
  refine ⟨?_, fun same => by rw [same]⟩
  have size : (p.written setting).bytes.length = p.bytes.length := rfl
  apply Checksum.eq_of_crc_eq_of_neighbours setting.place size
  intro i notFirst notSecond
  exact p.getD_bytes_written setting notFirst notSecond

/-- **After one setting, a checksum that was right is right exactly when the
payload is what it was**, byte for byte. -/
theorem isValid_after_setting_iff (p : Profile) (setting : Setting) (valid : p.isValid = true) :
    (p.step (.set setting)).2.isValid = true ↔
      (p.step (.set setting)).2.payload.bytes = p.payload.bytes := by
  have held : p.checksum = Checksum.crc p.payload.bytes := eq_of_beq valid
  rw [isValid, beq_iff_eq, checksum_step p rfl, held, payload_step_set]
  split
  · rw [eq_comm, Payload.crc_written_eq_iff]
  · exact iff_of_true rfl rfl

/-- A new duration is noticed, and the old one is not missed. -/
theorem durations_of_white_rice :
    whiteRice.isValid = true ∧
      (whiteRice.step (.set (.duration 45))).2.isValid = false ∧
      (whiteRice.step (.set (.duration 30))).2.isValid = true := by
  have valid : whiteRice.isValid = true := by decide +kernel
  refine ⟨valid, Bool.eq_false_iff.mpr ?_, (isValid_after_setting_iff _ _ valid).mpr (by decide)⟩
  rw [Ne, isValid_after_setting_iff _ _ valid]
  decide

end RiceCooker.Profile
