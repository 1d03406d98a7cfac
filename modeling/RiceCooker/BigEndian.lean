/-! Words as bytes, most significant byte first. Splitting a word and joining
its bytes undo each other, so a field of a frame can be read as a number or as
the bytes that carry it. -/
namespace RiceCooker.BigEndian

/-! ## Bytes -/

/-- What holds of all numbers up to 255 holds of every byte. -/
theorem forall_byte {P : UInt8 → Prop} (table : ∀ k : Fin 256, P (UInt8.ofNat k.val))
    (byte : UInt8) : P byte := by
  have entry := table ⟨byte.toNat, byte.toNat_lt⟩
  rwa [UInt8.ofNat_toNat] at entry

/-! ## Sixteen bits -/

/-- The more significant byte of a word. -/
def high (word : UInt16) : UInt8 := UInt8.ofNat (word.toNat / 256)

/-- The less significant byte of a word. -/
def low (word : UInt16) : UInt8 := UInt8.ofNat (word.toNat % 256)

/-- The word whose bytes are these two, the first the more significant. -/
def join (hi lo : UInt8) : UInt16 := UInt16.ofNat (hi.toNat * 256 + lo.toNat)

theorem toNat_high (word : UInt16) : (high word).toNat = word.toNat / 256 := by
  have bound := word.toNat_lt
  simp [high]
  omega

theorem toNat_low (word : UInt16) : (low word).toNat = word.toNat % 256 := by
  simp [low]

theorem toNat_join (hi lo : UInt8) : (join hi lo).toNat = hi.toNat * 256 + lo.toNat := by
  have highBound := hi.toNat_lt
  have lowBound := lo.toNat_lt
  simp [join]
  omega

@[simp] theorem join_high_low (word : UInt16) : join (high word) (low word) = word := by
  apply UInt16.toNat_inj.mp
  rw [toNat_join, toNat_high, toNat_low]
  omega

@[simp] theorem high_join (hi lo : UInt8) : high (join hi lo) = hi := by
  have bound := lo.toNat_lt
  apply UInt8.toNat_inj.mp
  rw [toNat_high, toNat_join]
  omega

@[simp] theorem low_join (hi lo : UInt8) : low (join hi lo) = lo := by
  have bound := lo.toNat_lt
  apply UInt8.toNat_inj.mp
  rw [toNat_low, toNat_join]
  omega

/-- Two bytes of a word, in the order they travel. -/
def bytes (word : UInt16) : List UInt8 := [high word, low word]

@[simp] theorem length_bytes (word : UInt16) : (bytes word).length = 2 := rfl

@[simp] theorem bytes_join (hi lo : UInt8) : bytes (join hi lo) = [hi, lo] := by
  simp [bytes]

theorem bytes_inj {first second : UInt16} : bytes first = bytes second ↔ first = second := by
  refine ⟨fun same => ?_, fun same => same ▸ rfl⟩
  simp only [bytes, List.cons.injEq, and_true] at same
  rw [← join_high_low first, ← join_high_low second, same.1, same.2]

/-! ## Thirty-two bits -/

/-- The more significant half of a double word. -/
def upper (word : UInt32) : UInt16 := UInt16.ofNat (word.toNat / 65536)

/-- The less significant half of a double word. -/
def lower (word : UInt32) : UInt16 := UInt16.ofNat (word.toNat % 65536)

/-- The double word made of these two halves, the first the more significant. -/
def joinHalves (up lo : UInt16) : UInt32 := UInt32.ofNat (up.toNat * 65536 + lo.toNat)

theorem toNat_upper (word : UInt32) : (upper word).toNat = word.toNat / 65536 := by
  have bound := word.toNat_lt
  simp [upper]
  omega

theorem toNat_lower (word : UInt32) : (lower word).toNat = word.toNat % 65536 := by
  simp [lower]

theorem toNat_joinHalves (up lo : UInt16) :
    (joinHalves up lo).toNat = up.toNat * 65536 + lo.toNat := by
  have upperBound := up.toNat_lt
  have lowerBound := lo.toNat_lt
  simp [joinHalves]
  omega

@[simp] theorem joinHalves_upper_lower (word : UInt32) :
    joinHalves (upper word) (lower word) = word := by
  apply UInt32.toNat_inj.mp
  rw [toNat_joinHalves, toNat_upper, toNat_lower]
  omega

@[simp] theorem upper_joinHalves (up lo : UInt16) : upper (joinHalves up lo) = up := by
  have bound := lo.toNat_lt
  apply UInt16.toNat_inj.mp
  rw [toNat_upper, toNat_joinHalves]
  omega

@[simp] theorem lower_joinHalves (up lo : UInt16) : lower (joinHalves up lo) = lo := by
  have bound := lo.toNat_lt
  apply UInt16.toNat_inj.mp
  rw [toNat_lower, toNat_joinHalves]
  omega

end RiceCooker.BigEndian
