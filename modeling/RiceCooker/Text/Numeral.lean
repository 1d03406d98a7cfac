/-! Truth values and decimal numerals as text. An unsigned numeral is an
optional plus and one or more digits; a signed one may also carry a minus.
Leading zeros are allowed, blanks and separators are not, and a value outside
the wanted range is no numeral at all. -/
namespace RiceCooker.Text

/-! ## Truth values -/

/-- A truth value as it is shown. -/
def truth (value : Bool) : String := if value then "true" else "false"

/-- Different truth values are shown differently. -/
theorem truth_inj {first second : Bool} : truth first = truth second ↔ first = second := by
  cases first <;> cases second <;> decide

/-! ## Digits -/

/-- The value of a text of one or more decimal digits. -/
def digits? (text : List Char) : Option Nat :=
  if text ≠ [] ∧ text.all Char.isDigit then some (Nat.ofDigitChars 10 text 0) else none

/-- The digits of a number read back as that number. -/
theorem digits?_toDigits (n : Nat) : digits? (Nat.toDigits 10 n) = some n := by
  have allDigits : (Nat.toDigits 10 n).all Char.isDigit = true := by
    rw [List.all_eq_true]
    intro c member
    exact Nat.isDigit_of_mem_toDigits (by decide) (by decide) member
  rw [digits?, if_pos ⟨Nat.toDigits_ne_nil, allDigits⟩, Nat.ofDigitChars_ten_toDigits]

/-! ## Unsigned numerals -/

/-- The value of an unsigned numeral that is at most `bound`. -/
def unsigned? (bound : Nat) (text : List Char) : Option Nat :=
  let magnitude := match text with
    | '+' :: rest => digits? rest
    | _ => digits? text
  magnitude.filter (· ≤ bound)

/-! ## Signed numerals -/

/-- The value of a signed numeral, of any size. -/
def signed? (text : List Char) : Option Int :=
  match text with
  | '+' :: rest => (digits? rest).map Int.ofNat
  | '-' :: rest => (digits? rest).map fun n => -Int.ofNat n
  | _ => (digits? text).map Int.ofNat

/-- Whether a number fits in sixty-four bits with sign. -/
def FitsInt64 (n : Int) : Prop := Int64.minValue.toInt ≤ n ∧ n ≤ Int64.maxValue.toInt

instance (n : Int) : Decidable (FitsInt64 n) := inferInstanceAs (Decidable (_ ∧ _))

theorem fitsInt64_toInt (n : Int64) : FitsInt64 n.toInt := by
  have least := Int64.le_toInt n
  have greatest := Int64.toInt_lt n
  rw [FitsInt64, Int64.toInt_minValue, Int64.toInt_maxValue]
  exact ⟨least, by omega⟩

theorem toInt_ofInt_of_fits {n : Int} (fits : FitsInt64 n) : (Int64.ofInt n).toInt = n := by
  rw [FitsInt64, Int64.toInt_minValue, Int64.toInt_maxValue] at fits
  exact Int64.toInt_ofInt_of_le fits.1 (by omega)

/-- The value of a signed numeral that fits in sixty-four bits. -/
def int64? (text : List Char) : Option Int64 :=
  (signed? text).bind fun n => if FitsInt64 n then some (Int64.ofInt n) else none

/-- A number in decimal, with a minus in front of a negative one. -/
def decimal (n : Int64) : String := toString n.toInt

/-! ## Reading what was written -/

private theorem toDigits_head (n : Nat) :
    ∃ first rest, Nat.toDigits 10 n = first :: rest ∧ first.isDigit = true := by
  cases shape : Nat.toDigits 10 n with
  | nil => exact absurd shape Nat.toDigits_ne_nil
  | cons first rest =>
    refine ⟨first, rest, rfl, ?_⟩
    exact Nat.isDigit_of_mem_toDigits (by decide) (by decide) (shape ▸ List.mem_cons_self)

/-- A number in decimal is the signed numeral of that number. -/
theorem signed?_toString (n : Int) : signed? (toString n).toList = some n := by
  cases n with
  | ofNat n =>
    have written : (toString (Int.ofNat n)).toList = Nat.toDigits 10 n := by
      simp [toString, Int.repr, Nat.repr_eq_ofList_toDigits]
    obtain ⟨first, rest, shape, digit⟩ := toDigits_head n
    have read := digits?_toDigits n
    rw [written, shape] at *
    unfold signed?
    split
    · rename_i same
      cases same
      simp at digit
    · rename_i same
      cases same
      simp at digit
    · rw [read]
      rfl
  | negSucc n =>
    have written : (toString (Int.negSucc n)).toList = '-' :: Nat.toDigits 10 (n + 1) := by
      simp [toString, Int.repr, Nat.repr_eq_ofList_toDigits]
    rw [written]
    simp only [signed?, digits?_toDigits]
    rfl

end RiceCooker.Text
