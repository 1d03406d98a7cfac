import Mathlib.Data.List.Induction
import RiceCooker.Text.Blank
import RiceCooker.Text.Numeral

/-! Which texts are numerals of which numbers. Digits tell a number by their
places, with any number of zeros in front, and a numeral is digits alone or
behind one sign. Reading accepts exactly the numerals, and of those only the
ones whose number fits. -/
namespace RiceCooker.Text

/-- Decimal digits and the number that they tell: the last one counts once, and
each of the others ten times as much as the next. -/
inductive Digits : List Char → Nat → Prop where
  | units (digit : c.isDigit = true) : Digits [c] (c.toNat - 48)
  | tens (front : Digits text n) (digit : c.isDigit = true) :
    Digits (text ++ [c]) (10 * n + (c.toNat - 48))

/-- Digits, or digits behind a sign, and the number that they tell. -/
inductive Numeral : List Char → Int → Prop where
  | bare (digits : Digits text n) : Numeral text n
  | plus (digits : Digits text n) : Numeral ('+' :: text) n
  | minus (digits : Digits text n) : Numeral ('-' :: text) (-n)

/-! ## Digits -/

theorem Digits.isDigit_of_mem (digits : Digits text n) : ∀ c ∈ text, c.isDigit = true := by
  induction digits with
  | units digit =>
    intro c member
    cases List.mem_singleton.mp member
    exact digit
  | tens front digit ih =>
    intro c member
    rcases List.mem_append.mp member with inFront | last
    · exact ih c inFront
    · cases List.mem_singleton.mp last
      exact digit

theorem Digits.exists_cons (digits : Digits text n) :
    ∃ first rest, text = first :: rest ∧ first.isDigit = true := by
  cases shape : text with
  | nil =>
    subst shape
    generalize empty : ([] : List Char) = letters at digits
    cases digits <;> simp at empty
  | cons first rest => exact ⟨first, rest, rfl, digits.isDigit_of_mem first (by simp [shape])⟩

theorem Digits.ofDigitChars_eq (digits : Digits text n) : Nat.ofDigitChars 10 text 0 = n := by
  induction digits with
  | units digit => simp [Nat.ofDigitChars]
  | tens front digit ih =>
    rw [Nat.ofDigitChars_append, ih]
    rfl

/-- Any digits tell the number that reading them in turn adds up to. -/
theorem digits_ofDigitChars (some : text ≠ []) (all : ∀ c ∈ text, c.isDigit = true) :
    Digits text (Nat.ofDigitChars 10 text 0) := by
  induction text using List.reverseRecOn with
  | nil => exact absurd rfl some
  | append_singleton front last ih =>
    have digit : last.isDigit = true := all last (by simp)
    rw [Nat.ofDigitChars_append]
    by_cases alone : front = []
    · subst alone
      simpa [Nat.ofDigitChars] using Digits.units digit
    · exact .tens (ih alone fun c member => all c (by simp [member])) digit

theorem digits?_eq_some_iff : digits? text = some n ↔ Digits text n := by
  rw [digits?, Option.ite_none_right_eq_some, List.all_eq_true, Option.some.injEq]
  constructor
  · rintro ⟨⟨some, all⟩, rfl⟩
    exact digits_ofDigitChars some all
  · intro digits
    obtain ⟨first, rest, shape, _⟩ := digits.exists_cons
    refine ⟨⟨?_, digits.isDigit_of_mem⟩, digits.ofDigitChars_eq⟩
    rw [shape]
    exact List.cons_ne_nil first rest

/-- Zeros in front of digits do not change the number. -/
theorem Digits.zeros (zeros : Nat) (digits : Digits text n) :
    Digits (List.replicate zeros '0' ++ text) n := by
  have none : ∀ count, Digits (List.replicate (count + 1) '0') 0 := by
    intro count
    induction count with
    | zero => exact .units (c := '0') rfl
    | succ count ih =>
      rw [List.replicate_succ']
      exact ih.tens (c := '0') rfl
  induction digits with
  | @units c digit =>
    cases zeros with
    | zero => exact .units digit
    | succ count => simpa using (none count).tens digit
  | tens front digit ih =>
    rw [← List.append_assoc]
    exact ih.tens digit

/-! ## Signs -/

theorem signed?_eq_some_iff : signed? text = some z ↔ Numeral text z := by
  constructor
  · intro read
    unfold signed? at read
    split at read
    · obtain ⟨n, told, rfl⟩ := Option.map_eq_some_iff.mp read
      exact .plus (digits?_eq_some_iff.mp told)
    · obtain ⟨n, told, rfl⟩ := Option.map_eq_some_iff.mp read
      exact .minus (digits?_eq_some_iff.mp told)
    · obtain ⟨n, told, rfl⟩ := Option.map_eq_some_iff.mp read
      exact .bare (digits?_eq_some_iff.mp told)
  · intro numeral
    cases numeral with
    | @bare text n digits =>
      obtain ⟨first, rest, shape, digit⟩ := digits.exists_cons
      unfold signed?
      split
      · cases shape
        cases digit
      · cases shape
        cases digit
      · rw [digits?_eq_some_iff.mpr digits]
        rfl
    | plus digits =>
      rw [signed?, digits?_eq_some_iff.mpr digits]
      rfl
    | minus digits =>
      rw [signed?, digits?_eq_some_iff.mpr digits]
      rfl

/-- **Reading accepts exactly the numerals of the numbers in range.** -/
theorem int64?_eq_some_iff {n : Int64} : int64? text = some n ↔ Numeral text n.toInt := by
  rw [int64?, Option.bind_eq_some_iff]
  constructor
  · rintro ⟨z, read, same⟩
    obtain ⟨fits, stored⟩ := Option.ite_none_right_eq_some.mp same
    cases stored
    rw [toInt_ofInt_of_fits fits]
    exact signed?_eq_some_iff.mp read
  · intro numeral
    refine ⟨n.toInt, signed?_eq_some_iff.mpr numeral, ?_⟩
    rw [if_pos (fitsInt64_toInt n), Int64.ofInt_toInt]

/-- A text is refused when it is no numeral, or the numeral of a number that is
out of range. -/
theorem int64?_eq_none_iff : int64? text = none ↔
    ¬∃ z : Int, Numeral text z ∧ -9223372036854775808 ≤ z ∧ z ≤ 9223372036854775807 := by
  constructor
  · rintro refused ⟨z, numeral, least, greatest⟩
    have fits : FitsInt64 z := ⟨least, greatest⟩
    rw [← toInt_ofInt_of_fits fits, ← int64?_eq_some_iff, refused] at numeral
    cases numeral
  · intro none
    apply Option.eq_none_iff_forall_ne_some.mpr
    intro n read
    obtain ⟨least, greatest⟩ := fitsInt64_toInt n
    exact none ⟨n.toInt, int64?_eq_some_iff.mp read, least, greatest⟩

theorem numeral_decimal (n : Int64) : Numeral (decimal n).toList n.toInt :=
  signed?_eq_some_iff.mp (signed?_toString n.toInt)

theorem numeral_toString (n : Nat) : Numeral (toString n).toList n :=
  signed?_eq_some_iff.mp (signed?_toString (Int.ofNat n))

/-! ## Without a minus -/

/-- Digits, or digits behind a plus, and the number that they tell. -/
inductive Unsigned : List Char → Nat → Prop where
  | bare (digits : Digits text n) : Unsigned text n
  | plus (digits : Digits text n) : Unsigned ('+' :: text) n

/-- Reading accepts exactly the numerals of the numbers up to the bound. -/
theorem unsigned?_eq_some_iff {bound : Nat} :
    unsigned? bound text = some n ↔ Unsigned text n ∧ n ≤ bound := by
  simp only [unsigned?, Option.filter_eq_some_iff, decide_eq_true_eq]
  refine and_congr_left fun _ => ⟨fun read => ?_, fun numeral => ?_⟩
  · split at read
    · exact .plus (digits?_eq_some_iff.mp read)
    · exact .bare (digits?_eq_some_iff.mp read)
  · cases numeral with
    | bare digits =>
      obtain ⟨first, rest, shape, digit⟩ := digits.exists_cons
      split
      · cases shape
        cases digit
      · exact digits?_eq_some_iff.mpr digits
    | plus digits => exact digits?_eq_some_iff.mpr digits

/-- A type of numbers up to the bound is told by the numerals of those numbers. -/
theorem map_unsigned?_eq_some_iff {α : Type} {bound : Nat} {ofNat : Nat → α} {toNat : α → Nat}
    (fits : ∀ a, toNat a ≤ bound) (stored : ∀ a, ofNat (toNat a) = a)
    (told : ∀ n ≤ bound, toNat (ofNat n) = n) {a : α} :
    (unsigned? bound text).map ofNat = some a ↔ Unsigned text (toNat a) := by
  rw [Option.map_eq_some_iff]
  constructor
  · rintro ⟨n, read, rfl⟩
    obtain ⟨numeral, small⟩ := unsigned?_eq_some_iff.mp read
    rwa [told n small]
  · intro numeral
    exact ⟨toNat a, unsigned?_eq_some_iff.mpr ⟨numeral, fits a⟩, stored a⟩

/-! ## Zeros and blanks -/

private theorem isBlank_of_isDigit (digit : c.isDigit = true) : isBlank c = false := by
  obtain ⟨above, below⟩ := Char.isDigit_iff_toNat.mp digit
  have least : 48 ≤ c.toNat := above
  have greatest : c.toNat ≤ 57 := below
  apply Bool.eq_false_iff.mpr
  rw [Ne, isBlank_ascii c (by omega)]
  omega

/-- There is no blank inside a numeral. -/
theorem Numeral.isBlank_of_mem (numeral : Numeral text z) : ∀ c ∈ text, isBlank c = false := by
  cases numeral with
  | bare digits => exact fun c member => isBlank_of_isDigit (digits.isDigit_of_mem c member)
  | plus digits =>
    rintro c (_ | ⟨_, member⟩)
    · decide
    · exact isBlank_of_isDigit (digits.isDigit_of_mem c member)
  | minus digits =>
    rintro c (_ | ⟨_, member⟩)
    · decide
    · exact isBlank_of_isDigit (digits.isDigit_of_mem c member)

/-- The text with zeros in front of its first digit. -/
def insertZeros (zeros : Nat) (text : List Char) : List Char :=
  text.takeWhile (fun c => !c.isDigit) ++ List.replicate zeros '0' ++
    text.dropWhile (fun c => !c.isDigit)

private theorem insertZeros_of_digits (zeros : Nat) (digits : Digits text n) :
    insertZeros zeros text = List.replicate zeros '0' ++ text := by
  obtain ⟨first, rest, rfl, digit⟩ := digits.exists_cons
  simp [insertZeros, digit]

private theorem insertZeros_cons (zeros : Nat) (other : c.isDigit = false) (text : List Char) :
    insertZeros zeros (c :: text) = c :: insertZeros zeros text := by
  simp [insertZeros, other]

theorem Numeral.insertZeros (zeros : Nat) (numeral : Numeral text z) :
    Numeral (insertZeros zeros text) z := by
  cases numeral with
  | bare digits =>
    rw [insertZeros_of_digits zeros digits]
    exact .bare (digits.zeros zeros)
  | plus digits =>
    rw [insertZeros_cons zeros rfl, insertZeros_of_digits zeros digits]
    exact .plus (digits.zeros zeros)
  | minus digits =>
    rw [insertZeros_cons zeros rfl, insertZeros_of_digits zeros digits]
    exact .minus (digits.zeros zeros)

end RiceCooker.Text
