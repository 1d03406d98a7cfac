/-! Blank characters and trimming. A character is blank when it has the
Unicode property White_Space; trimming removes blanks from both ends of a text
and nothing from its inside. -/
namespace RiceCooker.Text

/-! ## Blank characters -/

/-- The blocks of White_Space: first and last code point of each. -/
def blankRanges : List (Nat × Nat) :=
  [(0x9, 0xd), (0x20, 0x20), (0x85, 0x85), (0xa0, 0xa0), (0x1680, 0x1680), (0x2000, 0x200a),
    (0x2028, 0x2029), (0x202f, 0x202f), (0x205f, 0x205f), (0x3000, 0x3000)]

/-- Whether a character is blank. -/
def isBlank (c : Char) : Bool :=
  blankRanges.any fun (first, last) => decide (first ≤ c.toNat) && decide (c.toNat ≤ last)

/-- The blanks of the first 128 characters are the ordinary space and the five
controls from the tab to the carriage return. -/
theorem isBlank_ascii (c : Char) (ascii : c.toNat < 128) :
    isBlank c = true ↔ c.toNat = 32 ∨ (9 ≤ c.toNat ∧ c.toNat ≤ 13) := by
  simp only [isBlank, blankRanges, List.any_cons, List.any_nil, Bool.or_false, Bool.or_eq_true,
    Bool.and_eq_true, decide_eq_true_eq]
  omega

/-! ## Trimming -/

/-- The text without the blanks in front. -/
def trimStart (text : List Char) : List Char := text.dropWhile isBlank

/-- The text without the blanks at the end. -/
def trimEnd (text : List Char) : List Char := (trimStart text.reverse).reverse

/-- The text without the blanks at either end. -/
def trim (text : List Char) : List Char := trimEnd (trimStart text)

/-- A text without blanks is not changed. -/
theorem trim_of_no_blank {text : List Char} (solid : ∀ c ∈ text, isBlank c = false) :
    trim text = text := by
  have kept : ∀ letters : List Char, (∀ c ∈ letters, isBlank c = false) →
      trimStart letters = letters := by
    intro letters
    cases letters with
    | nil => intro _; rfl
    | cons c rest => intro h; simp [trimStart, h c (by simp)]
  rw [trim, kept text solid, trimEnd, kept _ (by simpa using solid), List.reverse_reverse]

/-- Nothing remains of a text of blanks. -/
theorem trimStart_of_blank {text : List Char} (blank : ∀ c ∈ text, isBlank c = true) :
    trimStart text = [] := by
  induction text with
  | nil => rfl
  | cons c rest ih =>
    simpa [trimStart, blank c (by simp)] using ih fun d member => blank d (by simp [member])

/-- Blanks around a text without blanks are what trimming removes. -/
theorem trim_surrounded {before text after : List Char}
    (blankBefore : ∀ c ∈ before, isBlank c = true) (solid : ∀ c ∈ text, isBlank c = false)
    (blankAfter : ∀ c ∈ after, isBlank c = true) :
    trim (before ++ text ++ after) = text := by
  cases text with
  | nil =>
    have dropped : trimStart (before ++ [] ++ after) = [] := by
      apply trimStart_of_blank
      intro c member
      simp only [List.append_nil, List.mem_append] at member
      exact member.elim (blankBefore c) (blankAfter c)
    rw [trim, dropped]
    rfl
  | cons first rest =>
    have front : trimStart (before ++ (first :: rest) ++ after) = first :: rest ++ after := by
      rw [trimStart, List.append_assoc, List.dropWhile_append_of_pos blankBefore]
      simp [solid first (by simp)]
    have back : trimStart (after.reverse ++ (first :: rest).reverse) = (first :: rest).reverse := by
      rw [trimStart, List.dropWhile_append_of_pos (by simpa using blankAfter)]
      rcases List.eq_nil_or_concat (first :: rest) with none | ⟨body, last, shape⟩
      · simp at none
      · have lastSolid : isBlank last = false := solid last (by rw [shape]; simp)
        rw [shape]
        simp [lastSolid]
    rw [trim, front, trimEnd, List.reverse_append, back, List.reverse_reverse]

end RiceCooker.Text
