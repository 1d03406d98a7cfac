import RiceCooker.Text.Blank
import RiceCooker.Text.Hex

/-! Which texts spell which bytes. Reading accepts exactly the texts that give
two digits of either case to each byte, and the spelling that writing chooses
is the one in lowercase, so a text is determined by its bytes up to case. Any
other text is refused in words: for its length, or for the first character that
is no digit. -/
namespace RiceCooker.Text.Hex

/-- Two digits for each byte, of either case, the more significant first. -/
inductive Spells : List Char → List UInt8 → Prop where
  | nil : Spells [] []
  | pair (first : value? c = some hi) (second : value? d = some lo) (rest : Spells text bytes) :
    Spells (c :: d :: text) (UInt8.ofNat (hi * 16 + lo) :: bytes)

/-- What is wrong with a text that spells no bytes, in words. Of a character that takes several
bytes in UTF-8, the first byte is shown, as the character of that code. -/
inductive Faulty : List Char → String → Prop where
  | oddLength (odd : byteLength text % 2 = 1) : Faulty text "Odd number of digits"
  | badDigit (even : byteLength (front ++ c :: rest) % 2 = 0)
    (digits : ∀ d ∈ front, isDigit d = true) (other : isDigit c = false) :
    Faulty (front ++ c :: rest) ("Invalid character " ++
      Quoted.letter (Char.ofNat (leadByte c).toNat) ++ " at position " ++ toString front.length)

/-! ## Digits -/

/-- A digit is one of the first 128 characters, where everything about it can
be looked up. -/
private theorem ascii_of_value? (digit : value? c = some n) : c.toNat < 128 := by
  have below {last : Char} (bound : c ≤ last) (ascii : last.toNat < 128) : c.toNat < 128 :=
    Nat.lt_of_le_of_lt bound ascii
  unfold value? at digit
  split at digit
  · rename_i decimal
    exact below decimal.2 (by decide)
  · split at digit
    · rename_i small
      exact below small.2 (by decide)
    · split at digit
      · rename_i capital
        exact below capital.2 (by decide)
      · simp at digit

private theorem value?_spec (digit : value? c = some n) :
    n < 16 ∧ c.utf8Size = 1 ∧ isBlank c = false ∧ c.toLower = Nat.digitChar n := by
  have table : ∀ k : Fin 128, (value? (Char.ofNat k.val)).all (fun n =>
      decide (n < 16 ∧ (Char.ofNat k.val).utf8Size = 1 ∧ isBlank (Char.ofNat k.val) = false ∧
        (Char.ofNat k.val).toLower = Nat.digitChar n)) = true := by decide +kernel
  have entry := table ⟨c.toNat, ascii_of_value? digit⟩
  simpa [digit] using entry

/-- Only among the first 128 characters does a character differ from its small
letter. -/
theorem toLower_cases {P : Char → Char → Prop}
    (ascii : ∀ k : Fin 128, P (Char.ofNat k.val) (Char.ofNat k.val).toLower)
    (same : ∀ c, P c c) (c : Char) : P c c.toLower := by
  by_cases capital : c.val ≥ 'A'.val ∧ c.val ≤ 'Z'.val
  · have entry := ascii ⟨c.toNat, Nat.lt_of_le_of_lt capital.2 (by decide)⟩
    rwa [Char.ofNat_toNat] at entry
  · have unchanged : c.toLower = c := dif_neg capital
    rw [unchanged]
    exact same c

/-- Capitals and small letters are digits alike. -/
theorem isDigit_toLower (c : Char) : isDigit c.toLower = isDigit c :=
  toLower_cases (P := fun c small => isDigit small = isDigit c) (by decide +kernel)
    (fun _ => rfl) c

/-- The digit zero is no small letter of anything else. -/
theorem eq_zero_of_toLower (c : Char) : c.toLower = '0' → c = '0' :=
  toLower_cases (P := fun c small => small = '0' → c = '0') (by decide +kernel) (fun _ => id) c

/-! ## Spelling and reading -/

theorem byteLength_of_spells (spelling : Spells text bytes) :
    byteLength text = 2 * bytes.length := by
  induction spelling with
  | nil => rfl
  | pair first second rest ih =>
    obtain ⟨_, firstSize, _⟩ := value?_spec first
    obtain ⟨_, secondSize, _⟩ := value?_spec second
    simp only [byteLength, List.length_cons] at ih ⊢
    omega

private theorem values_of_spells (spelling : Spells text bytes) (position : Nat) :
    (values position text).map pairUp = .ok bytes := by
  induction spelling generalizing position with
  | nil => rfl
  | pair first second rest ih =>
    have tail := ih (position + 1 + 1)
    simp only [values, first, second]
    cases read : values (position + 1 + 1) _ with
    | error fault => simp [read, Except.map] at tail
    | ok numbers =>
      rw [read] at tail
      simp only [Except.map, Except.ok.injEq] at tail ⊢
      rw [pairUp, tail]

/-- A text that was read holds digits only, so its bytes in memory are as many
as its characters. -/
private theorem spells_of_values {position : Nat} {numbers : List Nat} :
    (text : List Char) → values position text = .ok numbers → byteLength text % 2 = 0 →
      Spells text (pairUp numbers)
  | [], read, _ => by
    cases read
    exact .nil
  | [c], read, even => by
    cases digit : value? c with
    | none => simp [values, digit] at read
    | some n =>
      obtain ⟨_, size, _⟩ := value?_spec digit
      simp [byteLength, size] at even
  | c :: d :: rest, read, even => by
    cases first : value? c with
    | none => simp [values, first] at read
    | some hi =>
      cases second : value? d with
      | none => simp [values, first, second, Except.map] at read
      | some lo =>
        obtain ⟨_, firstSize, _⟩ := value?_spec first
        obtain ⟨_, secondSize, _⟩ := value?_spec second
        cases tail : values (position + 1 + 1) rest with
        | error fault => simp [values, first, second, tail, Except.map] at read
        | ok others =>
          simp only [values, first, second, tail, Except.map, Except.ok.injEq] at read
          subst read
          have evenRest : byteLength rest % 2 = 0 := by
            simp only [byteLength] at even
            omega
          exact .pair first second (spells_of_values rest tail evenRest)

/-- **Reading accepts exactly the spellings.** -/
theorem decode_eq_ok_iff : decode text = .ok bytes ↔ Spells text bytes := by
  constructor
  · intro read
    unfold decode at read
    split at read
    · cases read
    · rename_i notOdd
      cases numbers : values 0 text with
      | error fault => simp [numbers, Except.map] at read
      | ok found =>
        rw [numbers] at read
        cases read
        exact spells_of_values text numbers (by omega)
  · intro spelling
    have even : ¬byteLength text % 2 = 1 := by
      rw [byteLength_of_spells spelling]
      omega
    rw [decode, if_neg even, values_of_spells spelling]

private theorem values_of_badDigit {front rest : List Char} {c : Char}
    (digits : ∀ d ∈ front, isDigit d = true) (other : isDigit c = false) (position : Nat) :
    values position (front ++ c :: rest) =
      .error (.badDigit (leadByte c) (position + front.length)) := by
  induction front generalizing position with
  | nil =>
    have none : value? c = none := by simpa [isDigit] using other
    simp only [List.nil_append, values, none, List.length_nil, Nat.add_zero]
  | cons d front ih =>
    obtain ⟨n, digit⟩ := Option.isSome_iff_exists.mp (digits d List.mem_cons_self)
    have later := ih (fun e member => digits e (List.mem_cons_of_mem _ member)) (position + 1)
    rw [List.cons_append, values, digit, later, List.length_cons, Nat.add_right_comm, Nat.add_assoc]
    rfl

private theorem badDigit_of_values {fault : Fault} : (text : List Char) → (position : Nat) →
    values position text = .error fault →
      ∃ front c rest, text = front ++ c :: rest ∧ (∀ d ∈ front, isDigit d = true) ∧
        isDigit c = false ∧ fault = .badDigit (leadByte c) (position + front.length)
  | [], _, refused => by cases refused
  | c :: rest, position, refused => by
    cases digit : value? c with
    | none =>
      simp only [values, digit, Except.error.injEq] at refused
      exact ⟨[], c, rest, rfl, by simp, by simp [isDigit, digit], refused.symm⟩
    | some n =>
      cases later : values (position + 1) rest with
      | ok numbers => simp [values, digit, later, Except.map] at refused
      | error other =>
        simp only [values, digit, later, Except.map, Except.error.injEq] at refused
        subst refused
        obtain ⟨front, d, behind, shape, digits, wrong, place⟩ :=
          badDigit_of_values rest (position + 1) later
        refine ⟨c :: front, d, behind, by rw [shape, List.cons_append], ?_, wrong, ?_⟩
        · simpa [isDigit, digit] using digits
        · rw [place, List.length_cons, Nat.add_right_comm, Nat.add_assoc]

/-- **Reading refuses exactly the faulty texts, and says what is wrong.** -/
theorem faulty_iff {message : String} :
    Faulty text message ↔ ∃ fault, decode text = .error fault ∧ fault.message = message := by
  constructor
  · intro faulty
    cases faulty with
    | oddLength odd => exact ⟨.oddLength, if_pos odd, rfl⟩
    | @badDigit front c rest even digits other =>
      refine ⟨.badDigit (leadByte c) front.length, ?_, rfl⟩
      rw [decode, if_neg (by omega), values_of_badDigit digits other, Nat.zero_add]
      rfl
  · rintro ⟨fault, refused, rfl⟩
    unfold decode at refused
    split at refused
    · rename_i odd
      cases refused
      exact .oddLength odd
    · rename_i notOdd
      cases found : values 0 text with
      | ok numbers => simp [found, Except.map] at refused
      | error other =>
        simp only [found, Except.map, Except.error.injEq] at refused
        subst refused
        obtain ⟨front, c, rest, rfl, digits, wrong, rfl⟩ := badDigit_of_values text 0 found
        rw [Nat.zero_add]
        exact .badDigit (by omega) digits wrong

/-- A text is faulty exactly if it spells nothing. -/
theorem exists_faulty_iff : (∃ message, Faulty text message) ↔ ¬∃ bytes, Spells text bytes := by
  simp only [faulty_iff, ← decode_eq_ok_iff]
  cases decode text with
  | error fault => exact iff_of_true ⟨_, fault, rfl, rfl⟩ (by simp)
  | ok bytes => exact iff_of_false (by simp) (not_not_intro ⟨bytes, rfl⟩)

theorem Spells.unique (first : Spells text bytes) (second : Spells text others) :
    bytes = others := by
  have read := decode_eq_ok_iff.mpr first
  rw [decode_eq_ok_iff.mpr second] at read
  exact (Except.ok.inj read).symm

/-- The texts that spell anything are the even-length strings of digits. -/
theorem exists_spells_iff : (text : List Char) →
    ((∃ bytes, Spells text bytes) ↔ text.length % 2 = 0 ∧ ∀ c ∈ text, isDigit c = true)
  | [] => ⟨fun _ => by simp, fun _ => ⟨[], .nil⟩⟩
  | [c] => by
    constructor
    · rintro ⟨bytes, spelling⟩
      cases spelling
    · rintro ⟨even, _⟩
      simp at even
  | c :: d :: rest => by
    have tail := exists_spells_iff rest
    constructor
    · rintro ⟨bytes, spelling⟩
      cases spelling with
      | pair first second inner =>
        obtain ⟨even, digits⟩ := tail.mp ⟨_, inner⟩
        refine ⟨by simp only [List.length_cons]; omega, ?_⟩
        intro e member
        rcases List.mem_cons.mp member with rfl | member
        · simp [isDigit, first]
        · rcases List.mem_cons.mp member with rfl | member
          · simp [isDigit, second]
          · exact digits e member
    · rintro ⟨even, digits⟩
      obtain ⟨hi, first⟩ := Option.isSome_iff_exists.mp (digits c (by simp))
      obtain ⟨lo, second⟩ := Option.isSome_iff_exists.mp (digits d (by simp))
      have inner : rest.length % 2 = 0 ∧ ∀ e ∈ rest, isDigit e = true :=
        ⟨by simp only [List.length_cons] at even; omega, fun e member => digits e (by simp [member])⟩
      obtain ⟨bytes, spelling⟩ := tail.mpr inner
      exact ⟨_, .pair first second spelling⟩

/-! ## The spelling that is written -/

/-- Writing what was read changes nothing but the case of the digits. -/
theorem Spells.toLower_eq_encode (spelling : Spells text bytes) :
    text.map Char.toLower = encode bytes := by
  induction spelling with
  | nil => rfl
  | @pair c hi d lo text bytes first second rest ih =>
    obtain ⟨hiSmall, _, _, firstLower⟩ := value?_spec first
    obtain ⟨loSmall, _, _, secondLower⟩ := value?_spec second
    have number : (UInt8.ofNat (hi * 16 + lo)).toNat = hi * 16 + lo := by
      simp
      omega
    have hiDigit : (hi * 16 + lo) / 16 = hi := by omega
    have loDigit : (hi * 16 + lo) % 16 = lo := by omega
    simp only [encode] at ih
    simp only [List.map_cons, ih, firstLower, secondLower, encode, List.flatMap_cons, encodeByte,
      number, hiDigit, loDigit, List.cons_append, List.nil_append]

/-- The number of bytes is counted as a text counts its own. -/
theorem utf8ByteSize_eq_byteLength (text : String) :
    text.utf8ByteSize = byteLength text.toList := by
  have general : ∀ letters : List Char, letters.utf8Encode.size = byteLength letters := by
    intro letters
    induction letters with
    | nil => rfl
    | cons c rest ih =>
      rw [List.utf8Encode_cons, List.utf8Encode_singleton, ByteArray.size_append,
        List.size_toByteArray, String.length_utf8EncodeChar, ih, byteLength]
  rw [String.utf8ByteSize, ← String.utf8Encode_toList, general]

theorem spells_encode (bytes : List UInt8) : Spells (encode bytes) bytes :=
  decode_eq_ok_iff.mp (decode_encode bytes)

theorem encode_injective : Function.Injective encode := by
  intro first second same
  exact (spells_encode first).unique (same ▸ spells_encode second)

/-- The case of the digits does not matter. -/
theorem spells_map_toLower_iff : Spells (text.map Char.toLower) bytes ↔ Spells text bytes := by
  constructor
  · intro lowered
    obtain ⟨even, digits⟩ := (exists_spells_iff _).mp ⟨bytes, lowered⟩
    have sameDigits : ∀ c ∈ text, isDigit c = true := fun c member =>
      isDigit_toLower c ▸ digits _ (List.mem_map_of_mem member)
    obtain ⟨others, spelling⟩ :=
      (exists_spells_iff text).mpr ⟨by rwa [List.length_map] at even, sameDigits⟩
    rw [spelling.toLower_eq_encode] at lowered
    rwa [lowered.unique (spells_encode others)]
  · intro spelling
    rw [spelling.toLower_eq_encode]
    exact spells_encode bytes

/-- There is nothing to trim around written bytes. -/
@[simp] theorem trim_encode (bytes : List UInt8) : trim (encode bytes) = encode bytes := by
  apply trim_of_no_blank
  intro c member
  obtain ⟨_, digits⟩ := (exists_spells_iff _).mp ⟨bytes, spells_encode bytes⟩
  obtain ⟨n, digit⟩ := Option.isSome_iff_exists.mp (digits c member)
  obtain ⟨_, _, solid, _⟩ := value?_spec digit
  exact solid

end RiceCooker.Text.Hex
