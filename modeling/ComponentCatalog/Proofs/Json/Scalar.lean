import ComponentCatalog.Json.Decode

/-! # Strings and whole numbers of JSON

A string that is written is read back. Each character is escaped on its own, so what is read behind
its escape is what stands behind it in the text. A whole number that fits into 64 bits is written with
its digits and read back from them, as long as nothing stands behind it that would belong to a number.
-/

namespace ComponentCatalog

namespace Doc

/-! ## Reading one character -/

section

variable (rest : List Char)

private theorem readText_plain {c : Char} (quote : c ≠ '"') (slash : c ≠ '\\')
    (printing : ¬ c.toNat < 32) : readText (c :: rest) = (readText rest).add c := by
  rw [readText.eq_def]
  split <;> grind

private theorem readText_short {c plain : Char} (escape : escaped? c = some plain) :
    readText ('\\' :: c :: rest) = (readText rest).add plain := by
  have short : c ≠ 'u' := by
    rintro rfl
    cases escape
  rw [readText.eq_def]
  split <;> grind

private theorem readText_unit {a b c d : Char} {code : Nat}
    (digits : fourDigits? a b c d = some code) (below : code < 0xD800) :
    readText ('\\' :: 'u' :: a :: b :: c :: d :: rest) =
      (readText rest).add (Char.ofNat code) := by
  rw [readText.eq_def]
  split <;> grind

end

/-- The digits of base sixteen have their values. -/
theorem hexValue?_digitChar {digit : Nat} (below : digit < 16) :
    hexValue? digit.digitChar = some digit := by
  decide +revert

end Doc

namespace Json

open Doc

theorem hexDigit_eq (n : Nat) : hexDigit n = (n % 16).digitChar := by
  rw [hexDigit, Nat.toDigits_of_lt_base (Nat.mod_lt n (by decide))]
  rfl

/-- What is read of an escaped character is that character, in front of the rest. -/
theorem readText_escapeChar (c : Char) (rest : List Char) :
    readText (escapeChar c ++ rest) = (readText rest).add c := by
  have short : ∀ {code : Char}, escaped? code = some c →
      readText ('\\' :: code :: rest) = (readText rest).add c := readText_short rest
  unfold escapeChar
  simp only [beq_iff_eq]
  split
  · next quote => exact short (by rw [quote]; rfl)
  split
  · next slash => exact short (by rw [slash]; rfl)
  split
  · next line => exact short (by rw [line]; rfl)
  split
  · next start => exact short (by rw [start]; rfl)
  split
  · next tab => exact short (by rw [tab]; rfl)
  split
  · next back => exact short (by rw [← Char.ofNat_toNat c, back]; rfl)
  split
  · next page => exact short (by rw [← Char.ofNat_toNat c, page]; rfl)
  split
  · next low =>
    have digits : fourDigits? '0' '0' (hexDigit (c.toNat / 16)) (hexDigit c.toNat) =
        some c.toNat := by
      have zero : hexValue? '0' = some 0 := by decide
      simp only [fourDigits?, hexDigit_eq, zero, hexValue?_digitChar (Nat.mod_lt _ (by decide)),
        Option.pure_def, Option.bind_eq_bind, Option.bind_some, Option.some.injEq]
      omega
    have unit := readText_unit rest digits (by omega)
    rwa [Char.ofNat_toNat] at unit
  · next quote slash _ _ _ _ _ high => exact readText_plain rest quote slash high

theorem readText_flatMap (chars rest : List Char) :
    readText (chars.flatMap escapeChar ++ '"' :: rest) = ⟨chars, none, .ok rest⟩ := by
  induction chars with
  | nil => rw [List.flatMap_nil, List.nil_append, readText]
  | cons c more ih =>
    rw [List.flatMap_cons, List.append_assoc, readText_escapeChar, ih]
    rfl

/-- A string that is written is read back, and what stands behind it is left. -/
theorem readString_quoteText (text : String) (rest : List Char) :
    ∃ quoted, quoteText text ++ rest = '"' :: quoted ∧
      readString quoted = (.string text, some rest) := by
  refine ⟨text.toList.flatMap escapeChar ++ '"' :: rest, by simp [quoteText], ?_⟩
  simp [readString, readText_flatMap]

end Json

/-! ## Whole numbers -/

namespace Doc

/-- Nothing at the start of a text would go on with a number in front of it. -/
def EndsNumber (rest : List Char) : Prop :=
  ∀ c ∈ rest.head?, c.isDigit = false ∧ c ≠ '.' ∧ c ≠ 'e' ∧ c ≠ 'E'

variable {n : Nat} {rest : List Char}

theorem isDigit_of_mem_toDigits {c : Char} (member : c ∈ Nat.toDigits 10 n) : c.isDigit = true :=
  Nat.isDigit_of_mem_toDigits (by decide) (by decide) member

private theorem takeWhile_digits (ends : EndsNumber rest) :
    (Nat.toDigits 10 n ++ rest).takeWhile Char.isDigit = Nat.toDigits 10 n ∧
      (Nat.toDigits 10 n ++ rest).dropWhile Char.isDigit = rest := by
  have each : ∀ c ∈ Nat.toDigits 10 n, c.isDigit = true := fun _ => isDigit_of_mem_toDigits
  rw [List.takeWhile_append_of_pos each, List.dropWhile_append_of_pos each]
  cases rest with
  | nil => simp
  | cons c more => simp [(ends c rfl).1]

/-- Only zero begins with the digit zero. -/
private theorem head?_toDigits (positive : 0 < n) : (Nat.toDigits 10 n).head? ≠ some '0' := by
  have digit : ∀ m < 10, 0 < m → m.digitChar ≠ '0' := by decide
  induction n using Nat.strongRecOn with
  | ind n ih =>
    rw [Nat.toDigits_eq_if (by decide)]
    split
    · next small => simpa using digit n small positive
    · next great =>
      have shorter := ih (n / 10) (by omega) (by omega)
      cases digits : Nat.toDigits 10 (n / 10) with
      | nil => exact absurd digits Nat.toDigits_ne_nil
      | cons c rest => simpa [digits] using shorter

/-- Digits are taken into a number that does not grow too great. -/
private theorem takeDigits_eq {value : Nat} {digits : List Char}
    (fits : Nat.ofDigitChars 10 digits value ≤ greatestWord) :
    takeDigits value digits = (Nat.ofDigitChars 10 digits value, 0) := by
  induction digits generalizing value with
  | nil => rfl
  | cons c rest ih =>
    rw [Nat.ofDigitChars_cons, Nat.mul_comm] at fits ⊢
    have grows : value * 10 + (c.toNat - '0'.toNat) ≤
        Nat.ofDigitChars 10 rest (value * 10 + (c.toNat - '0'.toNat)) := by
      rw [Nat.ofDigitChars_eq_ofDigitChars_zero]
      have one := Nat.one_le_pow rest.length 10 (by decide)
      have more := Nat.le_mul_of_pos_left (value * 10 + (c.toNat - '0'.toNat)) one
      omega
    rw [takeDigits, if_neg (by omega)]
    exact ih fits

/-- The digits of a number are read back as what they stand for. -/
private theorem readNumber_toDigits (negative : Bool) (fits : n ≤ greatestWord)
    (ends : EndsNumber rest) :
    readNumber negative (Nat.toDigits 10 n ++ rest) = (wholeOf negative n, some rest) := by
  obtain ⟨taken, left⟩ := takeWhile_digits (n := n) ends
  have leading : ¬ ((Nat.toDigits 10 n).head? = some '0' ∧ 1 < (Nat.toDigits 10 n).length) := by
    rintro ⟨zero, long⟩
    cases n with
    | zero => simp at long
    | succ n => exact head?_toDigits (Nat.succ_pos n) zero
  have digits : takeDigits 0 (Nat.toDigits 10 n) = (n, 0) := by
    rw [takeDigits_eq (by rwa [Nat.ofDigitChars_ten_toDigits]), Nat.ofDigitChars_ten_toDigits]
  simp only [readNumber, taken, left, digits, List.isEmpty_iff, Nat.toDigits_ne_nil, if_false,
    Bool.and_eq_true, beq_iff_eq, decide_eq_true_eq, leading]
  split
  · exact absurd rfl (ends '.' rfl).2.1
  · exact absurd rfl (ends 'e' rfl).2.2.1
  · exact absurd rfl (ends 'E' rfl).2.2.2
  · simp


/-- A whole number fits into 64 bits, with a sign or without. -/
def FitsWord (n : Int) : Prop := -(Nat.pow 2 63 : Nat) ≤ n ∧ n ≤ greatestWord

private theorem isBlank_digit {c : Char} (digit : c.isDigit = true) : isBlank c = false := by
  cases blank : isBlank c with
  | false => rfl
  | true =>
    simp only [isBlank, Bool.or_eq_true, beq_iff_eq] at blank
    rcases blank with ((rfl | rfl) | rfl) | rfl <;> cases digit

private theorem digits_cons (n : Nat) :
    ∃ c more, Nat.toDigits 10 n = c :: more ∧ c.isDigit = true := by
  cases digits : Nat.toDigits 10 n with
  | nil => exact absurd digits Nat.toDigits_ne_nil
  | cons c more => exact ⟨c, more, rfl, isDigit_of_mem_toDigits (digits ▸ List.mem_cons_self)⟩

/-- A whole number begins with a digit or a sign. -/
theorem numberText_cons (n : Int) :
    ∃ c more, Json.numberText (.whole n) = c :: more ∧ isBlank c = false ∧ c ≠ ']' := by
  rw [Json.numberText, Int.toString_eq_repr, Int.repr_eq_if]
  split
  · obtain ⟨c, more, digits, digit⟩ := digits_cons n.toNat
    refine ⟨c, more, by rw [Nat.toList_repr, digits], isBlank_digit digit, ?_⟩
    rintro rfl
    cases digit
  · exact ⟨'-', Nat.toDigits 10 (-n).toNat, by simp, by decide, by decide⟩

/-- What begins with a digit is read as a number. -/
theorem readValue_digit {c : Char} (digit : c.isDigit = true) (fuel depth : Nat)
    (text : List Char) :
    readValue (fuel + 1) depth (c :: text) = readNumber false (c :: text) := by
  have skipped : skipBlanks (c :: text) = c :: text := by simp [skipBlanks, isBlank_digit digit]
  rw [readValue, skipped]
  split
  case h_9 same =>
    cases same
    rw [if_pos digit]
  all_goals
    next same => cases same <;> cases digit

/-- A whole number that is written is read back. -/
theorem readValue_numberText {n : Int} (fits : FitsWord n) (ends : EndsNumber rest)
    (fuel depth : Nat) :
    readValue (fuel + 1) depth (Json.numberText (.whole n) ++ rest) =
      (.number (.whole n), some rest) := by
  obtain ⟨least, greatest⟩ := fits
  have word : Nat.pow 2 63 ≤ greatestWord := by decide
  rw [Json.numberText, Int.toString_eq_repr, Int.repr_eq_if]
  split
  · next positive =>
    obtain ⟨c, more, digits, digit⟩ := digits_cons n.toNat
    rw [Nat.toList_repr, digits, List.cons_append, readValue_digit digit, ← List.cons_append,
      ← digits, readNumber_toDigits false (by omega) ends]
    simp [wholeOf, Int.toNat_of_nonneg positive]
  · next negative =>
    have small : (-n).toNat ≤ Nat.pow 2 63 := by omega
    rw [String.toList_append, Nat.toList_repr]
    have sign : readValue (fuel + 1) depth ("-".toList ++ Nat.toDigits 10 (-n).toNat ++ rest) =
        readNumber true (Nat.toDigits 10 (-n).toNat ++ rest) := rfl
    rw [sign, readNumber_toDigits true (by omega) ends]
    have zero : ((-n).toNat == 0) = false := by simp; omega
    simp only [wholeOf, zero, Nat.not_lt.mpr small]
    simp
    omega

end Doc

end ComponentCatalog
