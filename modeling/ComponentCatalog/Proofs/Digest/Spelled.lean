import ComponentCatalog.Proofs.Digest.Fingerprint
import Mathlib.Data.List.Forall2
import Mathlib.Data.Nat.Digits.Defs
import Mathlib.Tactic.Ring

/-! # Which texts are fingerprints

A number of 128 bits is spelled by digits of base sixteen, small or capital, with any number of zeros and
perhaps a plus sign in front. A text is read as a fingerprint just if it spells one. The digits are taken one
by one, and none of them makes the number smaller, so a number that is too great at some digit is too great at
the end. What is printed is one of these texts: 32 small digits.
-/

namespace ComponentCatalog

/-! ## Digits -/

/-- A digit of base sixteen, small or capital, and what it stands for. -/
def Digest.IsDigit (c : Char) (digit : Nat) : Prop := digit < 16 ∧ c.toLower = digit.digitChar

namespace Doc

private theorem hexValue?_great {c : Char} (great : 128 ≤ c.toNat) :
    hexValue? c = none ∧ c.toLower = c := by
  have apart {d : Char} (small : d.toNat < 128) : ¬ c ≤ d := by
    rw [Char.le_def, UInt32.le_iff_toNat_le]
    exact Nat.not_le.mpr (Nat.lt_of_lt_of_le small great)
  have digit : ¬ c.isDigit := by
    simp only [Char.isDigit, Bool.and_eq_true, decide_eq_true_eq]
    exact fun inside => apart (d := '9') (by decide) inside.2
  constructor
  · simp [hexValue?, digit, apart (d := 'f') (by decide), apart (d := 'F') (by decide)]
  · exact dif_neg fun inside => apart (d := 'Z') (by decide) inside.2

/-- What reads digits knows all of them, and nothing else. -/
theorem hexValue?_eq_some_iff {c : Char} {digit : Nat} :
    hexValue? c = some digit ↔ Digest.IsDigit c digit := by
  have table : ∀ n < 128, (∀ digit ∈ hexValue? (Char.ofNat n), digit < 16) ∧ ∀ digit < 16,
      hexValue? (Char.ofNat n) = some digit ↔ (Char.ofNat n).toLower = digit.digitChar := by
    decide +kernel
  by_cases ascii : c.toNat < 128
  · obtain ⟨small, reads⟩ := table c.toNat ascii
    rw [Char.ofNat_toNat] at small reads
    constructor
    · intro read
      have below := small digit read
      exact ⟨below, (reads digit below).mp read⟩
    · rintro ⟨below, same⟩
      exact (reads digit below).mpr same
  · obtain ⟨none, same⟩ := hexValue?_great (Nat.not_lt.mp ascii)
    have small : ∀ digit < 16, digit.digitChar.toNat < 128 := by decide
    rw [none, Digest.IsDigit, same]
    constructor
    · nofun
    · rintro ⟨below, rfl⟩
      exact absurd (small digit below) ascii

end Doc

namespace Fingerprint

/-! ## Reading -/

/-- A text spells a number: with a plus sign or none, and digits behind it, at least one. The last digit
counts once, and each other one sixteen times as much as it would in the place behind it. -/
def Spells (text : String) (value : Nat) : Prop :=
  ∃ chars digits, chars ≠ [] ∧ (text.toList = chars ∨ text.toList = '+' :: chars) ∧
    List.Forall₂ Digest.IsDigit chars digits ∧ Nat.ofDigits 16 digits.reverse = value

/-- Digits are read behind a number if and only if what they make of it has 128 bits. -/
private theorem readDigits_eq_ok_iff {start value : Nat} {chars : List Char} (small : start < bound) :
    readDigits start chars = .ok value ↔ value < bound ∧ ∃ digits,
      List.Forall₂ Digest.IsDigit chars digits ∧
        Nat.ofDigits 16 digits.reverse + 16 ^ digits.length * start = value := by
  induction chars generalizing start with
  | nil =>
    simp only [readDigits, List.forall₂_nil_left_iff]
    constructor
    · intro same
      cases same
      exact ⟨small, [], rfl, by simp⟩
    · rintro ⟨-, digits, rfl, same⟩
      simpa using same
  | cons c rest ih =>
    have next (digit : Nat) (digits : List Nat) : Nat.ofDigits 16 (digit :: digits).reverse +
        16 ^ (digit :: digits).length * start =
          Nat.ofDigits 16 digits.reverse + 16 ^ digits.length * (start * 16 + digit) := by
      rw [List.reverse_cons, Nat.ofDigits_append, Nat.ofDigits_singleton, List.length_reverse,
        List.length_cons, Nat.pow_succ]
      ring
    simp only [List.forall₂_cons_left_iff, ← Doc.hexValue?_eq_some_iff]
    cases found : Doc.hexValue? c with
    | none => simp [readDigits, found]
    | some digit =>
      simp only [readDigits, found, Option.some.injEq]
      split
      · next great =>
        -- The digits behind this one cannot make good that the number is too great here.
        constructor
        · intro same
          cases same
        · rintro ⟨fits, _, ⟨_, digits, rfl, -, rfl⟩, same⟩
          have grows := Nat.le_mul_of_pos_left (start * 16 + digit) (Nat.pow_pos (n := digits.length)
            (show 0 < 16 by decide))
          rw [next] at same
          omega
      · next fits =>
        rw [ih (Nat.not_le.mp fits)]
        constructor
        · rintro ⟨below, digits, others, same⟩
          rw [← next] at same
          exact ⟨below, digit :: digits, ⟨digit, digits, rfl, others, rfl⟩, same⟩
        · rintro ⟨below, _, ⟨_, digits, rfl, others, rfl⟩, same⟩
          rw [next] at same
          exact ⟨below, digits, others, same⟩

/-- A sign is no digit. -/
private theorem not_digits_sign {chars : List Char} {digits : List Nat} {sign : Char}
    (none : Doc.hexValue? sign = none) : ¬ List.Forall₂ Digest.IsDigit (sign :: chars) digits := by
  intro all
  obtain ⟨digit, _, first, -⟩ := List.forall₂_cons_left_iff.mp all
  rw [← Doc.hexValue?_eq_some_iff, none] at first
  cases first

private theorem mk_readDigits_eq_ok_iff {chars : List Char} {value : Nat} :
    Fingerprint.mk <$> readDigits 0 chars = .ok ⟨value⟩ ↔ value < bound ∧ ∃ digits,
      List.Forall₂ Digest.IsDigit chars digits ∧ Nat.ofDigits 16 digits.reverse = value := by
  have zero : 0 < bound := by decide
  have fits : readDigits 0 chars = .ok value ↔ _ := readDigits_eq_ok_iff zero
  simp only [Nat.mul_zero, Nat.add_zero] at fits
  rw [← fits]
  cases readDigits 0 chars with
  | error fault => exact ⟨nofun, nofun⟩
  | ok value => simp [Functor.map, Except.map]

/-- A text is read as a fingerprint if and only if it spells one of 128 bits. -/
theorem ofText_eq_ok_iff {text : String} {value : Nat} :
    ofText text = .ok ⟨value⟩ ↔ value < bound ∧ Spells text value := by
  have plus : Doc.hexValue? '+' = none := by decide
  have minus : Doc.hexValue? '-' = none := by decide
  unfold ofText Spells
  generalize text.toList = all
  split
  · next => simp
  · next =>
    constructor
    · nofun
    · rintro ⟨-, chars, digits, nonempty, rfl | behind, spelled, -⟩
      · exact absurd spelled (not_digits_sign plus)
      · exact absurd (List.cons.inj behind).2.symm nonempty
  · next =>
    constructor
    · nofun
    · rintro ⟨-, chars, digits, nonempty, rfl | behind, spelled, -⟩
      · exact absurd spelled (not_digits_sign minus)
      · cases behind
  · next chars lone =>
    rw [mk_readDigits_eq_ok_iff]
    constructor
    · rintro ⟨below, digits, spelled, same⟩
      exact ⟨below, chars, digits, fun none => lone (none ▸ rfl), .inr rfl, spelled, same⟩
    · rintro ⟨below, chars', digits, nonempty, rfl | behind, spelled, same⟩
      · exact absurd spelled (not_digits_sign plus)
      · exact ⟨below, digits, (List.cons.inj behind).2 ▸ spelled, same⟩
  · next empty lone_plus lone_minus signed =>
    rw [mk_readDigits_eq_ok_iff]
    constructor
    · rintro ⟨below, digits, spelled, same⟩
      exact ⟨below, all, digits, empty, .inl rfl, spelled, same⟩
    · rintro ⟨below, chars, digits, nonempty, rfl | behind, spelled, same⟩
      · exact ⟨below, digits, spelled, same⟩
      · exact absurd behind (signed chars)

/-! ## Printing and reading -/

/-- What is printed are small digits. -/
private theorem mem_digits_of_mem_text {fingerprint : Fingerprint} {c : Char}
    (member : c ∈ fingerprint.text.toList) : c ∈ "0123456789abcdef".toList := by
  have digits : ∀ digit < 16, digit.digitChar ∈ "0123456789abcdef".toList := by decide
  obtain ⟨digit, small, rfl⟩ := Digest.exists_digit_of_mem_hexText member
  exact digits digit small

private theorem decoder_string (text : String) : decoder (.string text) =
    (ofText text).mapError fun fault => .refused fault.message := by
  have read : Doc.asString (.string text) = .ok text := rfl
  rw [decoder, read]
  simp only [bind, Except.bind]
  cases ofText text <;> rfl

/-- A fingerprint of 128 bits is printed as 32 small digits and read back from them. A value is read as a
fingerprint if and only if it is a string that spells it in 128 bits; every other string is refused. -/
theorem decoder_eq_ok_iff_spells :
    (∀ fingerprint : Fingerprint, fingerprint.value < bound →
      fingerprint.text.length = 32 ∧ (∀ c ∈ fingerprint.text.toList, c ∈ "0123456789abcdef".toList) ∧
        ofText fingerprint.text = .ok fingerprint ∧
        Doc.decode decoder fingerprint.toJson.compact = .ok fingerprint) ∧
    (∀ (doc : Doc) (value : Nat), decoder doc = .ok ⟨value⟩ ↔
      ∃ text, doc = .string text ∧ value < bound ∧ Spells text value) ∧
    ∀ text : String, (¬ ∃ value < bound, Spells text value) →
      ∃ fault : Fault, decoder (.string text) = .error (.refused fault.message) := by
  refine ⟨fun fingerprint fits => ⟨?_, fun c => mem_digits_of_mem_text, ofText_text fits, ?_⟩,
    fun doc value => ⟨fun read => ?_, ?_⟩, fun text none => ?_⟩
  · exact Digest.length_hexText (by decide) fits
  · have whole : fingerprint.toJson.Whole := trivial
    rw [Doc.decode_compact whole, decoder_toJson fits]
  · cases doc with
    | string text =>
      rw [decoder_string] at read
      cases taken : ofText text with
      | error fault =>
        rw [taken] at read
        cases read
      | ok fingerprint =>
        rw [taken] at read
        cases read
        exact ⟨text, rfl, ofText_eq_ok_iff.mp taken⟩
    | _ => cases read
  · rintro ⟨text, rfl, spelled⟩
    rw [decoder_string, ofText_eq_ok_iff.mpr spelled]
    rfl
  · rw [decoder_string]
    cases taken : ofText text with
    | error fault => exact ⟨fault, rfl⟩
    | ok fingerprint => exact absurd ⟨fingerprint.value, ofText_eq_ok_iff.mp taken⟩ none

/-- The greatest fingerprint. -/
def greatest : Fingerprint := ⟨bound - 1⟩

/-- It is printed and read back. A sign alone is refused, and so is the number behind it, whatever zeros stand
in front of that. -/
theorem decoder_eq_ok_iff_spells_greatest :
    (greatest.value < bound ∧ greatest.text.length = 32 ∧
      (∀ c ∈ greatest.text.toList, c ∈ "0123456789abcdef".toList) ∧ ofText greatest.text = .ok greatest ∧
      Doc.decode decoder greatest.toJson.compact = .ok greatest) ∧
    ∀ text ∈ ["+", "-0", "+0100000000000000000000000000000000"],
      (¬ ∃ value < bound, Spells text value) ∧
        ∃ fault : Fault, decoder (.string text) = .error (.refused fault.message) := by
  have fits : greatest.value < bound := by decide
  have refused : ∀ text ∈ ["+", "-0", "+0100000000000000000000000000000000"],
      (ofText text).toOption = none := by decide +kernel
  refine ⟨⟨fits, decoder_eq_ok_iff_spells.1 greatest fits⟩, fun text among => ?_⟩
  have none : ¬ ∃ value < bound, Spells text value := by
    rintro ⟨value, spelled⟩
    have taken := refused text among
    rw [ofText_eq_ok_iff.mpr spelled] at taken
    cases taken
  exact ⟨none, decoder_eq_ok_iff_spells.2.2 text none⟩

end Fingerprint

end ComponentCatalog
