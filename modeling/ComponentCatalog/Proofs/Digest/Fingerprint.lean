import ComponentCatalog.Digest.Fingerprint
import ComponentCatalog.Proofs.Json.Decode
import Mathlib.Algebra.GroupWithZero.Nat
import Mathlib.Data.List.Basic

/-! # Fingerprints

A fingerprint has 128 bits. It is written with digits of base sixteen, and read back from them.

The bytes of which a fingerprint is the digest say where the path ends, even though a path may hold the
character that ends it. For a path loses nothing in its parts but slashes, and dots that stand for a
directory, so two paths with the same parts hold every other character equally often.
-/

namespace ComponentCatalog

/-! ## Numbers of base sixteen -/

namespace Digest

private theorem exists_digit_of_mem_toDigits {n : Nat} {c : Char} (member : c ∈ Nat.toDigits 16 n) :
    ∃ digit < 16, c = digit.digitChar := by
  induction n using Nat.strongRecOn with
  | ind n ih =>
    rw [Nat.toDigits_eq_if (by decide)] at member
    split at member
    · next small => exact ⟨n, small, List.mem_singleton.mp member⟩
    · next great =>
      rcases List.mem_append.mp member with front | last
      · exact ih (n / 16) (by omega) front
      · exact ⟨n % 16, Nat.mod_lt n (by decide), List.mem_singleton.mp last⟩

/-- A number is written with small digits. -/
theorem exists_digit_of_mem_hexText {width n : Nat} {c : Char} (member : c ∈ (hexText width n).toList) :
    ∃ digit < 16, c = digit.digitChar := by
  rw [hexText, String.toList_ofList] at member
  rcases List.mem_append.mp member with zero | digit
  · exact ⟨0, by decide, List.eq_of_mem_replicate zero⟩
  · exact exists_digit_of_mem_toDigits digit

theorem le_length_hexText (width n : Nat) : width ≤ (hexText width n).length := by
  simp only [hexText, String.length_ofList, List.length_append, List.length_replicate]
  omega

/-- A number that fits into a width is written in it. -/
theorem length_hexText {width n : Nat} (wide : 0 < width) (fits : n < 16 ^ width) :
    (hexText width n).length = width := by
  have digits : (Nat.toDigits 16 n).length ≤ width :=
    (Nat.length_toDigits_le_iff (by decide) wide).mpr fits
  simp only [hexText, String.length_ofList, List.length_append, List.length_replicate]
  omega

end Digest

namespace Fingerprint

/-- A fingerprint that is computed has 128 bits. -/
theorem compute_lt (path : Path) (source : String) : (compute path source).value < bound := by
  simp only [compute, Digest.digest128]
  generalize Digest.wideDigest _ = wide
  have low := wide.1.toNat_lt
  have high := wide.2.toNat_lt
  have square : bound = Nat.pow 2 64 * Nat.pow 2 64 := by decide
  have word : Nat.pow 2 64 = 2 ^ 64 := rfl
  rw [square, word]
  omega

private theorem readDigits_append (value : Nat) (first second : List Char) :
    readDigits value (first ++ second) =
      (readDigits value first).bind fun next => readDigits next second := by
  induction first generalizing value with
  | nil => rfl
  | cons c rest ih =>
    simp only [List.cons_append, readDigits]
    split
    · rfl
    · split
      · rfl
      · exact ih _

/-- The digits of a number of 128 bits are read back. -/
private theorem readDigits_toDigits {n : Nat} (fits : n < bound) :
    readDigits 0 (Nat.toDigits 16 n) = .ok n := by
  induction n using Nat.strongRecOn with
  | ind n ih =>
    have last : ∀ {value digit : Nat}, digit < 16 → value * 16 + digit < bound →
        readDigits value [digit.digitChar] = .ok (value * 16 + digit) := by
      intro value digit small fits
      rw [readDigits, Doc.hexValue?_digitChar small]
      simp only [if_neg (Nat.not_le.mpr fits), readDigits]
    rw [Nat.toDigits_eq_if (by decide)]
    split
    · next small => simpa using @last 0 n small (by omega)
    · next great =>
      rw [readDigits_append, ih (n / 16) (by omega) (by omega)]
      have digit := @last (n / 16) (n % 16) (Nat.mod_lt n (by decide)) (by omega)
      rw [Nat.div_add_mod' n 16] at digit
      exact digit

private theorem readDigits_zeros (count : Nat) (digits : List Char) :
    readDigits 0 (List.replicate count '0' ++ digits) = readDigits 0 digits := by
  have zero : Doc.hexValue? '0' = some 0 := by decide
  have positive : ¬ bound ≤ 0 := by decide
  induction count with
  | zero => rfl
  | succ count ih =>
    rw [List.replicate_succ, List.cons_append, readDigits, zero]
    simpa only [Nat.zero_mul, Nat.add_zero, if_neg positive] using ih

private theorem ofText_of_digits {text : String} {value : Nat} (some_ : text.toList ≠ [])
    (digits : readDigits 0 text.toList = .ok value) : ofText text = .ok ⟨value⟩ := by
  unfold ofText
  split
  · next none => exact absurd none some_
  · next plus => rw [plus] at digits; cases digits
  · next minus => rw [minus] at digits; cases digits
  · next plus => rw [plus] at digits; cases digits
  · rw [digits]
    rfl

/-- A number is read back from its digits, however many zeros stand in front. -/
theorem readDigits_hexText (width : Nat) {n : Nat} (fits : n < bound) :
    readDigits 0 (Digest.hexText width n).toList = .ok n := by
  rw [Digest.hexText, String.toList_ofList, readDigits_zeros, readDigits_toDigits fits]

/-- A fingerprint that is written is read back. -/
theorem ofText_text {fingerprint : Fingerprint} (fits : fingerprint.value < bound) :
    ofText fingerprint.text = .ok fingerprint := by
  refine ofText_of_digits ?_ (readDigits_hexText 32 fits)
  simp [text, Digest.hexText]

theorem decoder_toJson {fingerprint : Fingerprint} (fits : fingerprint.value < bound)
    (depth : Nat) : decoder (Doc.ofJson depth fingerprint.toJson) = .ok fingerprint := by
  have read : (Doc.ofJson depth fingerprint.toJson).asString = .ok fingerprint.text := rfl
  rw [decoder, read]
  simp only [bind, Except.bind, ofText_text fits]
  rfl

end Fingerprint

/-! ## What fingerprints are made from -/

/-- The characters of a part. -/
def PathPart.chars : PathPart → List Char
  | .name text => text.toList
  | _ => []

namespace Path

private theorem flatten_addToFirst (c : Char) (words : List (List Char)) :
    (Text.addToFirst c words).flatten = c :: words.flatten := by
  cases words with
  | nil => rfl
  | cons word rest => rfl

/-- Between the slashes stands all the rest of a text. -/
private theorem count_segments {c : Char} (slash : c ≠ '/') (text : List Char) :
    (segments text).flatten.count c = text.count c := by
  unfold segments
  induction text with
  | nil => rfl
  | cons first rest ih =>
    by_cases cut : first = '/'
    · subst cut
      rw [List.count_cons_of_ne (Ne.symm slash), ← ih]
      rfl
    · have kept : Text.splitWhere (· == '/') (first :: rest) =
          Text.addToFirst first (Text.splitWhere (· == '/') rest) := by
        simp [Text.splitWhere, cut]
      rw [kept, flatten_addToFirst, List.count_cons, List.count_cons, ih]

/-- A text between slashes stands for a part with its characters, unless it is all dots. -/
private theorem count_partOf? {c : Char} (dot : c ≠ '.') (text : List Char) :
    ((partOf? text).toList.flatMap PathPart.chars).count c = text.count c := by
  have plain : ('.' == c) = false := beq_false_of_ne (Ne.symm dot)
  unfold partOf?
  split
  · rfl
  · simp [plain, List.count_cons]
  · simp [PathPart.chars, plain, List.count_cons]
  · simp [PathPart.chars]

private theorem count_filterMap {c : Char} (dot : c ≠ '.') (texts : List (List Char)) :
    ((texts.filterMap partOf?).flatMap PathPart.chars).count c = texts.flatten.count c := by
  induction texts with
  | nil => rfl
  | cons text rest ih =>
    have here := count_partOf? dot text
    cases part : partOf? text with
    | none =>
      rw [part] at here
      rw [List.filterMap_cons_none part, ih, List.flatten_cons, List.count_append, ← here]
      simp
    | some found =>
      rw [part] at here
      rw [List.filterMap_cons_some part, List.flatMap_cons, List.count_append, ih, List.flatten_cons,
        List.count_append, ← here]
      simp

private theorem count_opening {c : Char} (dot : c ≠ '.') (text : List Char) :
    ((opening text).1.toList.flatMap PathPart.chars).count c + (opening text).2.flatten.count c =
      (segments text).flatten.count c := by
  have plain : ('.' == c) = false := beq_false_of_ne (Ne.symm dot)
  unfold opening
  split
  · next rest same =>
    cases rest <;> simp [same, PathPart.chars]
  · next rest same => simp [same, PathPart.chars, plain, List.count_cons]
  · simp

/-- The parts of a path hold its characters, but for slashes and dots. -/
theorem count_parts (path : Path) {c : Char} (slash : c ≠ '/') (dot : c ≠ '.') :
    (path.parts.flatMap PathPart.chars).count c = path.text.toList.count c := by
  rw [parts, List.flatMap_append, List.count_append, count_filterMap dot, count_opening dot,
    count_segments slash]

end Path

namespace Fingerprint

/-- The bytes that the fingerprint of a source at a path is the digest of. -/
def hashed (path : Path) (source : String) : ByteArray := (path.text.toUTF8.push 0) ++ source.toUTF8

theorem compute_eq (path : Path) (source : String) :
    compute path source = ⟨Digest.digest128 (hashed path source)⟩ := rfl

/-- The bytes of two texts with a zero between them are those of one text. -/
private theorem zero_between (first second : String) :
    first.toUTF8.push 0 ++ second.toUTF8 = (first ++ "\x00" ++ second).toUTF8 := by
  have single : ("\x00" : String).toUTF8 = ByteArray.empty.push 0 := by decide
  have ended : first.toUTF8.push 0 = first.toUTF8 ++ ("\x00" : String).toUTF8 := by
    rw [single]
    apply ByteArray.ext
    simp
  rw [ended]
  simp [String.toUTF8, String.toByteArray_append]

/-- Of two texts that are cut at one character each, neither is cut later if the parts before hold
that character equally often. -/
private theorem eq_nil_of_count {before behind tail more : List Char} {mark : Char}
    (count : (before ++ more).count mark = before.count mark)
    (same : mark :: behind = more ++ mark :: tail) : more = [] := by
  cases more with
  | nil => rfl
  | cons first rest =>
    obtain rfl : mark = first := (List.cons.inj same).1
    rw [List.count_append, List.count_cons_self] at count
    omega

/-- Bytes tell two texts with a zero between them, if it is known how many zeros the first one holds. -/
theorem eq_of_zero_between {first second first' second' : String}
    (counts : first'.toList.count '\x00' = first.toList.count '\x00')
    (same : first.toUTF8.push 0 ++ second.toUTF8 = first'.toUTF8.push 0 ++ second'.toUTF8) :
    first = first' ∧ second = second' := by
  rw [zero_between, zero_between] at same
  have texts := congrArg String.toList (String.toByteArray_inj.mp same)
  have mark : ("\x00" : String).toList = ['\x00'] := by decide
  simp only [String.toList_append, mark, List.append_assoc, List.singleton_append] at texts
  have same : first.toList = first'.toList ∧ second.toList = second'.toList := by
    rcases List.append_eq_append_iff.mp texts with ⟨more, longer, rest⟩ | ⟨more, longer, rest⟩
    · rw [longer] at counts
      obtain rfl := eq_nil_of_count counts rest
      exact ⟨by simp [longer], (List.cons.inj rest).2⟩
    · rw [longer] at counts
      obtain rfl := eq_nil_of_count counts.symm rest
      exact ⟨by simp [longer], (List.cons.inj rest).2.symm⟩
  exact ⟨String.toList_inj.mp same.1, String.toList_inj.mp same.2⟩

/-- What a fingerprint is the digest of tells sources apart, and paths with the same parts. -/
theorem eq_of_hashed {path other : Path} {source text : String} (parts : path.parts = other.parts)
    (same : hashed path source = hashed other text) : path = other ∧ source = text := by
  have counts : other.text.toList.count '\x00' = path.text.toList.count '\x00' := by
    rw [← path.count_parts (by decide) (by decide), ← other.count_parts (by decide) (by decide), parts]
  obtain ⟨texts, sources⟩ := eq_of_zero_between counts same
  exact ⟨congrArg Path.mk texts, sources⟩

end Fingerprint
end ComponentCatalog
