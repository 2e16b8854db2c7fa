import ComponentCatalog.Component.Name
import Mathlib

/-! # Every spelling of a name leads back to it

A display name is a capital letter with Latin letters and digits behind it. Its spelling in lower case
has a hyphen just where the display name has a further capital letter, so the words of the spelling,
capitalised, run together to the name again: runs of capital letters, digits and single letters too.
Blanks around a query, slashes in front of it and its extension are none of the characters of a name.
-/

namespace ComponentCatalog.Component

open Unicode

/-! ## Characters of names -/

private theorem exists_capital {c : Char} (capital : c.isUpper = true) :
    ∃ n : Fin 26, c = Char.ofNat (65 + n) := by
  simp only [Char.isUpper, decide_eq_true_eq, ge_iff_le, UInt32.le_iff_toNat_le] at capital
  have bounds : 65 ≤ c.toNat ∧ c.toNat ≤ 90 := capital
  refine ⟨⟨c.toNat - 65, by omega⟩, ?_⟩
  simp [show 65 + (c.toNat - 65) = c.toNat by omega]

/-- A capital letter comes back from lower case. -/
theorem capital_spec {c : Char} (capital : c.isUpper = true) :
    c.toUpper = c ∧ c.toLower.toUpper = c ∧ c.toLower.isAlphanum = true := by
  obtain ⟨n, rfl⟩ := exists_capital capital
  clear capital
  revert n
  decide

/-- Is it a character of a display name or of its spelling in lower case? -/
def isNameChar (c : Char) : Bool := c.isAlphanum || c == '-'

private theorem isNameChar_bounds {c : Char} (inside : isNameChar c = true) :
    65 ≤ c.toNat ∧ c.toNat ≤ 90 ∨ 97 ≤ c.toNat ∧ c.toNat ≤ 122 ∨ 48 ≤ c.toNat ∧ c.toNat ≤ 57 ∨
      c.toNat = 45 := by
  rcases (Bool.or_eq_true _ _).mp inside with letter | hyphen
  · have bounds : (65 ≤ c.toNat ∧ c.toNat ≤ 90 ∨ 97 ≤ c.toNat ∧ c.toNat ≤ 122) ∨
        48 ≤ c.toNat ∧ c.toNat ≤ 57 := by
      simpa [Char.isAlphanum, Char.isAlpha, Char.isUpper, Char.isLower, Char.isDigit,
        UInt32.le_iff_toNat_le] using letter
    omega
  · rw [beq_iff_eq.mp hyphen]
    decide

theorem not_isSpace_of_isNameChar {c : Char} (inside : isNameChar c = true) : isSpace c = false := by
  have bounds := isNameChar_bounds inside
  simp only [isSpace, Bool.or_eq_false_iff, Bool.and_eq_false_iff, decide_eq_false_iff_not,
    beq_eq_false_iff_ne]
  omega

theorem not_separatesWords_of_isAlphanum {c : Char} (letter : c.isAlphanum = true) :
    separatesWords c = false := by
  have inside : isNameChar c = true := by simp [isNameChar, letter]
  have other (mark : Char) (apart : mark.isAlphanum = false) : (c == mark) = false :=
    beq_eq_false_iff_ne.mpr fun same => by simp [same, apart] at letter
  simp [separatesWords, not_isSpace_of_isNameChar inside, other '-' rfl, other '_' rfl, other '.' rfl]

/-! ## Names and their spellings -/

theorem isDisplayName_iff {name : String} :
    isDisplayName name = true ↔ ∃ first rest, name.toList = first :: rest ∧
      first.isUpper = true ∧ ∀ c ∈ rest, c.isAlphanum = true := by
  unfold isDisplayName
  cases name.toList with
  | nil => simp
  | cons first rest => simp

/-- How a character behind the first one is spelled in lower case. -/
def lowered (c : Char) : List Char := if c.isUpper then ['-', c.toLower] else [c]

theorem kebabCase_of_toList {name : String} {first : Char} {rest : List Char}
    (chars : name.toList = first :: rest) :
    kebabCase name = String.ofList (first.toLower :: rest.flatMap lowered) := by
  simp only [kebabCase, chars]
  rfl

/-- A text without separators is one word. -/
theorem splitWhere_of_forall_not {class_ : Char → Bool} {text : List Char}
    (none : ∀ c ∈ text, class_ c = false) : Text.splitWhere class_ text = [text] := by
  induction text with
  | nil => rfl
  | cons c rest ih =>
    rw [List.forall_mem_cons] at none
    simp [Text.splitWhere, none.1, ih none.2, Text.addToFirst]

/-- The words of a spelling in lower case. What stands before the first hyphen belongs to the word
that is already under way. -/
theorem exists_words_lowered {rest : List Char} (letters : ∀ c ∈ rest, c.isAlphanum = true) :
    ∃ word words, Text.splitWhere separatesWords (rest.flatMap lowered) = word :: words ∧
      word ++ words.flatMap capitalised = rest := by
  induction rest with
  | nil => exact ⟨[], [], rfl, rfl⟩
  | cons c rest ih =>
    rw [List.forall_mem_cons] at letters
    obtain ⟨word, words, split, joined⟩ := ih letters.2
    by_cases capital : c.isUpper = true
    · obtain ⟨-, back, letter⟩ := capital_spec capital
      have inside := not_separatesWords_of_isAlphanum letter
      refine ⟨[], (c.toLower :: word) :: words, ?_, ?_⟩
      · simp [lowered, capital, Text.splitWhere, inside, split, Text.addToFirst,
          show separatesWords '-' = true from rfl]
      · simp [capitalised, back, joined]
    · have inside := not_separatesWords_of_isAlphanum letters.1
      refine ⟨c :: word, words, ?_, ?_⟩
      · simp [lowered, capital, Text.splitWhere, inside, split, Text.addToFirst]
      · simp [joined]

section

variable {name : String} (display : isDisplayName name = true)
include display

theorem pascalCase_of_isDisplayName : pascalCase name = name := by
  obtain ⟨first, rest, chars, capital, letters⟩ := isDisplayName_iff.mp display
  have none : ∀ c ∈ first :: rest, separatesWords c = false := by
    refine List.forall_mem_cons.mpr ⟨not_separatesWords_of_isAlphanum ?_, fun c member =>
      not_separatesWords_of_isAlphanum (letters c member)⟩
    simp [Char.isAlphanum, Char.isAlpha, capital]
  rw [pascalCase, chars, splitWhere_of_forall_not none]
  simp only [List.flatMap_singleton, capitalised, (capital_spec capital).1]
  rw [← chars, String.ofList_toList]

/-- The words of the spelling in lower case make up the name. -/
theorem pascalCase_kebabCase : pascalCase (kebabCase name) = name := by
  obtain ⟨first, rest, chars, capital, letters⟩ := isDisplayName_iff.mp display
  obtain ⟨-, back, letter⟩ := capital_spec capital
  obtain ⟨word, words, split, joined⟩ := exists_words_lowered letters
  have inside := not_separatesWords_of_isAlphanum letter
  rw [pascalCase, kebabCase_of_toList chars, String.toList_ofList]
  simp [Text.splitWhere, inside, split, Text.addToFirst, capitalised, back, joined, ← chars]

end

example : kebabCase "XMLItem2" = "x-m-l-item2" := by decide

/-- The characters of a name and of its spelling in lower case. -/
private theorem isNameChar_of_mem {name spelled : String} (display : isDisplayName name = true)
    (spells : spelled = name ∨ spelled = kebabCase name) :
    spelled.toList ≠ [] ∧ ∀ c ∈ spelled.toList, isNameChar c = true := by
  obtain ⟨first, rest, chars, capital, letters⟩ := isDisplayName_iff.mp display
  obtain ⟨-, -, letter⟩ := capital_spec capital
  rcases spells with rfl | rfl
  · rw [chars]
    refine ⟨by simp, List.forall_mem_cons.mpr ⟨?_, fun c member => ?_⟩⟩
    · simp [isNameChar, Char.isAlphanum, Char.isAlpha, capital]
    · simp [isNameChar, letters c member]
  · rw [kebabCase_of_toList chars, String.toList_ofList]
    refine ⟨by simp, List.forall_mem_cons.mpr ⟨by simp [isNameChar, letter], ?_⟩⟩
    intro c member
    obtain ⟨d, inside, within⟩ := List.mem_flatMap.mp member
    by_cases capital : d.isUpper = true
    · rw [lowered, if_pos capital] at within
      rcases List.mem_pair.mp within with rfl | rfl
      · rfl
      · simp [isNameChar, (capital_spec capital).2.2]
    · rw [lowered, if_neg capital, List.mem_singleton] at within
      simp [isNameChar, within, letters d inside]

/-- Names that are spelled alike in lower case are one. -/
theorem kebabCase_inj {a b : String} (left : isDisplayName a = true) (right : isDisplayName b = true)
    (same : kebabCase a = kebabCase b) : a = b := by
  rw [← pascalCase_kebabCase left, same, pascalCase_kebabCase right]

/-! ## Queries -/

/-- A query asks for a name: it is the name or its spelling in lower case, perhaps with slashes in
front, with an extension behind, and with blanks around all that. -/
def Spells (query name : String) : Prop :=
  ∃ (before slashes : List Char) (spelled : String) (ending after : List Char),
    query.toList = before ++ (slashes ++ spelled.toList ++ ending) ++ after ∧
    (∀ c ∈ before, isSpace c = true) ∧ (∀ c ∈ after, isSpace c = true) ∧
    (∀ c ∈ slashes, c = '/') ∧ (spelled = name ∨ spelled = kebabCase name) ∧
    (ending = [] ∨ ending = ".json".toList)

/-- Nothing is dropped from a text that does not begin with what is dropped. -/
private theorem dropWhile_of_first {test : Char → Bool} {text behind : List Char} (nonempty : text ≠ [])
    (none : ∀ c ∈ text, test c = false) : (text ++ behind).dropWhile test = text ++ behind := by
  cases text with
  | nil => exact absurd rfl nonempty
  | cons c rest => simp [none c (List.mem_cons_self ..)]

/-- Just the blanks around a text without blanks are trimmed. -/
theorem trimmed_of_blanks {before text after : List Char} (nonempty : text ≠ [])
    (left : ∀ c ∈ before, isSpace c = true) (right : ∀ c ∈ after, isSpace c = true)
    (none : ∀ c ∈ text, isSpace c = false) : Text.trimmed (before ++ text ++ after) = text := by
  have front : (before ++ text ++ after).dropWhile isSpace = text ++ after := by
    rw [List.append_assoc, List.dropWhile_append_of_pos left, dropWhile_of_first nonempty none]
  have back : (text ++ after).reverse.dropWhile isSpace = text.reverse := by
    have blank : ∀ c ∈ after.reverse, isSpace c = true := fun c member =>
      right c (List.mem_reverse.mp member)
    have rest : (text.reverse ++ []).dropWhile isSpace = text.reverse ++ [] :=
      dropWhile_of_first (List.reverse_ne_nil_iff.mpr nonempty)
        fun c member => none c (List.mem_reverse.mp member)
    rw [List.append_nil] at rest
    rw [List.reverse_append, List.dropWhile_append_of_pos blank, rest]
  rw [Text.trimmed, front, back, List.reverse_reverse]

/-- The extension is none of the characters of a name, so just what is written behind it goes. -/
private theorem take_extension {text ending : List Char} (inside : ∀ c ∈ text, isNameChar c = true)
    (ends : ending = [] ∨ ending = ".json".toList) :
    (if ".json".toList.isSuffixOf (text ++ ending) then
      (text ++ ending).take ((text ++ ending).length - ".json".toList.length) else text ++ ending) =
      text := by
  rcases ends with rfl | rfl
  · rw [if_neg]
    · exact List.append_nil text
    · intro suffix
      have dot : '.' ∈ text := by
        have there := (List.isSuffixOf_iff_suffix.mp suffix).subset (a := '.') (by decide)
        simpa using there
      exact absurd (inside '.' dot) (by decide)
  · rw [if_pos (List.isSuffixOf_iff_suffix.mpr (List.suffix_append ..))]
    simp

/-- Every spelling of a display name asks for it. -/
theorem queriedName_of_spells {query name : String} (display : isDisplayName name = true)
    (spells : Spells query name) : queriedName query = name := by
  obtain ⟨before, slashes, spelled, ending, after, written, left, right, slash, spelling, ends⟩ :=
    spells
  obtain ⟨nonempty, inside⟩ := isNameChar_of_mem display spelling
  have trimmed : Text.trimmed query.toList = slashes ++ spelled.toList ++ ending := by
    rw [written]
    refine trimmed_of_blanks (by simp [nonempty]) left right fun c member => ?_
    rcases List.mem_append.mp member with front | last
    · rcases List.mem_append.mp front with first | middle
      · rw [slash c first]
        decide
      · exact not_isSpace_of_isNameChar (inside c middle)
    · rcases ends with rfl | rfl
      · cases last
      · have visible : ".json".toList.all (!isSpace ·) = true := rfl
        simpa using List.all_eq_true.mp visible c last
  have dropped : (slashes ++ spelled.toList ++ ending).dropWhile (· == '/') =
      spelled.toList ++ ending := by
    rw [List.append_assoc, List.dropWhile_append_of_pos fun c member => beq_iff_eq.mpr (slash c member)]
    refine dropWhile_of_first nonempty fun c member => beq_eq_false_iff_ne.mpr ?_
    rintro rfl
    exact absurd (inside '/' member) (by decide)
  have back : pascalCase spelled = name := by
    rcases spelling with rfl | rfl
    · exact pascalCase_of_isDisplayName display
    · exact pascalCase_kebabCase display
  simp only [queriedName, trimmed, dropped, take_extension inside ends, String.ofList_toList, back]

/-- A query that spells a display name is not blank. -/
theorem not_blank_of_spells {query name : String} (display : isDisplayName name = true)
    (spells : Spells query name) : (Text.trimmed query.toList).isEmpty = false := by
  have named := queriedName_of_spells display spells
  cases trimmed : Text.trimmed query.toList with
  | cons c rest => rfl
  | nil =>
    have blank : queriedName query = "" := by
      rw [queriedName, trimmed]
      rfl
    rw [← named, blank] at display
    cases display

end ComponentCatalog.Component
