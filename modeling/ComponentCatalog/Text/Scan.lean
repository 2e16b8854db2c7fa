import ComponentCatalog.Unicode.Word

/-!
# Searching in texts

Texts are lists of characters here. A text is cut at the first occurrence of another one, scanned
from left to right for things that do not overlap, and split into its words.
-/

namespace ComponentCatalog.Text

def trimmed (text : List Char) : List Char :=
  ((text.dropWhile Unicode.isSpace).reverse.dropWhile Unicode.isSpace).reverse

/-- The text before the first occurrence of a needle, and the text behind it. -/
def cutAt (needle : List Char) : List Char → Option (List Char × List Char)
  | [] => if needle.isEmpty then some ([], []) else none
  | c :: rest =>
    if needle.isPrefixOf (c :: rest) then some ([], (c :: rest).drop needle.length)
    else (cutAt needle rest).map fun cut => (c :: cut.1, cut.2)

/-- A text is what was before the needle, the needle, and what was behind it. -/
theorem eq_of_cutAt {needle text before after : List Char}
    (cut : cutAt needle text = some (before, after)) : text = before ++ needle ++ after := by
  induction text generalizing before with
  | nil =>
    simp only [cutAt] at cut
    split at cut <;> simp_all
  | cons c rest ih =>
    simp only [cutAt] at cut
    split at cut
    · rename_i found
      obtain ⟨tail, spelled⟩ := List.isPrefixOf_iff_prefix.1 found
      simp only [Option.some.injEq, Prod.mk.injEq] at cut
      obtain ⟨rfl, rfl⟩ := cut
      rw [← spelled]
      simp
    · obtain ⟨inner, found, same⟩ := Option.map_eq_some_iff.1 cut
      simp only [Prod.mk.injEq] at same
      obtain ⟨rfl, rfl⟩ := same
      rw [@ih inner.1 found]
      simp

/-- The text before the last occurrence of a needle, and the text behind it. -/
def cutAtLast (needle text : List Char) : Option (List Char × List Char) :=
  (cutAt needle.reverse text.reverse).map fun cut => (cut.2.reverse, cut.1.reverse)

def occursIn (needle text : List Char) : Bool := (cutAt needle text).isSome

/-- What is recognised in a text from left to right, without overlaps. `recognise` sees the
character before and the text from there on, and tells the length of what it recognised. The first
argument is the number of characters that are part of the last thing recognised. -/
def occurrencesFrom {α : Type} (recognise : Option Char → List Char → Option (α × Nat)) :
    Nat → Option Char → List Char → List α
  | _, _, [] => []
  | skip + 1, _, c :: rest => occurrencesFrom recognise skip (some c) rest
  | 0, before, c :: rest =>
    match recognise before (c :: rest) with
    | some (found, length) =>
      -- The character here is the first of those recognised.
      found :: occurrencesFrom recognise (length - 1) (some c) rest
    | none => occurrencesFrom recognise 0 (some c) rest

/-- What is recognised in a text from left to right, without overlaps. -/
def occurrences {α : Type} (recognise : Option Char → List Char → Option (α × Nat))
    (text : List Char) : List α :=
  occurrencesFrom recognise 0 none text

/-- Puts a character in front of the first word. -/
def addToFirst (c : Char) : List (List Char) → List (List Char)
  | [] => [[c]]
  | word :: rest => (c :: word) :: rest

/-- The pieces of a text between characters of a class, empty ones included. -/
def splitWhere (class_ : Char → Bool) : List Char → List (List Char)
  | [] => [[]]
  | c :: rest =>
    if class_ c then [] :: splitWhere class_ rest else addToFirst c (splitWhere class_ rest)

/-- The words of a text: what stands between blanks. -/
def words (text : List Char) : List (List Char) :=
  (splitWhere Unicode.isSpace text).filter (!·.isEmpty)

/-- A text with one space between its words and no blank around them. -/
def squeezed (text : List Char) : String :=
  " ".intercalate ((words text).map String.ofList)

/-- No word holds a blank. -/
theorem not_isSpace_of_mem_words {text word : List Char} (member : word ∈ words text) :
    ∀ c ∈ word, Unicode.isSpace c = false := by
  have pieces : ∀ (text : List Char), ∀ piece ∈ splitWhere Unicode.isSpace text,
      ∀ c ∈ piece, Unicode.isSpace c = false := by
    intro text
    induction text with
    | nil => simp [splitWhere]
    | cons c rest ih =>
      by_cases blank : Unicode.isSpace c
      · simpa [splitWhere, blank] using ih
      · simp only [splitWhere, blank, Bool.false_eq_true, if_false]
        intro piece member d inside
        cases split : splitWhere Unicode.isSpace rest with
        | nil =>
          simp only [split, addToFirst, List.mem_singleton] at member
          subst member
          simp only [List.mem_singleton] at inside
          subst inside
          simpa using blank
        | cons first more =>
          simp only [split, addToFirst, List.mem_cons] at member
          rcases member with rfl | later
          · rcases List.mem_cons.1 inside with rfl | deeper
            · simpa using blank
            · exact ih first (by simp [split]) d deeper
          · exact ih piece (by simp [split, later]) d inside
  exact pieces text word (List.mem_filter.1 member).1

end ComponentCatalog.Text
