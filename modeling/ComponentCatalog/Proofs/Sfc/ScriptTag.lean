import ComponentCatalog.Proofs.Sfc.Attribute
import ComponentCatalog.Sfc.Block
import Mathlib.Data.List.TakeWhile
import Mathlib.Data.Option.Basic

/-! # The attributes of a script tag

A script sets the component up if its tag has the attribute `setup`, and is written in the language that
the attribute `lang` tells. Both are looked for in the text of the tag without regard to quotes and names,
so that a value, or the end of another name, may be taken for them.
-/

namespace ComponentCatalog.Sfc

open Unicode Text

variable {text rest value name : List Char} {last? : Option Char} {c : Char}

/-! ## Attributes as they are written -/

/-- Is a character a quote of either kind? -/
def isQuote (c : Char) : Bool := c == '"' || c == '\''

/-- Can a character stand in the name of an attribute? -/
def isNamePart (c : Char) : Bool := !isSpace c && !(['"', '\'', '>', '='].contains c)

/-- An attribute of a tag: a name, and a value in double quotes if it has one. -/
structure TagAttribute where
  name : List Char
  value? : Option Value
  named : name ≠ []
  name_plain : ∀ c ∈ name, isNamePart c = true

namespace TagAttribute

/-- What is written behind the name. -/
def quoted (attr : TagAttribute) : List Char :=
  match attr.value? with
  | none => []
  | some value => '=' :: '"' :: (value.val ++ ['"'])

/-- An attribute as it is written. -/
def written (attr : TagAttribute) : List Char := attr.name ++ attr.quoted

/-- The language that an attribute tells. -/
def language? (attr : TagAttribute) : Option (List Char) :=
  if attr.name = "lang".toList then attr.value?.map (·.val) else none

end TagAttribute

/-- Attributes as they are written, each behind its blanks. -/
def spacedOut (attributes : List (Blanks × TagAttribute)) : List Char :=
  attributes.flatMap fun spaced => spaced.1.val ++ spaced.2.written

/-! ## What may be taken for another attribute -/

/-- A value reads like the attribute `setup`. -/
def ReadsAsSetup (value : List Char) : Prop :=
  ∃ front c d back, value = front ++ c :: ("setup".toList ++ d :: back) ∧ isSpace c = true ∧
    (isSpace d = true ∨ d = '=')

/-- A language reaches up to the first quote of a text. -/
def UpToQuote (text language : List Char) : Prop :=
  ∃ closing rest, text = language ++ closing :: rest ∧ isQuote closing = true ∧ language ≠ [] ∧
    ∀ c ∈ language, isQuote c = false

/-- Behind the word `lang` a language is told, in quotes of either kind. -/
def Tells (text language : List Char) : Prop :=
  ∃ before behind opening rest, text = before ++ '=' :: (behind ++ opening :: rest) ∧
    (∀ c ∈ before, isSpace c = true) ∧ (∀ c ∈ behind, isSpace c = true) ∧ isQuote opening = true ∧
    UpToQuote rest language

/-- What stands behind the word `lang` in a value reads like the rest of that attribute: behind the `=` the
value ends, so that its closing quote reads as an opening one, or it goes on with a single quote. -/
def ReadsAsTold (text : List Char) : Prop :=
  ∃ before behind tail, text = before ++ '=' :: (behind ++ tail) ∧ (∀ c ∈ before, isSpace c = true) ∧
    (∀ c ∈ behind, isSpace c = true) ∧ (tail = [] ∨ ∃ c more, tail = '\'' :: c :: more ∧ c ≠ '\'')

/-- A value reads like the attribute `lang`. -/
def ReadsAsLanguage (value : List Char) : Prop :=
  ∃ front back, value = front ++ ("lang".toList ++ back) ∧ (∀ c ∈ front.getLast?, isWord c = false) ∧
    ReadsAsTold back

/-- The ways in which an attribute is taken for what it is not. -/
inductive TagAttribute.Misleads (attr : TagAttribute) (value : Value) : Prop
  /-- The tag ends in the value. -/
  | endsTag (ends : '>' ∈ value.val)
  | setsUp (other : attr.name ≠ "setup".toList) (reads : ReadsAsSetup value.val)
  /-- Of the language nothing is read, or only what stands before a single quote. -/
  | cutsLanguage (named : attr.name = "lang".toList) (cut : value.val = [] ∨ '\'' ∈ value.val)
  /-- The end of the name reads like the attribute `lang`. -/
  | endsInLanguage (stem : List Char) (c : Char) (named : attr.name = stem ++ c :: "lang".toList)
      (apart : isWord c = false) (told : ∃ c ∈ value.val.head?, c ≠ '\'')
  | tellsLanguage (other : attr.name ≠ "lang".toList) (reads : ReadsAsLanguage value.val)

/-- An attribute is taken for what it is. -/
def TagAttribute.Plain (attr : TagAttribute) : Prop := ∀ value ∈ attr.value?, ¬ attr.Misleads value

/-! ## Characters -/

theorem isNamePart_spec (part : isNamePart c = true) : isSpace c = false ∧ c ≠ '"' ∧ c ≠ '>' ∧ c ≠ '=' := by
  simp only [isNamePart, List.contains_cons, List.contains_nil, Bool.or_false, Bool.and_eq_true,
    Bool.not_eq_true', Bool.or_eq_false_iff, beq_eq_false_iff_ne] at part
  exact ⟨part.1, part.2.1, part.2.2.2.1, part.2.2.2.2⟩

theorem isNamePart_of_mem_setup : ∀ c ∈ "setup".toList, isNamePart c = true := List.all_iff_forall_prop.mp rfl

theorem isNamePart_of_mem_lang : ∀ c ∈ "lang".toList, isNamePart c = true := List.all_iff_forall_prop.mp rfl

/-- What ends the name of an attribute does not stand in it. -/
theorem isNamePart_of_ends (ends : isSpace c = true ∨ c = '=') : isNamePart c = false := by
  rcases ends with blank | rfl
  · simp [isNamePart, blank]
  · decide

/-- Behind the name of an attribute comes its value, or what follows the attribute. -/
theorem TagAttribute.ends_name (attr : TagAttribute) (next : ∀ d ∈ rest.head?, isSpace d = true) :
    ∀ d ∈ (attr.quoted ++ rest).head?, isSpace d = true ∨ d = '=' := by
  intro d head
  unfold quoted at head
  cases given : attr.value? with
  | none =>
    rw [given] at head
    exact .inl (next d head)
  | some value =>
    rw [given] at head
    exact .inr (by simpa using head.symm)

/-- A word that starts in a name is all in it. -/
theorem prefix_of_ends {word : List Char} (parts : ∀ c ∈ word, isNamePart c = true)
    (ends : ∀ d ∈ rest.head?, isSpace d = true ∨ d = '=') (found : word <+: text ++ rest) : word <+: text := by
  cases rest with
  | nil => rwa [List.append_nil] at found
  | cons d rest =>
    refine prefix_of_not_mem (fun member => ?_) found
    have part := parts d member
    rw [isNamePart_of_ends (ends d rfl)] at part
    exact Bool.noConfusion part

/-- What stands behind a guard is read if the guard holds. -/
theorem guard_bind_eq_some_iff {α : Type} {p : Prop} [Decidable p] {next : Unit → Option α} {found : α} :
    Option.bind (guard p) next = some found ↔ p ∧ next () = some found := by
  by_cases holds : p
  · have passed : (guard p : Option Unit) = some () := if_pos holds
    rw [passed, Option.bind_some]
    exact (and_iff_right holds).symm
  · have stopped : (guard p : Option Unit) = none := if_neg holds
    rw [stopped]
    exact iff_of_false nofun fun both => holds both.1

/-! ## The mark of a script that sets up -/

/-- The word has to stand behind a blank, and before a blank or a value. -/
theorem isSome_setupHere?_iff :
    (setupHere? last? text).isSome ↔ (∀ c ∈ last?, isSpace c = true) ∧
      ∃ rest, text = "setup".toList ++ rest ∧ ∀ d ∈ rest.head?, isSpace d = true ∨ d = '=' := by
  have behind : (last?.map isSpace).getD true = true ↔ ∀ c ∈ last?, isSpace c = true := by
    cases last? <;> simp
  have rest_eq (rest : List Char) : ("setup".toList ++ rest).drop 5 = rest := rfl
  unfold setupHere?
  constructor
  · intro found
    obtain ⟨value, found⟩ := Option.isSome_iff_exists.mp found
    obtain ⟨starts, found⟩ := guard_bind_eq_some_iff.mp found
    rw [Bool.and_eq_true, behind, List.isPrefixOf_iff_prefix] at starts
    obtain ⟨blank, rest, rfl⟩ := starts
    refine ⟨blank, rest, rfl, ?_⟩
    rw [rest_eq] at found
    cases rest with
    | nil => simp
    | cons d rest =>
      obtain ⟨ends, -⟩ := guard_bind_eq_some_iff.mp found
      simpa using ends
  · rintro ⟨blank, rest, rfl, ends⟩
    have starts : "setup".toList.isPrefixOf ("setup".toList ++ rest) = true :=
      List.isPrefixOf_iff_prefix.mpr (List.prefix_append _ _)
    refine Option.isSome_iff_exists.mpr ⟨((), 5), guard_bind_eq_some_iff.mpr ⟨?_, ?_⟩⟩
    · rw [behind.mpr blank, starts]
      rfl
    · rw [rest_eq]
      cases rest with
      | nil => rfl
      | cons d rest => exact guard_bind_eq_some_iff.mpr ⟨by simpa using ends d rfl, rfl⟩

/-- No `setup` is read where another character stands. -/
theorem setupHere?_eq_none (other : c ≠ 's') (last? : Option Char) (text : List Char) :
    setupHere? last? (c :: text) = none := by
  rw [← Option.not_isSome_iff_eq_none, isSome_setupHere?_iff]
  rintro ⟨-, rest, whole, -⟩
  exact other (List.cons.inj whole).1

/-- In blanks and marks there is no `setup`. -/
theorem passes_setup_of_not_mem (free : 's' ∉ text) (last? : Option Char) (rest : List Char) :
    Passes setupHere? last? text rest := by
  rintro head c tail rfl
  exact setupHere?_eq_none (fun same => free (by simp [same])) _ _

/-- In the name of another attribute there is none. -/
theorem passes_setup_name (attr : TagAttribute) (other : attr.name ≠ "setup".toList)
    (next : ∀ d ∈ rest.head?, isSpace d = true) (last? : Option Char) :
    Passes setupHere? last? attr.name (attr.quoted ++ rest) := by
  intro head c tail split
  rw [← Option.not_isSome_iff_eq_none, isSome_setupHere?_iff]
  rintro ⟨behind, more, whole, ends⟩
  cases last : head.getLast? with
  | some d =>
    -- A name holds no blank before its last character.
    have part := attr.name_plain d (by simp [split, List.mem_of_getLast? last])
    have blank := behind d (by rw [last]; rfl)
    rw [(isNamePart_spec part).1] at blank
    exact Bool.noConfusion blank
  | none =>
    obtain rfl : head = [] := List.getLast?_eq_none_iff.mp last
    have inside := prefix_of_ends isNamePart_of_mem_setup (attr.ends_name next) ⟨more, whole.symm⟩
    obtain ⟨rest', named⟩ := inside
    rw [List.nil_append, ← named] at split
    cases rest' with
    | nil => exact other (by rw [split, List.append_nil])
    | cons d rest' =>
      rw [← named, List.append_assoc, List.append_cancel_left_eq] at whole
      have part := attr.name_plain d (by simp [split])
      rw [isNamePart_of_ends (ends d (by rw [← whole]; rfl))] at part
      exact Bool.noConfusion part

/-- In a value there is none that does not read like the attribute. -/
theorem passes_setup_value (value : Value) (plain : ¬ ReadsAsSetup value.val) (more : List Char) :
    Passes setupHere? (some '"') value.val ('"' :: more) := by
  intro head c tail split
  rw [← Option.not_isSome_iff_eq_none, isSome_setupHere?_iff]
  rintro ⟨behind, rest, whole, ends⟩
  obtain rfl | ⟨front, d, rfl⟩ := List.eq_nil_or_concat' head
  · -- Behind the opening quote no word starts.
    have blank := behind '"' rfl
    revert blank
    decide
  · have blank := behind d (by simp)
    obtain ⟨back, inside⟩ := prefix_of_not_mem (by decide) ⟨rest, whole.symm⟩
    rw [← inside, List.append_assoc, List.append_cancel_left_eq] at whole
    cases back with
    | nil =>
      have closing := ends '"' (by rw [← whole]; rfl)
      revert closing
      decide
    | cons e back =>
      refine plain ⟨front, d, e, back, ?_, blank, ends e (by rw [← whole]; rfl)⟩
      rw [split, ← inside, List.append_assoc]
      rfl

/-- Behind the name of an attribute there is none that its value does not read like. -/
theorem passes_setup_quoted (attr : TagAttribute) (plain : ∀ value ∈ attr.value?, ¬ ReadsAsSetup value.val)
    (last? : Option Char) (rest : List Char) : Passes setupHere? last? attr.quoted rest := by
  unfold TagAttribute.quoted
  cases given : attr.value? with
  | none => simp [Passes]
  | some value =>
    have marks : Passes setupHere? last? ['=', '"'] (value.val ++ ['"'] ++ rest) :=
      passes_setup_of_not_mem (by decide) _ _
    have closing : Passes setupHere? (value.val.getLast?.or (some '"')) ['"'] rest :=
      passes_setup_of_not_mem (by decide) _ _
    exact marks.append ((passes_setup_value value (plain value given) rest).append closing)

theorem passes_setup_blanks (blank : ∀ c ∈ text, isSpace c = true) (last? : Option Char) (rest : List Char) :
    Passes setupHere? last? text rest :=
  passes_setup_of_not_mem (fun member => Bool.noConfusion (blank 's' member)) last? rest

theorem head?_spacedOut (attributes : List (Blanks × TagAttribute)) (trailing : ∀ c ∈ text, isSpace c = true) :
    ∀ d ∈ (spacedOut attributes ++ text).head?, isSpace d = true :=
  head?_spaced TagAttribute.written attributes trailing

/-- Where nothing is read in any attribute, nothing is read in the tag. -/
theorem passes_spacedOut {α : Type} {recognise : Option Char → List Char → Option (α × Nat)}
    {attributes : List (Blanks × TagAttribute)} (trailing : ∀ c ∈ text, isSpace c = true)
    (last_ : ∀ last?, Passes recognise last? text [])
    (each : ∀ spaced ∈ attributes, ∀ last? rest, (∀ d ∈ rest.head?, isSpace d = true) →
      Passes recognise last? (spaced.1.val ++ spaced.2.written) rest) :
    Passes recognise last? (spacedOut attributes ++ text) [] := by
  induction attributes generalizing last? with
  | nil => exact last_ last?
  | cons spaced attributes ih =>
    have whole : spacedOut (spaced :: attributes) ++ text =
        (spaced.1.val ++ spaced.2.written) ++ (spacedOut attributes ++ text) := by
      simp [spacedOut]
    rw [whole]
    refine Passes.append ?_ (ih fun other member => each other (List.mem_cons_of_mem _ member))
    rw [List.append_nil]
    exact each spaced List.mem_cons_self _ _ (head?_spacedOut attributes trailing)

/-- Among attributes that do not read like it there is no `setup`. -/
theorem occurrences_setup_eq_nil {attributes : List (Blanks × TagAttribute)}
    (trailing : ∀ c ∈ text, isSpace c = true)
    (other : ∀ spaced ∈ attributes, spaced.2.name ≠ "setup".toList ∧
      ∀ value ∈ spaced.2.value?, ¬ ReadsAsSetup value.val) :
    occurrences setupHere? (spacedOut attributes ++ text) = [] := by
  apply occurrencesFrom_eq_nil_iff.mpr
  refine passes_spacedOut trailing (fun last? => passes_setup_blanks trailing last? []) ?_
  intro spaced member last? rest next
  refine (passes_setup_blanks spaced.1.2.2 last? _).append ?_
  exact (passes_setup_name spaced.2 (other spaced member).1 next _).append
    (passes_setup_quoted spaced.2 (other spaced member).2 _ rest)

/-- The attribute `setup` is read wherever it stands. -/
theorem occurrences_setup_ne_nil {front back : List (Blanks × TagAttribute)} {blanks : Blanks} {attr : TagAttribute}
    (named : attr.name = "setup".toList) (trailing : ∀ c ∈ text, isSpace c = true) :
    occurrences setupHere? (spacedOut (front ++ (blanks, attr) :: back) ++ text) ≠ [] := by
  obtain ⟨blanks, ne, blank⟩ := blanks
  obtain rfl | ⟨inner, c, rfl⟩ := List.eq_nil_or_concat' blanks
  · exact absurd rfl ne
  · have whole : spacedOut (front ++ (⟨inner ++ [c], ne, blank⟩, attr) :: back) ++ text =
        (spacedOut front ++ (inner ++ [c])) ++ ("setup".toList ++ (attr.quoted ++ (spacedOut back ++ text))) := by
      simp [spacedOut, TagAttribute.written, named]
    rw [whole]
    refine occurrences_ne_nil _ (by simp) (isSome_setupHere?_iff.mpr ⟨?_, _, rfl, ?_⟩)
    · simpa using blank c (by simp)
    · exact attr.ends_name (head?_spacedOut back trailing)

/-! ## The language -/

/-- Blanks are followed by another character in one way only. -/
theorem eq_of_blanks {before before' after after' : List Char} {d d' : Char}
    (blank : ∀ c ∈ before, isSpace c = true) (blank' : ∀ c ∈ before', isSpace c = true)
    (other : isSpace d = false) (other' : isSpace d' = false)
    (same : before ++ d :: after = before' ++ d' :: after') : before = before' ∧ d = d' ∧ after = after' := by
  have behind := congrArg (List.dropWhile isSpace) same
  rw [List.dropWhile_append_of_pos blank, List.dropWhile_append_of_pos blank',
    List.dropWhile_cons_of_neg (by simp [other]), List.dropWhile_cons_of_neg (by simp [other']),
    List.cons.injEq] at behind
  obtain ⟨rfl, rfl⟩ := behind
  exact ⟨List.append_cancel_right same, rfl, rfl⟩

theorem isSpace_of_isQuote (quote : isQuote c = true) : isSpace c = false := by
  simp only [isQuote, Bool.or_eq_true, beq_iff_eq] at quote
  rcases quote with rfl | rfl <;> decide

/-- What is taken up to a character of a class holds none of it. -/
theorem takeWhile_append_cons {class_ : Char → Bool} (free : ∀ c ∈ text, class_ c = false)
    (ends : class_ c = true) (rest : List Char) : (text ++ c :: rest).takeWhile (!class_ ·) = text := by
  rw [List.takeWhile_append_of_pos (by simpa using free), List.takeWhile_cons_of_neg (by simp [ends]), List.append_nil]

private theorem not_isWord_iff : (!(last?.map isWord).getD false) = true ↔ ∀ c ∈ last?, isWord c = false := by
  cases last? <;> simp

/-- Where a language is read, one is told behind the word `lang`. -/
private theorem tells_of_languageHere? {language : List Char} {length : Nat}
    (found : languageHere? last? text = some (language, length)) : (∀ c ∈ last?, isWord c = false) ∧
      (∃ rest, text = "lang".toList ++ rest ∧ Tells rest language) ∧ length = text.length := by
  unfold languageHere? at found
  obtain ⟨starts, found⟩ := guard_bind_eq_some_iff.mp found
  rw [Bool.and_eq_true, not_isWord_iff, List.isPrefixOf_iff_prefix] at starts
  obtain ⟨apart, tail, rfl⟩ := starts
  refine ⟨apart, ?_⟩
  have tail_eq : ("lang".toList ++ tail).drop 4 = tail := rfl
  rw [tail_eq] at found
  dsimp only at found
  split at found
  · rename_i rest equals
    split at found
    · rename_i opening more quoted
      obtain ⟨open_, found⟩ := guard_bind_eq_some_iff.mp found
      obtain ⟨whole, same⟩ := guard_bind_eq_some_iff.mp found
      obtain ⟨rfl, rfl⟩ := Prod.mk.inj (Option.some.inj same)
      rw [Bool.and_eq_true, Bool.not_eq_true', List.isEmpty_eq_false_iff, decide_eq_true_iff] at whole
      have halves := List.takeWhile_append_dropWhile (p := (!isQuote ·)) (l := more)
      obtain ⟨closing, back, behind⟩ : ∃ closing back, more.dropWhile (!isQuote ·) = closing :: back :=
        List.exists_cons_of_ne_nil fun empty => whole.2.ne (by
          rw [empty, List.append_nil] at halves
          exact congrArg List.length halves)
      have close : isQuote closing = true := by
        have ends := List.head?_dropWhile_not (!isQuote ·) more
        rw [behind] at ends
        simpa using ends
      refine ⟨⟨tail, rfl, tail.takeWhile isSpace, rest.takeWhile isSpace, opening, more, ?_,
        fun c => List.mem_takeWhile_imp, fun c => List.mem_takeWhile_imp, open_, closing, back, ?_, close, whole.1,
        fun c member => by simpa [isQuote] using List.mem_takeWhile_imp member⟩, rfl⟩
      · rw [← quoted, List.takeWhile_append_dropWhile, ← equals, List.takeWhile_append_dropWhile]
      · rw [← behind]
        exact halves.symm
    · cases found
  · cases found

/-- A language that is told behind the word `lang` is read where the word starts. -/
private theorem languageHere?_of_tells {language rest : List Char} (apart : ∀ c ∈ last?, isWord c = false)
    (tells : Tells rest language) : languageHere? last? ("lang".toList ++ rest) =
      some (language, ("lang".toList ++ rest).length) := by
  obtain ⟨before, after, opening, -, rfl, blank, blank', open_, closing, rest, rfl, close, ne, free⟩ := tells
  have starts : "lang".toList.isPrefixOf ("lang".toList ++ (before ++ '=' ::
      (after ++ opening :: (language ++ closing :: rest)))) = true :=
    List.isPrefixOf_iff_prefix.mpr (List.prefix_append _ _)
  have tail_eq (tail : List Char) : ("lang".toList ++ tail).drop 4 = tail := rfl
  have equals : isSpace '=' = false := by decide
  have quote := isSpace_of_isQuote open_
  have named := takeWhile_append_cons free close rest
  unfold languageHere?
  refine guard_bind_eq_some_iff.mpr ⟨by rw [not_isWord_iff.mpr apart, starts]; rfl, ?_⟩
  rw [tail_eq]
  dsimp only
  rw [List.dropWhile_append_of_pos blank, List.dropWhile_cons_of_neg (by simp [equals])]
  simp only [List.dropWhile_append_of_pos blank', List.dropWhile_cons, quote, Bool.false_eq_true, ↓reduceIte]
  unfold isQuote at named
  refine guard_bind_eq_some_iff.mpr ⟨open_, guard_bind_eq_some_iff.mpr ⟨?_, ?_⟩⟩
  · rw [named]
    simp [ne]
  · rw [named]
    rfl

/-- A language is read where the word `lang` starts and a language is told behind it. -/
theorem languageHere?_eq_some_iff {language : List Char} {length : Nat} :
    languageHere? last? text = some (language, length) ↔ (∀ c ∈ last?, isWord c = false) ∧
      (∃ rest, text = "lang".toList ++ rest ∧ Tells rest language) ∧ length = text.length := by
  refine ⟨tells_of_languageHere?, ?_⟩
  rintro ⟨apart, ⟨rest, rfl, tells⟩, rfl⟩
  exact languageHere?_of_tells apart tells

variable {language more : List Char}

theorem UpToQuote.head (told : UpToQuote text language) : ∃ d ∈ text.head?, isQuote d = false := by
  obtain ⟨closing, rest, rfl, -, ne, free⟩ := told
  obtain ⟨d, language, rfl⟩ := List.exists_cons_of_ne_nil ne
  exact ⟨d, rfl, free d List.mem_cons_self⟩

/-- A text with a quote in it tells a language, if it does not start with a quote. -/
theorem exists_upToQuote {quote : Char} (first : isQuote c = false) (member : quote ∈ text)
    (ends : isQuote quote = true) : ∃ language, UpToQuote (c :: text) language := by
  cases found : text.find? isQuote with
  | none => exact absurd ends (List.find?_eq_none.mp found quote member)
  | some closing =>
    obtain ⟨close, front, back, rfl, free⟩ := List.find?_eq_some_iff_append.mp found
    refine ⟨c :: front, closing, back, rfl, close, List.cons_ne_nil _ _, ?_⟩
    simpa [first] using free

theorem Tells.head (told : Tells text language) : ∀ d ∈ text.head?, isSpace d = true ∨ d = '=' := by
  obtain ⟨before, behind, opening, rest, rfl, blank, -⟩ := told
  cases before with
  | nil => simp
  | cons c before => simpa using .inl (blank c List.mem_cons_self)

/-- Behind blanks only an `=` tells a language. -/
theorem Tells.of_blanks {blanks : List Char} (told : Tells (blanks ++ c :: text) language)
    (blank : ∀ c ∈ blanks, isSpace c = true) (other : isSpace c = false) : c = '=' := by
  obtain ⟨before, behind, opening, rest, whole, blank', -⟩ := told
  exact (eq_of_blanks blank blank' other (by decide) whole).2.1

theorem tells_quote_iff {quote : Char} (open_ : isQuote quote = true) :
    Tells ('=' :: quote :: text) language ↔ UpToQuote text language := by
  constructor
  · rintro ⟨before, behind, opening, rest, whole, blank, blank', open', told⟩
    obtain ⟨-, -, tail⟩ := eq_of_blanks (List.forall_mem_nil _) blank (by decide) (by decide) whole
    obtain ⟨-, -, rfl⟩ := eq_of_blanks (List.forall_mem_nil _) blank' (isSpace_of_isQuote open_)
      (isSpace_of_isQuote open') tail
    exact told
  · exact fun told => ⟨[], [], quote, text, rfl, by simp, by simp, open_, told⟩

theorem not_tells_blanks (blank : ∀ c ∈ text, isSpace c = true) : ¬ Tells text language := by
  rintro ⟨before, behind, opening, rest, rfl, -⟩
  have equals := blank '=' (by simp)
  revert equals
  decide

/-- Behind an attribute no language is told that is not in an attribute. -/
theorem not_tells_spacedOut (attributes : List (Blanks × TagAttribute)) (trailing : ∀ c ∈ text, isSpace c = true) :
    ¬ Tells (spacedOut attributes ++ text) language := by
  cases attributes with
  | nil => exact not_tells_blanks trailing
  | cons spaced attributes =>
    obtain ⟨c, more, named⟩ := List.exists_cons_of_ne_nil spaced.2.named
    have part := isNamePart_spec (spaced.2.name_plain c (by simp [named]))
    intro told
    have behind : Tells (spaced.1.val ++ c :: (more ++ (spaced.2.quoted ++ (spacedOut attributes ++ text))))
        language := by
      simpa [spacedOut, TagAttribute.written, named] using told
    exact part.2.2.2 (behind.of_blanks spaced.1.2.2 part.1)

/-- What a value and its closing quote tell, it reads like. -/
theorem Tells.readsAsTold (free : '"' ∉ text) (told : Tells (text ++ '"' :: more) language) : ReadsAsTold text := by
  obtain ⟨before, behind, opening, rest, whole, blank, blank', open_, told⟩ := told
  have foreign {blanks : List Char} (blank : ∀ c ∈ blanks, isSpace c = true) : '"' ∉ blanks := fun member =>
    Bool.noConfusion (blank '"' member)
  have equals : before ++ ['='] <+: text := by
    have reaches : before ++ ['='] <+: text ++ '"' :: more :=
      ⟨behind ++ opening :: rest, by rw [whole, List.append_assoc]; rfl⟩
    exact prefix_of_not_mem (by simp [foreign blank]) reaches
  obtain ⟨back, rfl⟩ := equals
  rw [List.append_assoc, List.append_assoc, List.append_cancel_left_eq, List.singleton_append, List.cons.injEq] at whole
  obtain ⟨tail, rfl⟩ := prefix_of_not_mem (foreign blank') ⟨opening :: rest, whole.2.symm⟩
  refine ⟨before, behind, tail, by simp, blank, blank', ?_⟩
  have behind_eq := whole.2
  rw [List.append_assoc, List.append_cancel_left_eq] at behind_eq
  cases tail with
  | nil => exact .inl rfl
  | cons quote tail =>
    obtain ⟨rfl, rfl⟩ := List.cons.inj behind_eq
    simp only [List.mem_append, List.mem_cons, not_or] at free
    have single : quote = '\'' := by
      simp only [isQuote, Bool.or_eq_true, beq_iff_eq] at open_
      exact open_.resolve_left (Ne.symm free.2.2.1)
    obtain ⟨d, head, other⟩ := told.head
    cases tail with
    | nil =>
      obtain rfl : '"' = d := by simpa using head
      exact absurd other (by decide)
    | cons e tail =>
      obtain rfl : e = d := by simpa using head
      refine .inr ⟨e, tail, by rw [single], ?_⟩
      rintro rfl
      exact absurd other (by decide)

/-- What reads like the rest of the attribute tells a language, if a quote follows later. -/
theorem ReadsAsTold.exists_tells {quote : Char} (reads : ReadsAsTold text) (free : '"' ∉ text)
    (first : isQuote c = false) (member : quote ∈ more) (ends : isQuote quote = true) :
    ∃ language, Tells (text ++ '"' :: c :: more) language := by
  obtain ⟨before, behind, tail, rfl, blank, blank', rfl | ⟨d, tail, rfl, other⟩⟩ := reads
  · obtain ⟨language, told⟩ := exists_upToQuote first member ends
    exact ⟨language, before, behind, '"', c :: more, by simp, blank, blank', by decide, told⟩
  · have word : isQuote d = false := by
      simp only [List.mem_append, List.mem_cons, not_or] at free
      simp [isQuote, other, Ne.symm free.2.2.2.2.1]
    have held : '"' ∈ tail ++ '"' :: c :: more := by simp
    obtain ⟨language, told⟩ := exists_upToQuote word held (by decide)
    exact ⟨language, before, behind, '\'', _, by simp, blank, blank', by decide, told⟩

/-- Where another character stands no language is read. -/
theorem passes_language_of_not_mem (free : 'l' ∉ text) (last? : Option Char) (rest : List Char) :
    Passes languageHere? last? text rest := by
  rintro head c tail rfl
  rw [Option.eq_none_iff_forall_ne_some]
  rintro ⟨language, length⟩ found
  obtain ⟨-, ⟨more, whole, -⟩, -⟩ := languageHere?_eq_some_iff.mp found
  obtain rfl : c = 'l' := (List.cons.inj whole).1
  exact free (by simp)

theorem passes_language_blanks (blank : ∀ c ∈ text, isSpace c = true) (last? : Option Char) (rest : List Char) :
    Passes languageHere? last? text rest :=
  passes_language_of_not_mem (fun member => Bool.noConfusion (blank 'l' member)) last? rest

namespace TagAttribute

variable {attr : TagAttribute}

/-- In the name of an attribute that tells no language there is none. -/
theorem passes_language_name (plain : attr.Plain) (untold : attr.language? = none)
    (next : ∀ d ∈ rest.head?, isSpace d = true) (behind : ∀ language, ¬ Tells rest language) (last? : Option Char) :
    Passes languageHere? last? attr.name (attr.quoted ++ rest) := by
  intro head c tail split
  rw [Option.eq_none_iff_forall_ne_some]
  rintro ⟨language, length⟩ found
  obtain ⟨apart, ⟨more, whole, told⟩, -⟩ := languageHere?_eq_some_iff.mp found
  obtain ⟨back, inside⟩ := prefix_of_ends isNamePart_of_mem_lang (attr.ends_name next) ⟨more, whole.symm⟩
  rw [← inside, List.append_assoc, List.append_cancel_left_eq] at whole
  subst whole
  cases back with
  | cons d back =>
    have part := attr.name_plain d (by simp [split, ← inside])
    rw [isNamePart_of_ends (told.head d rfl)] at part
    exact Bool.noConfusion part
  | nil =>
    rw [List.append_nil] at inside
    rw [← inside] at split
    unfold quoted at told
    cases given : attr.value? with
    | none =>
      rw [given] at told
      exact behind language told
    | some value =>
      rw [given] at told
      simp only [List.nil_append, List.cons_append, List.append_assoc] at told
      obtain ⟨d, first, word⟩ := ((tells_quote_iff (by decide)).mp told).head
      obtain rfl | ⟨stem, e, rfl⟩ := List.eq_nil_or_concat' head
      · simp [language?, split, given] at untold
      · refine plain value given (.endsInLanguage stem e (by rw [split, List.append_assoc]; rfl) (apart e (by simp))
          ⟨d, ?_, ?_⟩)
        · cases inner : value.val with
          | nil =>
            rw [inner] at first
            obtain rfl : '"' = d := by simpa using first
            exact absurd word (by decide)
          | cons e more =>
            rw [inner] at first
            exact first
        · rintro rfl
          exact absurd word (by decide)

/-- Behind the name there is none either. -/
theorem passes_language_quoted (plain : attr.Plain) (untold : attr.language? = none) (last? : Option Char)
    (rest : List Char) : Passes languageHere? last? attr.quoted rest := by
  unfold quoted
  cases given : attr.value? with
  | none => simp [Passes]
  | some value =>
    have other : attr.name ≠ "lang".toList := fun named => by simp [language?, named, given] at untold
    have inner : Passes languageHere? (some '"') value.val ('"' :: rest) := by
      intro head c tail split
      rw [Option.eq_none_iff_forall_ne_some]
      rintro ⟨language, length⟩ found
      obtain ⟨apart, ⟨more, whole, told⟩, -⟩ := languageHere?_eq_some_iff.mp found
      obtain ⟨back, inside⟩ := prefix_of_not_mem (by decide) ⟨more, whole.symm⟩
      rw [← inside, List.append_assoc, List.append_cancel_left_eq] at whole
      subst whole
      have free := value.2
      rw [split, ← inside, List.mem_append, List.mem_append, not_or, not_or] at free
      refine plain value given (.tellsLanguage other ⟨head, back, by rw [split, inside], fun c last => ?_,
        told.readsAsTold free.2.2⟩)
      exact apart c (by rw [Option.mem_def.mp last]; rfl)
    have marks : Passes languageHere? last? ['=', '"'] (value.val ++ ['"'] ++ rest) :=
      passes_language_of_not_mem (by decide) _ _
    have closing : Passes languageHere? (value.val.getLast?.or (some '"')) ['"'] rest :=
      passes_language_of_not_mem (by decide) _ _
    exact marks.append (inner.append closing)

/-- Where an attribute tells a language it is read. -/
theorem languageHere?_of_language? (plain : attr.Plain) (told : attr.language? = some language)
    (apart : ∀ c ∈ last?, isWord c = false) :
    languageHere? last? (attr.written ++ rest) = some (language, (attr.written ++ rest).length) := by
  unfold language? at told
  split at told
  · rename_i named
    obtain ⟨value, given, rfl⟩ := Option.map_eq_some_iff.mp told
    have uncut : value.val ≠ [] ∧ '\'' ∉ value.val := by
      rw [← not_or]
      exact fun cut => plain value given (.cutsLanguage named cut)
    have whole : attr.written ++ rest = "lang".toList ++ (attr.quoted ++ rest) := by
      rw [written, named, List.append_assoc]
    refine languageHere?_eq_some_iff.mpr ⟨apart, ⟨attr.quoted ++ rest, whole, ?_⟩, rfl⟩
    rw [quoted, given]
    refine (tells_quote_iff (by decide)).mpr ⟨'"', rest, by simp, by decide, uncut.1, fun c member => ?_⟩
    have double : c ≠ '"' := fun same => value.2 (same ▸ member)
    have single : c ≠ '\'' := fun same => uncut.2 (same ▸ member)
    simp [isQuote, double, single]
  · cases told

end TagAttribute

/-- The language that is read is that of the first attribute that tells one. -/
theorem head?_occurrences_language {attributes : List (Blanks × TagAttribute)}
    (trailing : ∀ c ∈ text, isSpace c = true) (plain : ∀ spaced ∈ attributes, spaced.2.Plain) :
    (occurrencesFrom languageHere? 0 last? (spacedOut attributes ++ text)).head? =
      attributes.findSome? fun spaced => spaced.2.language? := by
  induction attributes generalizing last? with
  | nil =>
    have passed := occurrencesFrom_eq_nil_iff.mpr (passes_language_blanks trailing last? [])
    rw [spacedOut, List.flatMap_nil, List.nil_append, passed]
    rfl
  | cons spaced attributes ih =>
    obtain ⟨⟨blanks, ne, blank⟩, attr⟩ := spaced
    have here := plain _ List.mem_cons_self
    have next := head?_spacedOut attributes trailing
    have whole : spacedOut ((⟨blanks, ne, blank⟩, attr) :: attributes) ++ text =
        blanks ++ (attr.written ++ (spacedOut attributes ++ text)) := by
      simp [spacedOut]
    rw [whole, List.findSome?_cons, occurrencesFrom_pass (passes_language_blanks blank last? _)]
    cases told : attr.language? with
    | some language =>
      have apart : ∀ c ∈ blanks.getLast?.or last?, isWord c = false := by
        obtain rfl | ⟨front, c, rfl⟩ := List.eq_nil_or_concat' blanks
        · exact absurd rfl ne
        · simpa using (blank_foreign (blank c (by simp))).1
      have ne : attr.written ++ (spacedOut attributes ++ text) ≠ [] := by
        simp [TagAttribute.written, attr.named]
      rw [← List.append_nil (attr.written ++ (spacedOut attributes ++ text)), occurrencesFrom_found ne (by
        rw [List.append_nil]
        exact TagAttribute.languageHere?_of_language? here told apart)]
      rfl
    | none =>
      have passes := (TagAttribute.passes_language_name here told next
        (fun language => not_tells_spacedOut attributes trailing) (blanks.getLast?.or last?)).append
        (TagAttribute.passes_language_quoted here told _ _)
      rw [TagAttribute.written, occurrencesFrom_pass passes]
      exact ih fun other member => plain other (List.mem_cons_of_mem _ member)

/-! ## Attributes that mislead -/

section

variable (front back : List (Blanks × TagAttribute)) {blanks : Blanks} {attr : TagAttribute} {value : Value}

theorem spacedOut_eq_of_value (given : value ∈ attr.value?) (text : List Char) :
    spacedOut (front ++ (blanks, attr) :: back) ++ text =
      (spacedOut front ++ (blanks.val ++ (attr.name ++ ['=', '"']))) ++
        (value.val ++ '"' :: (spacedOut back ++ text)) := by
  have quoted : attr.quoted = '=' :: '"' :: (value.val ++ ['"']) := by
    rw [TagAttribute.quoted, Option.mem_def.mp given]
  simp [spacedOut, TagAttribute.written, quoted]

/-- A value that reads like `setup` makes the script one that sets up. -/
theorem occurrences_setup_of_value (given : value ∈ attr.value?) (reads : ReadsAsSetup value.val) :
    occurrences setupHere? (spacedOut (front ++ (blanks, attr) :: back) ++ text) ≠ [] := by
  obtain ⟨before, c, d, after, inside, blank, ends⟩ := reads
  have whole : spacedOut (front ++ (blanks, attr) :: back) ++ text =
      (spacedOut front ++ (blanks.val ++ (attr.name ++ ['=', '"'])) ++ (before ++ [c])) ++
        ("setup".toList ++ d :: (after ++ '"' :: (spacedOut back ++ text))) := by
    rw [spacedOut_eq_of_value _ _ given, inside]
    simp
  rw [whole]
  refine occurrences_ne_nil _ (by simp) (isSome_setupHere?_iff.mpr ⟨?_, _, rfl, by simpa using ends⟩)
  rw [← List.append_assoc, List.getLast?_concat]
  simpa using blank

theorem isSome_languageHere? {language : List Char} (apart : ∀ c ∈ last?, isWord c = false)
    (told : Tells text language) : (languageHere? last? ("lang".toList ++ text)).isSome := by
  rw [languageHere?_eq_some_iff.mpr ⟨apart, ⟨text, rfl, told⟩, rfl⟩]
  rfl

/-- A language is read at the end of a name that goes on like the attribute `lang`. -/
theorem occurrences_language_of_name (given : value ∈ attr.value?) {stem : List Char}
    (named : attr.name = stem ++ c :: "lang".toList) (apart : isWord c = false)
    (told : ∃ c ∈ value.val.head?, c ≠ '\'') :
    occurrences languageHere? (spacedOut (front ++ (blanks, attr) :: back) ++ text) ≠ [] := by
  obtain ⟨d, first, single⟩ := told
  obtain ⟨inner, inside⟩ := List.head?_eq_some_iff.mp first
  have double : d ≠ '"' := fun same => value.2 (by simp [inside, same])
  have word : isQuote d = false := by simp [isQuote, single, double]
  have held : '"' ∈ inner ++ '"' :: (spacedOut back ++ text) := by simp
  obtain ⟨language, read⟩ := exists_upToQuote word held (by decide)
  have whole : spacedOut (front ++ (blanks, attr) :: back) ++ text =
      (spacedOut front ++ (blanks.val ++ (stem ++ [c]))) ++ ("lang".toList ++
        ('=' :: '"' :: d :: (inner ++ '"' :: (spacedOut back ++ text)))) := by
    rw [spacedOut_eq_of_value _ _ given, inside, named]
    simp
  rw [whole]
  refine occurrences_ne_nil _ (by simp) (isSome_languageHere? ?_ ((tells_quote_iff (by decide)).mpr read))
  rw [← List.append_assoc, ← List.append_assoc, List.getLast?_concat]
  simpa using apart

/-- A language is read in a value that reads like the attribute `lang`, if another value follows. -/
theorem occurrences_language_of_value (given : value ∈ attr.value?) (reads : ReadsAsLanguage value.val)
    (follows : ∃ c more, spacedOut back ++ text = c :: more ∧ isQuote c = false ∧ '"' ∈ more) :
    occurrences languageHere? (spacedOut (front ++ (blanks, attr) :: back) ++ text) ≠ [] := by
  obtain ⟨before, after, inside, apart, told⟩ := reads
  obtain ⟨c, more, behind, word, quote⟩ := follows
  have free := value.2
  rw [inside, List.mem_append, List.mem_append, not_or, not_or] at free
  obtain ⟨language, read⟩ := told.exists_tells free.2.2 word quote (by decide)
  have whole : spacedOut (front ++ (blanks, attr) :: back) ++ text =
      (spacedOut front ++ (blanks.val ++ (attr.name ++ ['=', '"'])) ++ before) ++
        ("lang".toList ++ (after ++ '"' :: c :: more)) := by
    rw [spacedOut_eq_of_value _ _ given, inside, behind]
    simp
  rw [whole]
  refine occurrences_ne_nil _ (by simp) (isSome_languageHere? ?_ read)
  rw [List.getLast?_append]
  cases last : before.getLast? with
  | none =>
    have quote : isWord '"' = false := by decide
    simpa using quote
  | some d => simpa using apart d last

end

end ComponentCatalog.Sfc
