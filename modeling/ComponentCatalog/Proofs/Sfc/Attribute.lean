import ComponentCatalog.Proofs.Text.Scan
import ComponentCatalog.Sfc.Slot

/-! # The attributes of a slot tag

A slot is named by an attribute with a value in quotes, and passes on what its other attributes bind. Each
attribute is written behind blanks. What is written so is read again, whatever stands in the quotes.
-/

namespace ComponentCatalog.Sfc

open Unicode Text

/-! ## Blanks -/

variable {c : Char}

/-- The numbers of the blank characters. -/
def blankNumbers : List Nat :=
  List.range' 9 5 ++ [0x20, 0x85, 0xA0, 0x1680] ++ List.range' 0x2000 11 ++ [0x2028, 0x2029, 0x202F, 0x205F, 0x3000]

theorem toNat_mem_blankNumbers (blank : isSpace c = true) : c.toNat ∈ blankNumbers := by
  simp only [isSpace, Bool.or_eq_true, Bool.and_eq_true, decide_eq_true_iff, beq_iff_eq] at blank
  simp only [blankNumbers, List.mem_append, List.mem_range'_1, List.mem_cons, List.not_mem_nil, or_false]
  omega

/-- No blank is part of a word, or stands for something at the start of an attribute or in a tag. -/
theorem blank_foreign (blank : isSpace c = true) :
    isWord c = false ∧ c.isAlpha = false ∧ c ∉ ['_', ':', 'v', '/', '<', '>'] := by
  have all : ∀ n ∈ blankNumbers, isWord (Char.ofNat n) = false ∧ (Char.ofNat n).isAlpha = false ∧
      Char.ofNat n ∉ ['_', ':', 'v', '/', '<', '>'] := by
    refine List.all_iff_forall_prop.mp ?_
    decide +kernel
  have here := all c.toNat (toNat_mem_blankNumbers blank)
  rwa [Char.ofNat_toNat] at here

/-- Blanks, at least one. -/
abbrev Blanks : Type := {text : List Char // text ≠ [] ∧ ∀ c ∈ text, isSpace c = true}

/-- A single space. -/
def space : Blanks := ⟨[' '], List.cons_ne_nil _ _, List.all_iff_forall_prop.mp rfl⟩

/-! ## Attributes as they are written -/

/-- The text between two quotes. -/
abbrev Value : Type := {text : List Char // '"' ∉ text}

/-- What a slot passes on: a Latin letter or underscore with word characters and hyphens behind. -/
structure Key where
  first : Char
  rest : List Char
  starts : first.isAlpha = true ∨ first = '_'
  goes_on : ∀ c ∈ rest, isWord c = true ∨ c = '-'
  other : first :: rest ≠ "name".toList

def Key.text (key : Key) : List Char := key.first :: key.rest

/-- An attribute of a slot: its name, or what it passes on, bound in the short or the long way. -/
inductive SlotAttribute
  | name (value : Value)
  | bound (long : Bool) (key : Key) (value : Value)

namespace SlotAttribute

/-- What is written before the value. -/
def label : SlotAttribute → List Char
  | name _ => "name".toList
  | bound long key _ => (if long then "v-bind:".toList else ":".toList) ++ key.text

def value : SlotAttribute → Value
  | name value | bound _ _ value => value

/-- An attribute as it is written. -/
def written (attr : SlotAttribute) : List Char :=
  attr.label ++ '=' :: '"' :: (attr.value.val ++ ['"'])

/-- An attribute as it is read. -/
def read : SlotAttribute → Attribute
  | name value => ⟨false, "name", some (String.ofList value.val)⟩
  | bound _ key value => ⟨true, String.ofList key.text, some (String.ofList value.val)⟩

/-- The name that an attribute gives to its slot. -/
def name? : SlotAttribute → Option String
  | name value => some (String.ofList value.val)
  | bound _ _ _ => none

/-- What an attribute passes on. -/
def key? : SlotAttribute → Option String
  | name _ => none
  | bound _ key _ => some (String.ofList key.text)

end SlotAttribute

/-! ## One attribute -/

variable {text rest : List Char} {first : Char}

/-- An attribute at the start of a text, behind the mark of a bound one. -/
def attributeNamed? (bound : Bool) (text : List Char) : Option (Attribute × List Char) := do
  let (key, rest) ← attributeName? text
  match attributeValue? rest with
  | some (value, rest) => return (⟨bound, String.ofList key, some (String.ofList value)⟩, rest)
  | none => return (⟨bound, String.ofList key, none⟩, rest)

theorem attribute?_eq (text : List Char) : attribute? text =
    ((if "v-bind:".toList.isPrefixOf text then attributeNamed? true (text.drop 7) else none).or
      (if ":".toList.isPrefixOf text then attributeNamed? true (text.drop 1) else none)).or
      (attributeNamed? false text) := rfl

theorem attributeName?_written (starts : first.isAlpha = true ∨ first = '_')
    (goes_on : ∀ c ∈ text, isWord c = true ∨ c = '-') (rest : List Char) :
    attributeName? (first :: (text ++ '=' :: rest)) = some (first :: text, '=' :: rest) := by
  have inside : ∀ c ∈ text, (isWord c || c == '-') = true := fun c member => by
    simpa using goes_on c member
  rw [attributeName?, if_pos (by simpa using starts)]
  dsimp only
  rw [List.takeWhile_append_of_pos inside, List.dropWhile_append_of_pos inside,
    List.takeWhile_cons_of_neg (by decide), List.dropWhile_cons_of_neg (by decide), List.append_nil]

theorem attributeValue?_written (value : Value) (rest : List Char) :
    attributeValue? ('=' :: '"' :: (value.val ++ '"' :: rest)) = some (value.val, rest) := by
  have cut : cutAt ['"'] (value.val ++ '"' :: rest) = some (value.val, rest) := cutAt_char value.2
  exact cut

theorem attributeNamed?_written (isBound : Bool) (first : Char) (text : List Char)
    (starts : first.isAlpha = true ∨ first = '_')
    (goes_on : ∀ c ∈ text, isWord c = true ∨ c = '-') (value : Value) (rest : List Char) :
    attributeNamed? isBound (first :: (text ++ '=' :: '"' :: (value.val ++ '"' :: rest))) =
      some (⟨isBound, String.ofList (first :: text), some (String.ofList value.val)⟩, rest) := by
  rw [attributeNamed?, attributeName?_written starts goes_on]
  simp [attributeValue?_written value rest]

theorem attribute?_long {found : Attribute × List Char} (named : attributeNamed? true text = some found) :
    attribute? ("v-bind:".toList ++ text) = some found := by
  change ((attributeNamed? true text).or _).or _ = _
  rw [named]
  rfl

theorem attribute?_short {found : Attribute × List Char} (named : attributeNamed? true text = some found) :
    attribute? (':' :: text) = some found := by
  change (none.or (attributeNamed? true text)).or _ = _
  rw [named]
  rfl

/-- An attribute is read as it was written. -/
theorem attribute?_written (attr : SlotAttribute) (rest : List Char) :
    attribute? (attr.written ++ rest) = some (attr.read, rest) := by
  have quoted : attr.written ++ rest = attr.label ++ '=' :: '"' :: (attr.value.val ++ '"' :: rest) := by
    simp [SlotAttribute.written]
  rw [quoted]
  cases attr with
  | name value =>
    rw [attribute?_eq]
    change (none.or none).or (attributeNamed? false _) = _
    exact attributeNamed?_written false 'n' "ame".toList (by decide) (List.all_iff_forall_prop.mp rfl) value rest
  | bound long key value =>
    have named := attributeNamed?_written true key.first key.rest key.starts key.goes_on value rest
    cases long with
    | true => exact attribute?_long named
    | false => exact attribute?_short named

/-- Before a blank there is no attribute. -/
theorem attribute?_of_blank (blank : ∀ d ∈ text.head?, isSpace d = true) : attribute? text = none := by
  cases text with
  | nil => rfl
  | cons d text =>
    obtain ⟨-, letter, foreign⟩ := blank_foreign (blank d rfl)
    have starts (isBound : Bool) : attributeNamed? isBound (d :: text) = none := by
      have under : d ≠ '_' := fun same => foreign (by simp [same])
      simp [attributeNamed?, attributeName?, letter, under]
    have colon : d ≠ ':' := fun same => foreign (by simp [same])
    have letter_v : d ≠ 'v' := fun same => foreign (by simp [same])
    have long : "v-bind:".toList.isPrefixOf (d :: text) = false := by simp [List.isPrefixOf, letter_v.symm]
    have short : ":".toList.isPrefixOf (d :: text) = false := by simp [List.isPrefixOf, colon.symm]
    rw [attribute?_eq, long, short, starts]
    rfl

/-! ## The attributes of a tag -/

/-- A blank is passed over, and what is behind it is read. -/
theorem attributeHere?_blank (blank : isSpace c = true) (last? : Option Char) (text : List Char) :
    attributeHere? last? (c :: text) =
      (attribute? text).map fun found => (found.1, (c :: text).length - found.2.length) := by
  have none : attribute? (c :: text) = none := attribute?_of_blank (by simpa using blank)
  rw [attributeHere?, none]
  cases last? <;> cases attribute? text <;> simp [blank]

/-- Blanks that no attribute follows at once are passed over. -/
theorem occurrencesFrom_blanks (blank : ∀ c ∈ text, isSpace c = true) (rest : List Char)
    (next : ∀ d ∈ rest.head?, isSpace d = true) (last? : Option Char) :
    occurrencesFrom attributeHere? 0 last? (text ++ rest) =
      occurrencesFrom attributeHere? 0 (text.getLast?.or last?) rest := by
  apply occurrencesFrom_pass
  intro head c tail split
  have here : isSpace c = true := blank c (by simp [split])
  rw [List.cons_append, attributeHere?_blank here, attribute?_of_blank]
  · rfl
  · cases tail with
    | nil => exact next
    | cons d tail => simpa using blank d (by simp [split])

theorem SlotAttribute.getLast?_written (attr : SlotAttribute) : attr.written.getLast? = some '"' := by
  rw [written, ← List.cons_append, ← List.cons_append, ← List.append_assoc, List.getLast?_concat]

/-- Behind its blanks an attribute is read, and the search goes on behind its closing quote. -/
theorem occurrencesFrom_attribute (blanks : Blanks) (attr : SlotAttribute) (rest : List Char)
    (last? : Option Char) :
    occurrencesFrom attributeHere? 0 last? (blanks.val ++ (attr.written ++ rest)) =
      attr.read :: occurrencesFrom attributeHere? 0 (some '"') rest := by
  obtain ⟨blanks, ne, blank⟩ := blanks
  obtain rfl | ⟨front, c, rfl⟩ := List.eq_nil_or_concat' blanks
  · exact absurd rfl ne
  · have here : isSpace c = true := blank c (by simp)
    have found (before? : Option Char) : attributeHere? before? (c :: attr.written ++ rest) =
        some (attr.read, (c :: attr.written).length) := by
      rw [List.cons_append, attributeHere?_blank here, attribute?_written, Option.map_some]
      simp only [List.length_cons, List.length_append, Option.some.injEq, Prod.mk.injEq, true_and]
      omega
    have quote : (c :: attr.written).getLast? = some '"' := by
      rw [List.getLast?_cons, attr.getLast?_written]
      rfl
    rw [List.append_assoc, occurrencesFrom_blanks (fun d member => blank d (by simp [member])) _ (by simpa using here),
      List.singleton_append, ← List.cons_append, occurrencesFrom_found (List.cons_ne_nil _ _) (found _), quote]

/-- What is written behind blanks, and the blanks behind it, start with a blank. -/
theorem head?_spaced {α : Type} (write : α → List Char) (pieces : List (Blanks × α))
    (trailing : ∀ c ∈ text, isSpace c = true) :
    ∀ d ∈ ((pieces.flatMap fun spaced => spaced.1.val ++ write spaced.2) ++ text).head?, isSpace d = true := by
  intro d head
  cases pieces with
  | nil => exact trailing d (List.mem_of_head? head)
  | cons spaced pieces =>
    obtain ⟨c, blanks, whole⟩ := List.exists_cons_of_ne_nil spaced.1.2.1
    have same : c = d := by simpa [whole] using head
    exact spaced.1.2.2 d (by simp [whole, same])

/-- Attributes as they are written, each behind its blanks. -/
def writtenAll (attributes : List (Blanks × SlotAttribute)) : List Char :=
  attributes.flatMap fun spaced => spaced.1.val ++ spaced.2.written

/-- Attributes and the blanks behind them start with a blank. -/
theorem head?_writtenAll (attributes : List (Blanks × SlotAttribute))
    (trailing : ∀ c ∈ text, isSpace c = true) :
    ∀ d ∈ (writtenAll attributes ++ text).head?, isSpace d = true :=
  head?_spaced SlotAttribute.written attributes trailing

/-- They do not end in a slash. -/
theorem getLast?_writtenAll (attributes : List (Blanks × SlotAttribute))
    (trailing : ∀ c ∈ text, isSpace c = true) :
    (writtenAll attributes ++ text).getLast? ≠ some '/' := by
  intro slash
  obtain rfl | ⟨front, c, rfl⟩ := List.eq_nil_or_concat' text
  · obtain rfl | ⟨front, spaced, rfl⟩ := List.eq_nil_or_concat' attributes
    · cases slash
    · have quote := spaced.2.getLast?_written
      simp [writtenAll, List.getLast?_append, quote] at slash
  · rw [← List.append_assoc, List.getLast?_concat, Option.some.injEq] at slash
    exact (blank_foreign (trailing c (by simp))).2.2 (by simp [slash])

/-- All attributes are read, whatever blanks stand around them. -/
theorem occurrences_writtenAll (attributes : List (Blanks × SlotAttribute))
    (trailing : ∀ c ∈ text, isSpace c = true) :
    occurrences attributeHere? (writtenAll attributes ++ text) = attributes.map fun spaced => spaced.2.read := by
  have from_any (last? : Option Char) : occurrencesFrom attributeHere? 0 last? (writtenAll attributes ++ text) =
      attributes.map fun spaced => spaced.2.read := by
    induction attributes generalizing last? with
    | nil =>
      have passed := occurrencesFrom_blanks trailing [] (by simp) last?
      rw [List.append_nil] at passed
      exact passed
    | cons spaced attributes ih =>
      have whole : writtenAll (spaced :: attributes) ++ text =
          spaced.1.val ++ (spaced.2.written ++ (writtenAll attributes ++ text)) := by
        simp [writtenAll]
      rw [whole, occurrencesFrom_attribute, ih, List.map_cons]
  exact from_any none

/-! ## What the attributes declare -/

/-- How the things that a slot passes on are shown. -/
def shapeOf (keys : List String) : String :=
  if keys.isEmpty then "\x7b\x7d" else "\x7b " ++ "; ".intercalate (keys.map (· ++ ": any")) ++ " \x7d"

theorem Key.ofList_ne_name (key : Key) : String.ofList key.text ≠ "name" := fun same =>
  key.other (by simpa [Key.text] using congrArg String.toList same)

theorem filter_names (attributes : List SlotAttribute) :
    (attributes.map SlotAttribute.read).filter (fun a => !a.bound && a.key == "name" && a.value?.isSome) =
      (attributes.filterMap SlotAttribute.name?).map fun name => ⟨false, "name", some name⟩ := by
  induction attributes with
  | nil => rfl
  | cons attr attributes ih =>
    cases attr with
    | name value =>
      rw [List.map_cons, List.filter_cons_of_pos rfl, ih]
      rfl
    | bound long key value =>
      rw [List.map_cons, List.filter_cons_of_neg Bool.false_ne_true, ih]
      rfl

theorem filter_passed (attributes : List SlotAttribute) :
    ((attributes.map SlotAttribute.read).filter fun a => a.bound && a.key != "name").map (·.key) =
      attributes.filterMap SlotAttribute.key? := by
  induction attributes with
  | nil => rfl
  | cons attr attributes ih =>
    cases attr with
    | name value =>
      rw [List.map_cons, List.filter_cons_of_neg Bool.false_ne_true, ih]
      rfl
    | bound long key value =>
      have other : (true && String.ofList key.text != "name") = true := by simpa using key.ofList_ne_name
      rw [List.map_cons, List.filter_cons_of_pos (by exact other), List.map_cons, ih]
      rfl

/-- What is declared by attributes that were read: the last name, or the default one, and all that is bound. -/
theorem slotOf_read (attributes : List SlotAttribute) :
    slotOf (attributes.map SlotAttribute.read) =
      ⟨(attributes.filterMap SlotAttribute.name?).getLast?.getD "default",
        shapeOf (attributes.filterMap SlotAttribute.key?)⟩ := by
  rw [slotOf, filter_names, ← filter_passed, shapeOf, List.getLast?_map, List.map_map, List.isEmpty_map]
  cases (attributes.filterMap SlotAttribute.name?).getLast? <;> rfl

end ComponentCatalog.Sfc
