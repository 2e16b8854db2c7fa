import ComponentCatalog.Proofs.Json.Scalar

/-! # Values of JSON

A value whose numbers are whole and fit into 64 bits is written with blanks between its parts, as a layout
says, and read back as its tree: the blanks are passed over, so the layout leaves no trace. What stands behind
the value is left, so the items of lists and the entries of objects are read one after the other, each with the
comma in front of it.
-/

namespace ComponentCatalog

/-! ## Values of whole numbers -/

namespace Json

mutual

/-- All numbers are whole and fit into 64 bits. -/
def Whole : Json → Prop
  | .number (.whole n) => Doc.FitsWord n
  | .number (.real _) => False
  | .array items => WholeItems items
  | .object entries => WholeEntries entries
  | _ => True

/-- All numbers of items are. -/
def WholeItems : List Json → Prop
  | [] => True
  | item :: rest => item.Whole ∧ WholeItems rest

/-- All numbers of entries are. -/
def WholeEntries : List (String × Json) → Prop
  | [] => True
  | (_, value) :: rest => value.Whole ∧ WholeEntries rest

end

theorem wholeItems_map {α : Type} {write : α → Json} (whole : ∀ value, (write value).Whole)
    (values : List α) : WholeItems (values.map write) := by
  induction values with
  | nil => exact trivial
  | cons value rest ih => exact ⟨whole value, ih⟩

/-! ## Layouts -/

/-- The blanks that a value is written with: those before an item and before the end of a list or an
object, by its depth, and those behind a colon. -/
structure Layout where
  line : Nat → List Char
  space : List Char
  line_blank : ∀ depth, ∀ c ∈ line depth, Doc.isBlank c = true
  space_blank : ∀ c ∈ space, Doc.isBlank c = true

namespace Layout

/-- No blanks at all. -/
def tight : Layout := ⟨fun _ => [], [], by simp, by simp⟩

theorem newLine_blank (depth : Nat) : ∀ c ∈ newLine depth, Doc.isBlank c = true := by
  intro c member
  rcases List.mem_cons.mp member with rfl | indent
  · rfl
  · rw [List.eq_of_mem_replicate indent]
    rfl

/-- Each item on a line of its own. -/
def lines : Layout := ⟨newLine, [' '], newLine_blank, List.all_eq_true.mp rfl⟩

variable (layout : Layout)

/-- The blanks before the end of a list or an object; there are none if it is empty. -/
def close {α : Type} (depth : Nat) (items : List α) : List Char :=
  if items.isEmpty then [] else layout.line depth

mutual

/-- The text of a value at a depth. -/
def text (depth : Nat) : Json → List Char
  | .array items => '[' :: ((textItems (depth + 1) items).tail ++ (layout.close depth items ++ [']']))
  | .object entries =>
    '{' :: ((textEntries (depth + 1) entries).tail ++ (layout.close depth entries ++ ['}']))
  | other => compactText other

/-- Items, with a comma before each. -/
def textItems (depth : Nat) : List Json → List Char
  | [] => []
  | item :: rest => ',' :: (layout.line depth ++ (text depth item ++ textItems depth rest))

/-- Entries, with a comma before each. -/
def textEntries (depth : Nat) : List (String × Json) → List Char
  | [] => []
  | (key, value) :: rest =>
    ',' :: (layout.line depth ++ (quoteText key ++
      ':' :: (layout.space ++ (text depth value ++ textEntries depth rest))))

end

/-! ## The two layouts in use -/

mutual

theorem text_tight (depth : Nat) (value : Json) : tight.text depth value = compactText value := by
  cases value with
  | array items =>
    rw [text, compactText, textItems_tight (depth + 1) items]
    simp [close, tight]
  | object entries =>
    rw [text, compactText, textEntries_tight (depth + 1) entries]
    simp [close, tight]
  | _ => rfl

theorem textItems_tight (depth : Nat) (items : List Json) :
    (tight.textItems depth items).tail = compactItems items := by
  match items with
  | [] => rfl
  | [item] =>
    rw [textItems, compactItems, text_tight depth item]
    simp [textItems, tight]
  | item :: next :: rest =>
    have others := textItems_tight depth (next :: rest)
    rw [textItems, compactItems, text_tight depth item, ← others]
    · rfl
    · simp

theorem textEntries_tight (depth : Nat) (entries : List (String × Json)) :
    (tight.textEntries depth entries).tail = compactEntries entries := by
  match entries with
  | [] => rfl
  | [(key, value)] =>
    rw [textEntries, compactEntries, text_tight depth value]
    simp [textEntries, tight]
  | (key, value) :: next :: rest =>
    have others := textEntries_tight depth (next :: rest)
    rw [textEntries, compactEntries, text_tight depth value, ← others]
    · rfl
    · simp

end

mutual

theorem text_lines (depth : Nat) (value : Json) : lines.text depth value = indentedText depth value := by
  match value with
  | .array [] => rfl
  | .array (item :: rest) =>
    rw [text, indentedText, textItems_lines (depth + 1) (item :: rest)]
    · simp [close, lines]
    · simp
  | .object [] => rfl
  | .object (entry :: rest) =>
    rw [text, indentedText, textEntries_lines (depth + 1) (entry :: rest)]
    · simp [close, lines]
    · simp
  | .null | .bool _ | .number _ | .string _ => rfl

theorem textItems_lines (depth : Nat) (items : List Json) :
    (lines.textItems depth items).tail = indentedItems depth items := by
  match items with
  | [] => rfl
  | [item] =>
    rw [textItems, indentedItems, text_lines depth item]
    simp [textItems, lines]
  | item :: next :: rest =>
    have others := textItems_lines depth (next :: rest)
    rw [textItems, indentedItems, text_lines depth item, ← others, List.append_assoc]
    · rfl
    · simp

theorem textEntries_lines (depth : Nat) (entries : List (String × Json)) :
    (lines.textEntries depth entries).tail = indentedEntries depth entries := by
  match entries with
  | [] => rfl
  | [(key, value)] =>
    rw [textEntries, indentedEntries, text_lines depth value]
    simp [textEntries, lines]
  | (key, value) :: next :: rest =>
    have others := textEntries_lines depth (next :: rest)
    rw [textEntries, indentedEntries, text_lines depth value, ← others]
    · simp [textEntries, lines]
    · simp

end

end Layout

end Json

/-! ## The tree of a value -/

namespace Doc

open Json

mutual

/-- The tree of a value that is nested to a depth. -/
def ofJson (depth : Nat) : Json → Doc
  | .null => .null
  | .bool b => .bool b
  | .number n => .number n
  | .string text => .string text
  | .array items => atDepth depth (.array (ofItems (depth + 1) items) none)
  | .object entries => atDepth depth (.object (ofEntries (depth + 1) entries) none)

/-- The trees of items. -/
def ofItems (depth : Nat) : List Json → List Doc
  | [] => []
  | item :: rest => ofJson depth item :: ofItems depth rest

/-- The trees of entries. -/
def ofEntries (depth : Nat) : List (String × Json) → List (Doc × Doc)
  | [] => []
  | (key, value) :: rest => (.string key, ofJson depth value) :: ofEntries depth rest

end

/-! ## One step of reading -/

section

variable {blanks : List Char} (passed : ∀ c ∈ blanks, isBlank c = true)

include passed in
theorem skipBlanks_append (text : List Char) : skipBlanks (blanks ++ text) = skipBlanks text :=
  List.dropWhile_append_of_pos passed

include passed in
theorem endsNumber_append {rest : List Char} (ends : EndsNumber rest) : EndsNumber (blanks ++ rest) := by
  cases blanks with
  | nil => exact ends
  | cons blank more =>
    intro c first
    cases first
    have inside := passed blank (List.mem_cons_self ..)
    simp only [isBlank, Bool.or_eq_true, beq_iff_eq] at inside
    rcases inside with ((rfl | rfl) | rfl) | rfl <;> decide

variable (fuel depth : Nat)

include passed in
/-- Blanks before a value are passed over. -/
theorem readValue_blanks (text : List Char) :
    readValue fuel depth (blanks ++ text) = readValue fuel depth text := by
  cases fuel with
  | zero => rfl
  | succ fuel => rw [readValue, readValue, skipBlanks_append passed]

theorem readValue_list {text : List Char} {items : List Doc} {stop? : Option JsonFault}
    {rest? : Option (List Char)}
    (read : readItems fuel (depth + 1) true text = (items, stop?, rest?)) :
    readValue (fuel + 1) depth ('[' :: text) = (atDepth depth (.array items stop?), rest?) := by
  rw [readValue]
  simp [skipBlanks, isBlank, read]

theorem readValue_object {text : List Char} {entries : List (Doc × Doc)}
    {stop? : Option JsonFault} {rest? : Option (List Char)}
    (read : readEntries fuel (depth + 1) true text = (entries, stop?, rest?)) :
    readValue (fuel + 1) depth ('{' :: text) = (atDepth depth (.object entries stop?), rest?) := by
  rw [readValue]
  simp [skipBlanks, isBlank, read]

include passed in
/-- Blanks before the next item, or before the end of a list, are passed over. -/
theorem readItems_blanks (first : Bool) (text : List Char) :
    readItems fuel depth first (blanks ++ text) = readItems fuel depth first text := by
  cases fuel with
  | zero => rfl
  | succ fuel => rw [readItems, readItems, skipBlanks_append passed]

include passed in
/-- So are those before the next entry, or before the end of an object. -/
theorem readEntries_blanks (first : Bool) (text : List Char) :
    readEntries fuel depth first (blanks ++ text) = readEntries fuel depth first text := by
  cases fuel with
  | zero => rfl
  | succ fuel => rw [readEntries, readEntries, skipBlanks_append passed]

include passed in
/-- Blanks behind a comma are passed over. -/
theorem readItems_comma_blanks (text : List Char) :
    readItems fuel depth false (',' :: (blanks ++ text)) = readItems fuel depth false (',' :: text) := by
  have comma (text : List Char) : skipBlanks (',' :: text) = ',' :: text := rfl
  cases fuel with
  | zero => rfl
  | succ fuel =>
    rw [readItems, readItems, comma, comma]
    simp [skipBlanks_append passed]

include passed in
theorem readEntries_comma_blanks (text : List Char) :
    readEntries fuel depth false (',' :: (blanks ++ text)) =
      readEntries fuel depth false (',' :: text) := by
  have comma (text : List Char) : skipBlanks (',' :: text) = ',' :: text := rfl
  cases fuel with
  | zero => rfl
  | succ fuel =>
    rw [readEntries, readEntries, comma, comma]
    simp [skipBlanks_append passed]

theorem readItems_comma {c : Char} (blank : isBlank c = false) (item : c ≠ ']')
    {text more : List Char} {doc : Doc} (read : readValue fuel depth (c :: text) = (doc, some more)) :
    readItems (fuel + 1) depth false (',' :: c :: text) =
      (doc :: (readItems fuel depth false more).1, (readItems fuel depth false more).2) := by
  have skipped : skipBlanks (c :: text) = c :: text := by simp [skipBlanks, blank]
  have comma : skipBlanks (',' :: c :: text) = ',' :: c :: text := rfl
  rw [readItems, comma]
  simp [skipped, read]

theorem readEntries_comma {quoted text more : List Char} {key doc : Doc}
    (named : readString quoted = (key, some (':' :: text)))
    (read : readValue fuel depth text = (doc, some more)) :
    readEntries (fuel + 1) depth false (',' :: '"' :: quoted) =
      ((key, doc) :: (readEntries fuel depth false more).1, (readEntries fuel depth false more).2) := by
  have skipped : skipBlanks ('"' :: quoted) = '"' :: quoted := rfl
  have comma : skipBlanks (',' :: '"' :: quoted) = ',' :: '"' :: quoted := rfl
  have colon : skipBlanks (':' :: text) = ':' :: text := rfl
  rw [readEntries, comma]
  simp [skipped, named, colon, read]

/-- An item that begins a list is read as one behind a comma. -/
theorem readItems_begin {c : Char} (blank : isBlank c = false) (item : c ≠ ']') (text : List Char) :
    readItems fuel depth true (c :: text) = readItems fuel depth false (',' :: c :: text) := by
  cases fuel with
  | zero => rfl
  | succ fuel =>
    have skipped : skipBlanks (c :: text) = c :: text := by simp [skipBlanks, blank]
    have comma : skipBlanks (',' :: c :: text) = ',' :: c :: text := rfl
    rw [readItems, readItems, skipped, comma]
    simp [item, skipped]

/-- An entry that begins an object is read as one behind a comma. -/
theorem readEntries_begin (text : List Char) :
    readEntries fuel depth true ('"' :: text) = readEntries fuel depth false (',' :: '"' :: text) := by
  cases fuel with
  | zero => rfl
  | succ fuel =>
    have skipped : skipBlanks ('"' :: text) = '"' :: text := rfl
    have comma : skipBlanks (',' :: '"' :: text) = ',' :: '"' :: text := rfl
    rw [readEntries, readEntries, skipped, comma]
    simp [skipped]

end

/-! ## Reading what was written -/

section

variable (layout : Layout)

/-- A value begins with a character that is neither a blank nor the end of a list. -/
theorem text_cons (depth : Nat) (value : Json) (whole : value.Whole) :
    ∃ c rest, layout.text depth value = c :: rest ∧ isBlank c = false ∧ c ≠ ']' := by
  cases value with
  | null => exact ⟨_, _, rfl, by decide, by decide⟩
  | bool b => cases b <;> exact ⟨_, _, rfl, by decide, by decide⟩
  | number n =>
    cases n with
    | whole n => exact numberText_cons n
    | real x => exact whole.elim
  | string text => exact ⟨_, _, rfl, by decide, by decide⟩
  | array items => exact ⟨_, _, rfl, by decide, by decide⟩
  | object entries => exact ⟨_, _, rfl, by decide, by decide⟩

theorem close_blank {α : Type} (depth : Nat) (items : List α) :
    ∀ c ∈ layout.close depth items, isBlank c = true := by
  unfold Layout.close
  split
  · simp
  · exact layout.line_blank depth

variable {blanks : List Char} (passed : ∀ c ∈ blanks, isBlank c = true)

include passed in
/-- The first item of a list is read as one behind a comma. -/
private theorem readItems_first (fuel depth : Nat) (items : List Json) (whole : WholeItems items)
    (rest : List Char) :
    readItems fuel depth true ((layout.textItems depth items).tail ++ (blanks ++ ']' :: rest)) =
      readItems fuel depth false (layout.textItems depth items ++ (blanks ++ ']' :: rest)) := by
  cases items with
  | nil =>
    rw [Layout.textItems, List.tail_nil, List.nil_append, readItems_blanks passed, readItems_blanks passed]
    cases fuel <;> rfl
  | cons item more =>
    obtain ⟨c, tail, head, blank, inside⟩ := text_cons layout depth item whole.1
    have line := layout.line_blank depth
    simp only [Layout.textItems, head, List.tail_cons, List.append_assoc, List.cons_append]
    rw [readItems_blanks line, readItems_comma_blanks line]
    exact readItems_begin fuel depth blank inside _

include passed in
/-- The first entry of an object is read as one behind a comma. -/
private theorem readEntries_first (fuel depth : Nat) (entries : List (String × Json))
    (rest : List Char) :
    readEntries fuel depth true ((layout.textEntries depth entries).tail ++ (blanks ++ '}' :: rest)) =
      readEntries fuel depth false (layout.textEntries depth entries ++ (blanks ++ '}' :: rest)) := by
  cases entries with
  | nil =>
    rw [Layout.textEntries, List.tail_nil, List.nil_append, readEntries_blanks passed,
      readEntries_blanks passed]
    cases fuel <;> rfl
  | cons entry more =>
    have line := layout.line_blank depth
    simp only [Layout.textEntries, quoteText, List.tail_cons, List.append_assoc, List.cons_append]
    rw [readEntries_blanks line, readEntries_comma_blanks line]
    exact readEntries_begin fuel depth _

include passed in
private theorem endsNumber_textItems (depth : Nat) (items : List Json) (rest : List Char) :
    EndsNumber (layout.textItems depth items ++ (blanks ++ ']' :: rest)) := by
  cases items with
  | nil => exact endsNumber_append passed (by rintro c ⟨⟩; decide)
  | cons item more => rintro c ⟨⟩; decide

include passed in
private theorem endsNumber_textEntries (depth : Nat) (entries : List (String × Json))
    (rest : List Char) : EndsNumber (layout.textEntries depth entries ++ (blanks ++ '}' :: rest)) := by
  cases entries with
  | nil => exact endsNumber_append passed (by rintro c ⟨⟩; decide)
  | cons entry more => rintro c ⟨⟩; decide

end

mutual

/-- A value that is written is read back as its tree. -/
theorem readValue_text (layout : Layout) (value : Json) (whole : value.Whole) (fuel depth : Nat)
    (enough : 2 * (layout.text depth value).length ≤ fuel) {rest : List Char} (ends : EndsNumber rest) :
    readValue fuel depth (layout.text depth value ++ rest) = (ofJson depth value, some rest) := by
  obtain ⟨c, tail, head, -, -⟩ := text_cons layout depth value whole
  obtain ⟨fuel, rfl⟩ : ∃ less, fuel = less + 1 := by
    rw [head, List.length_cons] at enough
    exact ⟨fuel - 1, by omega⟩
  cases value with
  | null => rfl
  | bool b => cases b <;> rfl
  | number n =>
    cases n with
    | whole n => exact readValue_numberText whole ends fuel depth
    | real x => exact whole.elim
  | string text =>
    obtain ⟨quoted, same, read⟩ := readString_quoteText text rest
    rw [Layout.text, compactText, same]
    · exact read
    · simp
    · simp
  | array items =>
    have closed := close_blank layout depth items
    simp only [Layout.text, List.length_cons, List.length_append, List.length_tail] at enough
    have read := readItems_textItems layout items whole fuel (depth + 1) (by omega) closed rest
    rw [← readItems_first layout closed fuel (depth + 1) items whole rest] at read
    rw [Layout.text, List.cons_append, List.append_assoc, List.append_assoc]
    exact readValue_list fuel depth read
  | object entries =>
    have closed := close_blank layout depth entries
    simp only [Layout.text, List.length_cons, List.length_append, List.length_tail] at enough
    have read := readEntries_textEntries layout entries whole fuel (depth + 1) (by omega) closed rest
    rw [← readEntries_first layout closed fuel (depth + 1) entries rest] at read
    rw [Layout.text, List.cons_append, List.append_assoc, List.append_assoc]
    exact readValue_object fuel depth read

/-- So are the items of a list, -/
theorem readItems_textItems (layout : Layout) (items : List Json) (whole : WholeItems items)
    (fuel depth : Nat) (enough : 2 * (layout.textItems depth items).length < fuel) {blanks : List Char}
    (passed : ∀ c ∈ blanks, isBlank c = true) (rest : List Char) :
    readItems fuel depth false (layout.textItems depth items ++ (blanks ++ ']' :: rest)) =
      (ofItems depth items, none, some rest) := by
  obtain ⟨fuel, rfl⟩ : ∃ less, fuel = less + 1 := ⟨fuel - 1, by omega⟩
  cases items with
  | nil =>
    rw [Layout.textItems, List.nil_append, readItems_blanks passed]
    rfl
  | cons item more =>
    obtain ⟨c, tail, head, blank, inside⟩ := text_cons layout depth item whole.1
    simp only [Layout.textItems, List.length_cons, List.length_append] at enough
    have value := readValue_text layout item whole.1 fuel depth (by omega)
      (endsNumber_textItems layout passed depth more rest)
    have others := readItems_textItems layout more whole.2 fuel depth (by omega) passed rest
    rw [head, List.cons_append] at value
    simp only [Layout.textItems, head, List.append_assoc, List.cons_append]
    rw [readItems_comma_blanks (layout.line_blank depth), readItems_comma fuel depth blank inside value,
      others]
    rfl

/-- and the entries of an object. -/
theorem readEntries_textEntries (layout : Layout) (entries : List (String × Json))
    (whole : WholeEntries entries) (fuel depth : Nat)
    (enough : 2 * (layout.textEntries depth entries).length < fuel) {blanks : List Char}
    (passed : ∀ c ∈ blanks, isBlank c = true) (rest : List Char) :
    readEntries fuel depth false (layout.textEntries depth entries ++ (blanks ++ '}' :: rest)) =
      (ofEntries depth entries, none, some rest) := by
  obtain ⟨fuel, rfl⟩ : ∃ less, fuel = less + 1 := ⟨fuel - 1, by omega⟩
  cases entries with
  | nil =>
    rw [Layout.textEntries, List.nil_append, readEntries_blanks passed]
    rfl
  | cons entry more =>
    obtain ⟨key, item⟩ := entry
    simp only [Layout.textEntries, List.length_cons, List.length_append] at enough
    have value := readValue_text layout item whole.1 fuel depth (by omega)
      (endsNumber_textEntries layout passed depth more rest)
    have others := readEntries_textEntries layout more whole.2 fuel depth (by omega) passed rest
    rw [← readValue_blanks layout.space_blank] at value
    obtain ⟨quoted, same, named⟩ := readString_quoteText key (':' :: (layout.space ++
      (layout.text depth item ++ (layout.textEntries depth more ++ (blanks ++ '}' :: rest)))))
    simp only [Layout.textEntries, List.append_assoc, List.cons_append]
    rw [readEntries_comma_blanks (layout.line_blank depth), same,
      readEntries_comma fuel depth named value, others]
    rfl

end

theorem readValue_compactText (value : Json) (whole : value.Whole) (fuel depth : Nat)
    (enough : 2 * (compactText value).length ≤ fuel) {rest : List Char} (ends : EndsNumber rest) :
    readValue fuel depth (compactText value ++ rest) = (ofJson depth value, some rest) := by
  rw [← Layout.text_tight depth] at enough ⊢
  exact readValue_text .tight value whole fuel depth enough ends

end Doc

/-! ## The parts of a text without blanks -/

namespace Json

/-- Items with a comma before each. -/
def moreItems (items : List Json) : List Char := items.flatMap fun item => ',' :: compactText item

/-- Entries with a comma before each. -/
def moreEntries (entries : List (String × Json)) : List Char :=
  entries.flatMap fun entry => ',' :: (quoteText entry.1 ++ ':' :: compactText entry.2)

theorem compactItems_cons (item : Json) (rest : List Json) :
    compactItems (item :: rest) = compactText item ++ moreItems rest := by
  induction rest generalizing item with
  | nil => simp [compactItems, moreItems]
  | cons next rest ih =>
    rw [compactItems, ih]
    · rfl
    · simp

theorem compactEntries_cons (entry : String × Json) (rest : List (String × Json)) :
    compactEntries (entry :: rest) =
      quoteText entry.1 ++ ':' :: (compactText entry.2 ++ moreEntries rest) := by
  induction rest generalizing entry with
  | nil => simp [compactEntries, moreEntries]
  | cons next rest ih =>
    rw [compactEntries, ih]
    · simp [moreEntries]
    · simp

end Json

namespace Doc

open Json

/-- A value begins with a character that is neither a blank nor the end of a list. -/
theorem compactText_cons (value : Json) (whole : value.Whole) :
    ∃ c rest, compactText value = c :: rest ∧ isBlank c = false ∧ c ≠ ']' := by
  rw [← Layout.text_tight 0]
  exact text_cons .tight 0 value whole

theorem endsNumber_items (items : List Json) (rest : List Char) :
    EndsNumber (moreItems items ++ ']' :: rest) := by
  intro c first
  cases items with
  | nil => cases first; decide
  | cons item more => cases first; decide

theorem endsNumber_entries (entries : List (String × Json)) (rest : List Char) :
    EndsNumber (moreEntries entries ++ '}' :: rest) := by
  intro c first
  cases entries with
  | nil => cases first; decide
  | cons entry more => cases first; decide

end Doc

end ComponentCatalog
