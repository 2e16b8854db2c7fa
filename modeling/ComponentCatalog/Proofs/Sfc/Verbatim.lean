import ComponentCatalog.Proofs.Sfc.Stands

/-! # Blanks in literals

What is shown of a span has single spaces between its words, wherever the words stand. A blank inside of a
literal belongs to the literal, so a text is shown as it is written, up to the blanks between its tokens, if and
only if each blank that belongs to a literal is a single space there.
-/

namespace ComponentCatalog.Sfc

open Script

/-! ## Texts in which some blanks are kept -/

/-- A character of a text, and whether its place belongs to something that is kept as it is. -/
structure Glyph where
  char : Char
  kept : Bool

namespace Glyph

/-- Is a character a blank? -/
def isBlank (glyph : Glyph) : Bool := Unicode.isSpace glyph.char

/-- Is a character a blank that need not be kept? -/
def isGap (glyph : Glyph) : Bool := glyph.isBlank && !glyph.kept

theorem isBlank_of_isGap {glyph : Glyph} (gap : glyph.isGap = true) : glyph.isBlank = true :=
  (Bool.and_eq_true_iff.mp gap).1

end Glyph

variable {gap : Glyph → Bool} {glyphs : List Glyph}

/-- The words of a text between gaps of some sort. -/
def wordsBetween (gap : Glyph → Bool) (glyphs : List Glyph) : List (List Glyph) :=
  (glyphs.splitOnP gap).filter (!·.isEmpty)

/-- A text with one space in place of each gap, and without the gaps at its ends. -/
def spaced (gap : Glyph → Bool) (glyphs : List Glyph) : String :=
  " ".intercalate ((wordsBetween gap glyphs).map fun word => String.ofList (word.map Glyph.char))

/-- What a text comes to when a word has begun before it or not. The space for a gap is owed until the next word,
so that none is written at the ends. -/
def spread (gap : Glyph → Bool) : Bool → Bool → List Glyph → List Char
  | _, _, [] => []
  | begun, owed, glyph :: rest =>
    if gap glyph then spread gap begun true rest
    else (if begun && owed then [' '] else []) ++ glyph.char :: spread gap true false rest

/-- Words with a space before each of them. -/
def spread.following (words : List (List Glyph)) : List Char :=
  words.flatMap fun word => ' ' :: word.map Glyph.char

theorem wordsBetween_gap {glyph : Glyph} (here : gap glyph = true) :
    wordsBetween gap (glyph :: glyphs) = wordsBetween gap glyphs := by
  rw [wordsBetween, List.splitOnP_cons_eq_if_modifyHead, if_pos here]
  rfl

/-- What a text comes to is read off its words, and behind a word off the rest of this word. -/
theorem spread_true_eq (gap : Glyph → Bool) (glyphs : List Glyph) :
    spread gap true true glyphs = spread.following (wordsBetween gap glyphs) ∧
      ∃ word more, glyphs.splitOnP gap = word :: more ∧
        spread gap true false glyphs = word.map Glyph.char ++ spread.following (more.filter (!·.isEmpty)) := by
  induction glyphs with
  | nil => exact ⟨rfl, [], [], rfl, rfl⟩
  | cons glyph rest ih =>
    obtain ⟨behindGap, word, more, pieces, behindWord⟩ := ih
    rw [spread, spread, wordsBetween, List.splitOnP_cons_eq_if_modifyHead]
    cases here : gap glyph with
    | true => exact ⟨behindGap, [], rest.splitOnP gap, rfl, behindGap⟩
    | false =>
      rw [pieces, behindWord]
      exact ⟨rfl, glyph :: word, more, rfl, rfl⟩

theorem toList_spaced (gap : Glyph → Bool) (glyphs : List Glyph) :
    (spaced gap glyphs).toList = spread gap false false glyphs := by
  have join (word : List Glyph) (more : List (List Glyph)) :
      [' '].intercalate ((word :: more).map (List.map Glyph.char)) =
        word.map Glyph.char ++ spread.following more := by
    induction more generalizing word with
    | nil => simp [spread.following]
    | cons next more ih =>
      rw [List.map_cons, List.map_cons, List.intercalate_cons_cons, ← List.map_cons, ih]
      simp [spread.following]
  have start (owed : Bool) : spread gap false owed glyphs =
      [' '].intercalate ((wordsBetween gap glyphs).map (List.map Glyph.char)) := by
    induction glyphs generalizing owed with
    | nil => rfl
    | cons glyph rest ih =>
      rw [spread]
      cases here : gap glyph with
      | true => rw [wordsBetween_gap here, if_pos rfl, ih]
      | false =>
        obtain ⟨word, more, pieces, behindWord⟩ := (spread_true_eq gap rest).2
        have first : wordsBetween gap (glyph :: rest) = (glyph :: word) :: more.filter (!·.isEmpty) := by
          rw [wordsBetween, List.splitOnP_cons_eq_if_modifyHead, here, pieces]
          rfl
        rw [first, join, behindWord]
        rfl
  rw [start, spaced, String.toList_intercalate, List.map_map]
  congr 2
  funext word
  simp

/-- A text is squeezed to its words between blanks. -/
theorem squeezed_map_char (glyphs : List Glyph) :
    Text.squeezed (glyphs.map Glyph.char) = spaced Glyph.isBlank glyphs := by
  have pieces : Text.splitWhere Unicode.isSpace (glyphs.map Glyph.char) =
      (glyphs.splitOnP Glyph.isBlank).map (List.map Glyph.char) := by
    induction glyphs with
    | nil => rfl
    | cons glyph rest ih =>
      rw [List.map_cons, Text.splitWhere, List.splitOnP_cons_eq_if_modifyHead, ih, Glyph.isBlank]
      split
      · rfl
      · cases split : rest.splitOnP Glyph.isBlank with
        | nil => exact absurd split (List.splitOnP_ne_nil _ _)
        | cons => rfl
  rw [Text.squeezed, Text.words, pieces, spaced, wordsBetween, List.filter_map, List.map_map]
  congr 3
  funext word
  simp

/-! ## Single spaces -/

/-- Is each blank that is kept a space between two visible characters, in a text behind such a character or not? -/
def singleSpacedFrom : Bool → List Glyph → Bool
  | _, [] => true
  | visible, glyph :: rest =>
    (!glyph.isBlank || glyph.isGap || (glyph.char == ' ' && visible && rest.head?.any (!·.isBlank))) &&
      singleSpacedFrom (!glyph.isBlank) rest

/-- Is each blank that is kept a single space, with a visible character on both sides? -/
def singleSpaced (glyphs : List Glyph) : Bool := singleSpacedFrom false glyphs

/-- With more gaps a text gets no longer, but for a space that may still be owed. -/
theorem length_spread_le (glyphs : List Glyph) (begun begun' owed owed' : Bool) (later : begun = true → begun' = true) :
    (spread Glyph.isBlank begun owed glyphs).length ≤
      (spread Glyph.isGap begun' owed' glyphs).length + (if begun && owed && !owed' then 1 else 0) := by
  induction glyphs generalizing begun begun' owed owed' with
  | nil => exact Nat.zero_le _
  | cons glyph rest ih =>
    rw [spread, spread]
    cases gap : glyph.isGap with
    | true =>
      rw [Glyph.isBlank_of_isGap gap]
      have le := ih begun begun' true true later
      simp only [Bool.not_true, Bool.and_false, Bool.false_eq_true, if_false, if_true] at le ⊢
      omega
    | false =>
      cases blank : glyph.isBlank with
      | true =>
        have le := ih begun true true false fun _ => rfl
        simp only [Bool.false_eq_true, if_false, if_true, List.length_append, List.length_cons] at le ⊢
        split at le <;> omega
      | false =>
        have le := ih true true false false fun _ => rfl
        simp only [Bool.false_eq_true, if_false, List.length_append, List.length_cons] at le ⊢
        cases begun <;> cases begun' <;> cases owed <;> cases owed' <;> simp_all <;> omega

/-- A space that is owed is a character that was kept if and only if a visible character comes next. -/
theorem spread_owed_eq_iff (c : Char) (glyphs : List Glyph) :
    spread Glyph.isBlank true true glyphs = c :: spread Glyph.isGap true false glyphs ↔
      c = ' ' ∧ glyphs.head?.any (!·.isBlank) = true ∧
        spread Glyph.isBlank true false glyphs = spread Glyph.isGap true false glyphs := by
  cases glyphs with
  | nil => simp [spread]
  | cons glyph rest =>
    rw [spread, spread, spread, List.head?_cons, Option.any_some]
    cases blank : glyph.isBlank with
    | false =>
      have noGap : glyph.isGap = false := by rw [Glyph.isGap, blank, Bool.false_and]
      simp [noGap, eq_comm]
    | true =>
      refine iff_of_false (fun same => ?_) (by simp)
      have longer := congrArg List.length same
      cases gap : glyph.isGap with
      | true =>
        have le := length_spread_le rest true true true true fun _ => rfl
        simp only [gap, if_true, List.length_cons, Bool.not_true, Bool.and_false, Bool.false_eq_true, if_false]
          at longer le
        omega
      | false =>
        have le := length_spread_le rest true true true false fun _ => rfl
        simp only [gap, if_true, List.length_cons, Bool.and_false, Bool.false_eq_true, if_false, List.length_append]
          at longer le
        split at le <;> omega

/-- Before a visible character it makes no difference what came before. -/
theorem singleSpacedFrom_of_visible (visible : Bool) (next : glyphs.head?.any (!·.isBlank) = true) :
    singleSpacedFrom visible glyphs = singleSpacedFrom true glyphs := by
  cases glyphs with
  | nil => rfl
  | cons glyph rest =>
    rw [List.head?_cons, Option.any_some] at next
    rw [singleSpacedFrom, singleSpacedFrom, next, Bool.true_or, Bool.true_or, Bool.true_or]

/-- Both ways of reading the gaps come to the same text if and only if the blanks that are kept are single. -/
theorem spread_eq_iff (glyphs : List Glyph) (begun owed : Bool) :
    spread Glyph.isBlank begun owed glyphs = spread Glyph.isGap begun owed glyphs ↔
      singleSpacedFrom (begun && !owed) glyphs = true := by
  induction glyphs generalizing begun owed with
  | nil => exact iff_of_true rfl rfl
  | cons glyph rest ih =>
    rw [spread, spread, singleSpacedFrom]
    cases gap : glyph.isGap with
    | true =>
      rw [Glyph.isBlank_of_isGap gap]
      simpa using ih begun true
    | false =>
      cases blank : glyph.isBlank with
      | false => simpa using ih true false
      | true =>
        -- One text has the blank at once, and the other one a space before its next word, if there is one.
        simp only [Bool.false_eq_true, if_false, if_true, Bool.not_true, Bool.false_or]
        cases visible : begun && !owed with
        | true =>
          obtain ⟨rfl, rfl⟩ : begun = true ∧ owed = false := by simpa using visible
          rw [Bool.and_false, if_neg Bool.false_ne_true, List.nil_append, spread_owed_eq_iff, ih true false]
          constructor
          · rintro ⟨space, next, rest⟩
            rw [Bool.not_false, Bool.and_true] at rest
            rw [singleSpacedFrom_of_visible false next, rest, next, beq_iff_eq.mpr space]
            rfl
          · intro single
            simp only [Bool.and_eq_true, beq_iff_eq, Bool.and_true] at single
            obtain ⟨⟨space, next⟩, rest⟩ := single
            exact ⟨space, next, by rwa [singleSpacedFrom_of_visible false next] at rest⟩
        | false =>
          refine iff_of_false (fun same => ?_) (by simp)
          have longer := congrArg List.length same
          have le := length_spread_le rest begun true true false fun _ => rfl
          cases begun <;> cases owed <;> simp at visible longer le <;> omega

/-- What is shown with single spaces is shown as it is kept if and only if what is kept has single spaces. -/
theorem squeezed_eq_iff (glyphs : List Glyph) :
    Text.squeezed (glyphs.map Glyph.char) = spaced Glyph.isGap glyphs ↔ singleSpaced glyphs = true := by
  rw [squeezed_map_char, ← String.toList_inj, toList_spaced, toList_spaced, spread_eq_iff]
  rfl

/-! ## What is shown of a script -/

variable {kept : Nat → Bool}

/-- The characters of a text at a span, with whether their places are kept. -/
def glyphsAt (kept : Nat → Bool) (text : List Char) (span : Span) : List Glyph :=
  ((text.zipIdx.map fun (char, place) => Glyph.mk char (kept place)).drop span.lo).take (span.hi - span.lo)

/-- What is written at a span, with one space for the blanks between two tokens if the places inside of tokens
are kept. -/
def verbatimAt (kept : Nat → Bool) (text : List Char) (span : Span) : String :=
  if span.hi < span.lo then unknownType else spaced Glyph.isGap (glyphsAt kept text span)

theorem map_char_glyphsAt (kept : Nat → Bool) (text : List Char) (span : Span) :
    (glyphsAt kept text span).map Glyph.char = stretch text span := by
  rw [glyphsAt, stretch, List.map_take, List.map_drop, List.map_map]
  congr 2
  exact List.zipIdx_map_fst ..

/-- A text is shown verbatim if and only if the blanks in its literals are single spaces. -/
theorem shownAt_eq_verbatimAt_iff {text : List Char} (unmarked : startsWithMark text = false) (span : Span) :
    shownAt text span = verbatimAt kept text span ↔ singleSpaced (glyphsAt kept text span) = true := by
  rw [shownAt, writtenAt, verbatimAt]
  split
  · rename_i backwards
    have nothing : glyphsAt kept text span = [] := by
      rw [glyphsAt, Nat.sub_eq_zero_of_le (Nat.le_of_lt backwards), List.take_zero]
    rw [nothing]
    exact iff_of_true rfl rfl
  · rw [unmarked, if_neg Bool.false_ne_true, Option.map_some, Option.getD_some, ← map_char_glyphsAt kept]
    exact squeezed_eq_iff _

/-- A component whose script starts with no byte order mark has the interface of the texts that are shown of it.
Each of them is shown verbatim if and only if the blanks at its places that are kept, such as those of string and
template literals, are single spaces inside of it. If they are in all of the script, so is all of the interface. -/
theorem interfaceOf_verbatim {forceTyped : Bool} {source : List Char} {block : ScriptBlock} {script : List Node}
    (chosen : script? source = some block) (parsed : parse (forceTyped || block.isTyped) block.content = .ok script)
    (unmarked : startsWithMark block.content = false) (kept : Nat → Bool) :
    interfaceOf forceTyped source = .ok (interfaceWith (shownAt block.content) (template? source) script) ∧
      (∀ span, shownAt block.content span = verbatimAt kept block.content span ↔
        singleSpaced (glyphsAt kept block.content span) = true) ∧
      ((∀ node ∈ nodesOf script, singleSpaced (glyphsAt kept block.content node.span) = true) →
        interfaceOf forceTyped source =
          .ok (interfaceWith (verbatimAt kept block.content) (template? source) script)) := by
  refine ⟨interfaceOf_eq chosen parsed, shownAt_eq_verbatimAt_iff unmarked, fun single => ?_⟩
  have same (node : Node) (listed : node ∈ nodesOf script) :
      verbatimAt kept block.content node.span = shownAt block.content node.span :=
    ((shownAt_eq_verbatimAt_iff unmarked node.span).mpr (single node listed)).symm
  rw [interfaceOf_eq chosen parsed, interfaceWith, interfaceWith, declaredWith_congr same]

/-- The places of the string literals of a script, their quotes included. -/
def inStrings (script : List Node) (place : Nat) : Bool :=
  (nodesOf script).any fun
    | .string span _ | .stringType span _ => span.lo ≤ place && place < span.hi
    | _ => false

/-- A script with a type that has one space in a literal, and more of them around it. -/
def singleBlock : ScriptBlock := typedBlock "defineProps<\x7b a: 'x y'  |  number \x7d>()"

theorem interfaceOf_verbatim_single :
    script? (fileWith singleBlock) = some singleBlock ∧ startsWithMark singleBlock.content = false ∧
      ∃ script, parse true singleBlock.content = .ok script ∧
        (∀ node ∈ nodesOf script, singleSpaced (glyphsAt (inStrings script) singleBlock.content node.span) = true) ∧
        interfaceOf true (fileWith singleBlock) = .ok (interfaceWith
          (verbatimAt (inStrings script) singleBlock.content) (template? (fileWith singleBlock)) script) := by
  have chosen : script? (fileWith singleBlock) = some singleBlock := by decide +kernel
  have unmarked : startsWithMark singleBlock.content = false := by decide +kernel
  have single : (parse true singleBlock.content).toOption.any (fun script => (nodesOf script).all fun node =>
      singleSpaced (glyphsAt (inStrings script) singleBlock.content node.span)) = true := by
    decide +kernel
  obtain ⟨script, parsed, single⟩ := exists_ok_of_any single
  have single := List.all_eq_true.mp single
  exact ⟨chosen, unmarked, script, parsed, single,
    (@interfaceOf_verbatim true _ _ _ chosen parsed unmarked (inStrings script)).2.2 single⟩

/-- A script with a default value that has two spaces in it. -/
def spacedBlock : ScriptBlock := typedBlock "defineProps(\x7b a: \x7b default: 'x  y' \x7d \x7d)"

/-- One of the spaces is not shown, though it belongs to the value. -/
theorem interfaceOf_spaced_ne : ∃ script, parse true spacedBlock.content = .ok script ∧
    (interfaceOf true (fileWith spacedBlock)).toOption.map (·.props) =
      some [⟨"a", "unknown", false, some "'x y'"⟩] ∧
    (interfaceWith (verbatimAt (inStrings script) spacedBlock.content) none script).props =
      [⟨"a", "unknown", false, some "'x  y'"⟩] := by
  have shown : (parse true spacedBlock.content).toOption.any (fun script =>
      decide ((interfaceOf true (fileWith spacedBlock)).toOption.map (·.props) =
          some [⟨"a", "unknown", false, some "'x y'"⟩] ∧
        (interfaceWith (verbatimAt (inStrings script) spacedBlock.content) none script).props =
          [⟨"a", "unknown", false, some "'x  y'"⟩])) = true := by
    decide +kernel
  obtain ⟨script, parsed, shown⟩ := exists_ok_of_any shown
  exact ⟨script, parsed, of_decide_eq_true shown⟩

end ComponentCatalog.Sfc
