import ComponentCatalog.Text.Scan
import Mathlib.Data.Bool.AllAny
import Mathlib.Data.List.Infix

/-! # What a search in a text finds

A needle whose first character stands nowhere else in it cannot overlap with itself. So a chunk of text
that does not hold it is passed over whole, whatever comes behind that starts like the needle. Texts are
woven of such chunks and of pieces that start with the needle.
-/

namespace ComponentCatalog.Text

variable {needle text before after rest : List Char}

/-! ## Needles -/

/-- The first character of a needle stands nowhere else in it. -/
def Sharp : List Char → Prop
  | [] => False
  | c :: tail => c ∉ tail

instance : DecidablePred Sharp
  | [] => inferInstanceAs (Decidable False)
  | c :: tail => inferInstanceAs (Decidable (c ∉ tail))

theorem Sharp.ne_nil (sharp : Sharp needle) : needle ≠ [] := by
  rintro rfl
  exact sharp

theorem Sharp.head?_append (sharp : Sharp needle) (rest : List Char) :
    ∀ d ∈ (needle ++ rest).head?, needle.head? = some d := by
  obtain ⟨c, tail, rfl⟩ := List.exists_cons_of_ne_nil sharp.ne_nil
  simp

/-- A needle that starts in a text is all in it, if what comes behind the text starts with the same
character or is nothing. -/
theorem Sharp.prefix_left (sharp : Sharp needle) (started : text ≠ [])
    (next : ∀ d ∈ rest.head?, needle.head? = some d) (found : needle <+: text ++ rest) :
    needle <+: text := by
  rcases List.prefix_or_prefix_of_prefix found (List.prefix_append text rest) with within | ⟨more, longer⟩
  · exact within
  · -- What the needle has behind the text would be its first character again.
    obtain ⟨c, text, rfl⟩ := List.exists_cons_of_ne_nil started
    cases more with
    | nil => simp [← longer]
    | cons d more =>
      rw [← longer, List.prefix_append_right_inj] at found
      obtain ⟨d', rest, rfl⟩ : ∃ d' rest', rest = d' :: rest' :=
        List.exists_cons_of_ne_nil fun empty => by simp [empty] at found
      have same := next d' rfl
      rw [(List.cons_prefix_cons.mp found).1.symm, ← longer, List.cons_append, List.head?_cons,
        Option.some.injEq] at same
      rw [← longer, List.cons_append] at sharp
      exact absurd (List.mem_append_right text List.mem_cons_self) (same ▸ sharp)

/-- A needle does not start in a text that does not hold it. -/
theorem Sharp.not_prefix (sharp : Sharp needle) (free : ¬ needle <:+: text)
    (next : ∀ d ∈ rest.head?, needle.head? = some d) {head tail : List Char}
    (split : text = head ++ tail) (started : tail ≠ []) : ¬ needle <+: tail ++ rest := by
  intro found
  apply free
  rw [split]
  exact (sharp.prefix_left started next found).isInfix.trans (List.suffix_append head tail).isInfix

/-- A needle that starts in a text ends before a character that it does not hold. -/
theorem prefix_of_not_mem {d : Char} (other : d ∉ needle) (found : needle <+: text ++ d :: rest) :
    needle <+: text := by
  rcases List.prefix_or_prefix_of_prefix found (List.prefix_append text _) with within | ⟨more, longer⟩
  · exact within
  · cases more with
    | nil => simp [← longer]
    | cons e more =>
      rw [← longer, List.prefix_append_right_inj, List.cons_prefix_cons] at found
      exact absurd (by simp [← longer, found.1]) other

/-- A needle is not found where its first character does not stand. -/
theorem infix_right {d : Char} (starts : needle.head? = some d) (free : d ∉ text)
    (found : needle <:+: text ++ rest) : needle <:+: rest := by
  induction text with
  | nil => exact found
  | cons c text ih =>
    rw [List.mem_cons, not_or] at free
    rcases List.infix_cons_iff.mp found with here | later
    · obtain ⟨tail, whole⟩ := List.head?_eq_some_iff.mp starts
      rw [whole] at here
      exact absurd (List.cons_prefix_cons.mp here).1 free.1
    · exact ih free.2 later

/-! ## Cuts -/

/-- A text is cut at a needle if and only if it holds it. -/
theorem cutAt_eq_none_iff : cutAt needle text = none ↔ ¬ needle <:+: text := by
  induction text with
  | nil => simp [cutAt]
  | cons c rest ih =>
    rw [cutAt, List.infix_cons_iff, ← List.isPrefixOf_iff_prefix]
    split
    · simp [*]
    · simp [*]

/-- Before the first needle there is none. -/
theorem not_infix_of_cutAt (ne : needle ≠ []) (cut : cutAt needle text = some (before, after)) :
    ¬ needle <:+: before := by
  induction text generalizing before with
  | nil => simp [cutAt, ne] at cut
  | cons c rest ih =>
    have whole := eq_of_cutAt cut
    rw [cutAt] at cut
    split at cut
    · cases cut
      simpa using ne
    · rename_i none
      obtain ⟨inner, found, same⟩ := Option.map_eq_some_iff.mp cut
      cases same
      rw [List.infix_cons_iff, not_or]
      refine ⟨fun starts => none (List.isPrefixOf_iff_prefix.mpr ?_), ih found⟩
      rw [whole, List.append_assoc]
      exact starts.trans (List.prefix_append _ _)

/-- A text is cut at the needle behind what does not hold it. -/
theorem Sharp.cutAt_eq (sharp : Sharp needle) (free : ¬ needle <:+: before) :
    cutAt needle (before ++ (needle ++ after)) = some (before, after) := by
  induction before with
  | nil =>
    obtain ⟨c, tail, rfl⟩ := List.exists_cons_of_ne_nil sharp.ne_nil
    rw [List.nil_append, List.cons_append, cutAt, if_pos]
    · simp
    · exact List.isPrefixOf_iff_prefix.mpr (List.prefix_append (c :: tail) after)
  | cons c before ih =>
    have starts := sharp.not_prefix free (sharp.head?_append after) (List.nil_append _).symm
      (List.cons_ne_nil c before)
    rw [List.cons_append, cutAt, if_neg (by rwa [List.isPrefixOf_iff_prefix]),
      ih fun found => free (List.infix_cons found)]
    rfl

/-- A text is cut at the first of a character. -/
theorem cutAt_char {c : Char} (free : c ∉ before) : cutAt [c] (before ++ c :: after) = some (before, after) := by
  have sharp : Sharp [c] := List.not_mem_nil
  exact sharp.cutAt_eq (by rwa [List.singleton_infix_iff])

theorem eq_of_cutAtLast (cut : cutAtLast needle text = some (before, after)) :
    text = before ++ needle ++ after := by
  obtain ⟨⟨x, y⟩, found, same⟩ := Option.map_eq_some_iff.mp cut
  cases same
  apply List.reverse_injective
  simpa using eq_of_cutAt found

theorem cutAtLast_eq_none_iff : cutAtLast needle text = none ↔ ¬ needle <:+: text := by
  rw [cutAtLast, Option.map_eq_none_iff, cutAt_eq_none_iff, List.reverse_infix]

/-- Behind the last needle there is none. -/
theorem not_infix_of_cutAtLast (ne : needle ≠ []) (cut : cutAtLast needle text = some (before, after)) :
    ¬ needle <:+: after := by
  obtain ⟨⟨x, y⟩, found, same⟩ := Option.map_eq_some_iff.mp cut
  cases same
  rw [← List.reverse_infix, List.reverse_reverse]
  exact not_infix_of_cutAt (by simpa using ne) found

/-- A text is cut last at the needle before what does not hold it. -/
theorem Sharp.cutAtLast_eq (sharp : Sharp needle.reverse) (free : ¬ needle <:+: after) :
    cutAtLast needle (before ++ (needle ++ after)) = some (before, after) := by
  rw [← List.reverse_infix] at free
  have cut : cutAt needle.reverse (after.reverse ++ (needle.reverse ++ before.reverse)) =
      some (after.reverse, before.reverse) := sharp.cutAt_eq free
  rw [cutAtLast]
  simp only [List.reverse_append, List.append_assoc, cut]
  simp

/-! ## Occurrences -/

section

variable {α : Type} {recognise : Option Char → List Char → Option (α × Nat)} {last? : Option Char}

/-- The characters of the last occurrence are passed over. -/
theorem occurrencesFrom_skip (text rest : List Char) :
    occurrencesFrom recognise text.length last? (text ++ rest) =
      occurrencesFrom recognise 0 (text.getLast?.or last?) rest := by
  induction text generalizing last? with
  | nil => rfl
  | cons c text ih =>
    rw [List.length_cons, List.cons_append, occurrencesFrom, ih, List.getLast?_cons]
    cases text.getLast? <;> rfl

/-- What is recognised whatever character stands before is found behind any character. -/
theorem occurrencesFrom_congr
    (blind : ∀ last? last'? text, recognise last? text = recognise last'? text) (skip : Nat)
    (last? last'? : Option Char) (text : List Char) :
    occurrencesFrom recognise skip last? text = occurrencesFrom recognise skip last'? text := by
  cases text with
  | nil => simp [occurrencesFrom]
  | cons c text =>
    cases skip with
    | zero => rw [occurrencesFrom, occurrencesFrom, blind last? last'?]
    | succ skip => rfl

/-- What is recognised here comes first, and the search goes on behind it. -/
theorem occurrencesFrom_found {found : α} (ne : text ≠ [])
    (here : recognise last? (text ++ rest) = some (found, text.length)) :
    occurrencesFrom recognise 0 last? (text ++ rest) =
      found :: occurrencesFrom recognise 0 text.getLast? rest := by
  obtain ⟨c, text, rfl⟩ := List.exists_cons_of_ne_nil ne
  rw [List.cons_append] at here ⊢
  rw [occurrencesFrom, here]
  simp only [List.length_cons, Nat.add_sub_cancel, occurrencesFrom_skip, List.getLast?_cons]
  cases text.getLast? <;> rfl

/-- A text in which nothing is recognised is passed over. -/
theorem occurrencesFrom_pass
    (none : ∀ head c tail, text = head ++ c :: tail →
      recognise (head.getLast?.or last?) (c :: tail ++ rest) = none) :
    occurrencesFrom recognise 0 last? (text ++ rest) =
      occurrencesFrom recognise 0 (text.getLast?.or last?) rest := by
  induction text generalizing last? with
  | nil => rfl
  | cons c text ih =>
    have here := none [] c text rfl
    rw [List.getLast?_nil, Option.none_or, List.cons_append] at here
    rw [List.cons_append, occurrencesFrom, here, List.getLast?_cons]
    change occurrencesFrom recognise 0 (some c) (text ++ rest) = _
    rw [ih fun head d tail split => ?_]
    · cases text.getLast? <;> rfl
    · have there := none (c :: head) d tail (by rw [split, List.cons_append])
      rw [List.getLast?_cons] at there
      cases last : head.getLast? <;> simpa [last] using there

/-- Nothing is recognised in a text that goes on with another one. -/
def Passes (recognise : Option Char → List Char → Option (α × Nat)) (last? : Option Char)
    (text rest : List Char) : Prop :=
  ∀ head c tail, text = head ++ c :: tail → recognise (head.getLast?.or last?) (c :: tail ++ rest) = none

theorem Passes.append {front : List Char} (first : Passes recognise last? front (text ++ rest))
    (then_ : Passes recognise (front.getLast?.or last?) text rest) : Passes recognise last? (front ++ text) rest := by
  intro head c tail split
  rcases List.append_eq_append_iff.mp split with ⟨more, rfl, here⟩ | ⟨more, rfl, here⟩
  · have there := then_ more c tail here
    rw [List.getLast?_append, Option.or_assoc]
    exact there
  · cases more with
    | nil =>
      have there := then_ [] c tail here.symm
      simpa using there
    | cons d more =>
      have there := first head d more rfl
      obtain ⟨rfl, rfl⟩ := List.cons.inj here
      simpa using there

/-- Nothing is found if and only if nothing is recognised at any place. -/
theorem occurrencesFrom_eq_nil_iff :
    occurrencesFrom recognise 0 last? text = [] ↔ Passes recognise last? text [] := by
  constructor
  · intro none
    induction text generalizing last? with
    | nil => simp [Passes]
    | cons d text ih =>
      rw [occurrencesFrom] at none
      cases found : recognise last? (d :: text) with
      | some found => simp [found] at none
      | none =>
        rw [found] at none
        intro head c tail split
        cases head with
        | nil =>
          obtain ⟨rfl, rfl⟩ := List.cons.inj split
          rwa [List.append_nil]
        | cons e head =>
          obtain ⟨rfl, rfl⟩ := List.cons.inj split
          have there := ih none head c tail rfl
          rw [List.getLast?_cons]
          cases last : head.getLast? <;> simpa [last] using there
  · intro passes
    have passed := occurrencesFrom_pass passes
    rwa [List.append_nil] at passed

/-- What is recognised at some place, even within another occurrence, keeps the search from finding nothing. -/
theorem occurrences_ne_nil (text : List Char) (ne : rest ≠ []) (here : (recognise text.getLast? rest).isSome) :
    occurrences recognise (text ++ rest) ≠ [] := by
  intro nothing
  obtain ⟨c, rest, rfl⟩ := List.exists_cons_of_ne_nil ne
  have passed := occurrencesFrom_eq_nil_iff.mp nothing text c rest rfl
  rw [Option.or_none, List.append_nil] at passed
  rw [passed] at here
  exact Bool.noConfusion here

/-- What is recognised here comes first. -/
theorem exists_occurrencesFrom_eq_cons {found : α} {length : Nat} (ne : text ≠ [])
    (here : recognise last? text = some (found, length)) :
    ∃ others, occurrencesFrom recognise 0 last? text = found :: others := by
  obtain ⟨c, text, rfl⟩ := List.exists_cons_of_ne_nil ne
  rw [occurrencesFrom, here]
  exact ⟨_, rfl⟩

/-- All that is found was recognised at some place. -/
theorem exists_of_mem_occurrencesFrom {found : α} {skip : Nat}
    (member : found ∈ occurrencesFrom recognise skip last? text) :
    ∃ last? text length, recognise last? text = some (found, length) := by
  induction text generalizing skip last? with
  | nil => simp [occurrencesFrom] at member
  | cons c text ih =>
    cases skip with
    | succ skip => exact ih member
    | zero =>
      rw [occurrencesFrom] at member
      cases here : recognise last? (c :: text) with
      | none => exact ih (by rwa [here] at member)
      | some first =>
        rw [here] at member
        rcases List.mem_cons.mp member with rfl | later
        · exact ⟨last?, c :: text, first.2, here⟩
        · exact ih later

end

/-! ## Texts woven of chunks and pieces -/

/-- A text that does not hold a needle. -/
abbrev Without (needle : List Char) : Type := {text : List Char // ¬ needle <:+: text}

/-- A text of chunks, which do not hold a needle, with one piece between any two of them. -/
inductive Woven (needle : List Char) (α : Type) : Type
  | last (chunk : Without needle)
  | next (chunk : Without needle) (piece : α) (rest : Woven needle α)

namespace Woven

variable {α : Type}

/-- The text, given how a piece of it is written. -/
def written (write : α → List Char) : Woven needle α → List Char
  | last chunk => chunk
  | next chunk piece rest => chunk ++ (write piece ++ rest.written write)

/-- The pieces of a text in their order. -/
def pieces : Woven needle α → List α
  | last _ => []
  | next _ piece rest => piece :: rest.pieces

end Woven

end ComponentCatalog.Text
