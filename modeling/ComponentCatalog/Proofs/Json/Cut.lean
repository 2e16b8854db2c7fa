import ComponentCatalog.Proofs.Json.Decode

/-! # Texts of JSON that are cut off

A text that was written in part is none: as long as an object is not closed, its reading stops somewhere
inside. A decoder that goes through the whole tree meets what stopped the reading, and refuses the tree,
be it of a record or of a list.
-/

namespace ComponentCatalog

namespace Doc

/-- The reading of a value stopped inside of it. -/
inductive Halted : Doc → Prop
  | broken (fault : JsonFault) : Halted (.broken fault)
  | flawed (fault : JsonFault) {inner : Doc} (halted : Halted inner) : Halted (.flawed fault inner)
  | list (items : List Doc) (fault : JsonFault) : Halted (.array items (some fault))
  | item {items : List Doc} {item : Doc} (stop? : Option JsonFault) (member : item ∈ items)
      (halted : Halted item) : Halted (.array items stop?)
  | entries (entries : List (Doc × Doc)) (fault : JsonFault) : Halted (.object entries (some fault))
  | key {entries : List (Doc × Doc)} {key value : Doc} (stop? : Option JsonFault)
      (member : (key, value) ∈ entries) (halted : Halted key) : Halted (.object entries stop?)
  | value {entries : List (Doc × Doc)} {key value : Doc} (stop? : Option JsonFault)
      (member : (key, value) ∈ entries) (halted : Halted value) : Halted (.object entries stop?)

/-! ## Readings that stop -/

/-- A value that is not read to its end is one whose reading stopped. -/
structure Halts (reading : Reading) : Prop where
  inside : reading.2 = none → Halted reading.1

theorem Halts.stopped (fault : JsonFault) : Halts (stopped fault) := ⟨fun _ => .broken fault⟩

theorem Halts.goes_on (doc : Doc) (rest : List Char) : Halts (doc, some rest) := ⟨nofun⟩

private theorem halts_readString (text : List Char) : Halts (readString text) := by
  unfold readString
  dsimp only
  split
  · split
    · exact .goes_on ..
    · exact ⟨fun _ => .flawed _ (.broken _)⟩
  · split
    · exact .goes_on ..
    · exact .stopped _

private theorem halts_readWord (value : Doc) (wanted text : List Char) :
    Halts (readWord value wanted text) := by
  fun_induction readWord with
  | case1 => exact .goes_on ..
  | case2 => exact .stopped _
  | case3 _ _ _ _ _ ih => exact ih
  | case4 => exact .stopped _

private theorem halts_readExponent (negative : Bool) (digits : Nat) (place : Int) (text : List Char) :
    Halts (readExponent negative digits place text) := by
  unfold readExponent
  dsimp only
  generalize (if (text.head? == some '-' || text.head? == some '+') = true then text.tail else text) = more
  split
  · exact .stopped _
  · exact .goes_on ..

private theorem halts_readNumber (negative : Bool) (text : List Char) :
    Halts (readNumber negative text) := by
  unfold readNumber
  dsimp only
  split
  · exact .stopped _
  · split
    · exact .stopped _
    · split
      · split
        · exact .stopped _
        · split
          · exact halts_readExponent ..
          · exact halts_readExponent ..
          · exact .goes_on ..
      · exact halts_readExponent ..
      · exact halts_readExponent ..
      · exact .goes_on ..

private theorem Halts.atDepth {reading : Reading} (halts : Halts reading) (depth : Nat) :
    Halts (atDepth depth reading.1, reading.2) := by
  refine ⟨fun stops => ?_⟩
  unfold Doc.atDepth
  split
  · exact .flawed _ (halts.inside stops)
  · exact halts.inside stops

private theorem Halts.item {doc : Doc} (halts : Halts (doc, none)) (items : List Doc)
    (stop? : Option JsonFault) : Halts (.array (doc :: items) stop?, none) :=
  ⟨fun _ => .item _ List.mem_cons_self (halts.inside rfl)⟩

private theorem Halts.items (doc : Doc) {items : List Doc} {stop? : Option JsonFault}
    {rest? : Option (List Char)} (halts : Halts (.array items stop?, rest?)) :
    Halts (.array (doc :: items) stop?, rest?) := by
  refine ⟨fun stops => ?_⟩
  cases halts.inside stops with
  | list _ fault => exact .list _ fault
  | item _ member halted => exact .item _ (List.mem_cons_of_mem _ member) halted

private theorem Halts.key {key : Doc} (halts : Halts (key, none)) (value : Doc) :
    Halts (.object [(key, value)] none, none) :=
  ⟨fun _ => .key _ List.mem_cons_self (halts.inside rfl)⟩

private theorem Halts.value {doc : Doc} (halts : Halts (doc, none)) (key : Doc) :
    Halts (.object [(key, doc)] none, none) :=
  ⟨fun _ => .value _ List.mem_cons_self (halts.inside rfl)⟩

private theorem Halts.entries (entry : Doc × Doc) {entries : List (Doc × Doc)}
    {stop? : Option JsonFault} {rest? : Option (List Char)}
    (halts : Halts (.object entries stop?, rest?)) :
    Halts (.object (entry :: entries) stop?, rest?) := by
  refine ⟨fun stops => ?_⟩
  cases halts.inside stops with
  | entries _ fault => exact .entries _ fault
  | key _ member halted => exact .key _ (List.mem_cons_of_mem _ member) halted
  | value _ member halted => exact .value _ (List.mem_cons_of_mem _ member) halted

mutual

/-- Where the reading of a value stops, it stops inside of the value. -/
theorem halts_readValue (fuel depth : Nat) (text : List Char) : Halts (readValue fuel depth text) := by
  cases fuel with
  | zero => exact .stopped _
  | succ fuel =>
    unfold readValue
    split
    · exact .stopped _
    · exact halts_readString _
    · exact (halts_readItems fuel (depth + 1) true _).atDepth depth
    · exact (halts_readEntries fuel (depth + 1) true _).atDepth depth
    · exact halts_readWord ..
    · exact halts_readWord ..
    · exact halts_readWord ..
    · exact halts_readNumber ..
    · split
      · exact halts_readNumber ..
      · exact .stopped _

/-- So does the reading of items, -/
theorem halts_readItems (fuel depth : Nat) (first : Bool) (text : List Char) :
    Halts (.array (readItems fuel depth first text).1 (readItems fuel depth first text).2.1,
      (readItems fuel depth first text).2.2) := by
  have ends : ∀ fault, Halts (.array [] (some fault), none) := fun fault => ⟨fun _ => .list _ fault⟩
  cases fuel with
  | zero => exact ends _
  | succ fuel =>
    unfold readItems
    split
    · exact ends _
    · split
      · exact .goes_on ..
      · split
        · exact ends _
        · dsimp only
          split
          · exact ends _
          · exact ends _
          · have value := halts_readValue fuel depth
            split
            · next stops =>
              exact .item (stops ▸ value _) _ _
            · exact .items _ (halts_readItems fuel depth false _)

/-- and the reading of entries. -/
theorem halts_readEntries (fuel depth : Nat) (first : Bool) (text : List Char) :
    Halts (.object (readEntries fuel depth first text).1 (readEntries fuel depth first text).2.1,
      (readEntries fuel depth first text).2.2) := by
  have ends : ∀ fault, Halts (.object [] (some fault), none) := fun fault => ⟨fun _ => .entries _ fault⟩
  cases fuel with
  | zero => exact ends _
  | succ fuel =>
    unfold readEntries
    split
    · exact ends _
    · split
      · exact .goes_on ..
      · split
        · exact ends _
        · split
          · exact ends _
          · split
            · next stops =>
              exact .key (stops ▸ halts_readString _) _
            · split
              · exact .value (.stopped _) _
              · split
                · next stops =>
                  exact .value (stops ▸ halts_readValue fuel depth _) _
                · exact .entries _ (halts_readEntries fuel depth false _)
              · exact .value (.stopped _) _
          · exact ends _

end

/-! ## Texts that are cut off -/

section

open Json

/-- An escaped character is itself, a short escape, or a long one. -/
private theorem escapeChar_cases (c : Char) :
    escapeChar c = [c] ∨ (∃ code, escapeChar c = ['\\', code]) ∨
      ∃ high low, escapeChar c = ['\\', 'u', '0', '0', high, low] := by
  unfold escapeChar
  repeat' split
  all_goals first
    | exact .inl rfl
    | exact .inr (.inl ⟨_, rfl⟩)
    | exact .inr (.inr ⟨_, _, rfl⟩)

/-- An escape that was written in part is none. -/
private theorem readText_part {c : Char} {cut more : List Char} (part : escapeChar c = cut ++ more)
    (proper : more ≠ []) : ∃ fault, (readText cut).rest = .error fault := by
  have inside : cut.length < (escapeChar c).length := by
    rw [part, List.length_append]
    exact Nat.lt_add_of_pos_right (List.length_pos_iff.mpr proper)
  have taken : cut = (escapeChar c).take cut.length := by simp [part]
  rw [taken]
  generalize cut.length = size at inside
  rcases escapeChar_cases c with same | ⟨code, same⟩ | ⟨high, low, same⟩ <;> rw [same] at inside ⊢
  · obtain rfl : size = 0 := Nat.lt_one_iff.mp inside
    exact ⟨_, rfl⟩
  · match size, inside with
    | 0, _ | 1, _ => exact ⟨_, rfl⟩
  · match size, inside with
    | 0, _ | 1, _ => exact ⟨_, rfl⟩
    | 2, _ | 3, _ | 4, _ | 5, _ =>
      simp only [List.take_succ_cons, List.take_zero, readText]
      split <;> exact ⟨_, rfl⟩

/-- A string that was written in part has no end. -/
private theorem readText_cut {chars cut : List Char} (before : cut <+: chars.flatMap escapeChar) :
    ∃ fault, (readText cut).rest = .error fault := by
  induction chars generalizing cut with
  | nil =>
    obtain rfl := List.prefix_nil.mp before
    exact ⟨_, rfl⟩
  | cons c more ih =>
    obtain ⟨tail, same⟩ := before
    rw [List.flatMap_cons] at same
    rcases List.append_eq_append_iff.mp same with ⟨part, inside, rest⟩ | ⟨part, rfl, rest⟩
    · by_cases whole : part = []
      · subst whole
        rw [List.append_nil] at inside
        rw [← inside, ← List.append_nil (escapeChar c), readText_escapeChar]
        exact ⟨_, rfl⟩
      · exact readText_part inside whole
    · rw [readText_escapeChar]
      exact ih ⟨tail, rest.symm⟩

private theorem readString_cut {text : String} {cut : List Char}
    (before : cut <+: text.toList.flatMap escapeChar) : (readString cut).2 = none := by
  obtain ⟨fault, stops⟩ := readText_cut before
  simp only [readString, stops]
  split <;> rfl

private theorem readWord_cut {value : Doc} {wanted cut : List Char} (before : cut <+: wanted)
    (proper : cut ≠ wanted) : (readWord value wanted cut).2 = none := by
  obtain ⟨tail, rfl⟩ := before
  induction cut with
  | nil =>
    cases tail with
    | nil => exact absurd rfl proper
    | cons c rest => rfl
  | cons c rest ih =>
    simp only [List.cons_append, readWord, beq_self_eq_true, ↓reduceIte]
    exact ih fun same => proper (congrArg (c :: ·) same)

/-- What stands behind digits alone is nothing. -/
private theorem readNumber_digits (negative : Bool) {text : List Char}
    (digits : ∀ c ∈ text, c.isDigit = true) :
    (readNumber negative text).2 = none ∨ (readNumber negative text).2 = some [] := by
  have all : (text ++ []).takeWhile Char.isDigit = text ++ [].takeWhile Char.isDigit :=
    List.takeWhile_append_of_pos digits
  have none : (text ++ []).dropWhile Char.isDigit = [].dropWhile Char.isDigit :=
    List.dropWhile_append_of_pos digits
  rw [List.append_nil, List.takeWhile_nil, List.append_nil] at all
  rw [List.append_nil, List.dropWhile_nil] at none
  simp only [readNumber, all, none]
  split
  · exact .inl rfl
  · split
    · exact .inl rfl
    · exact .inr rfl

private theorem readValue_number_cut {n : Int} (fuel depth : Nat) {cut : List Char}
    (before : cut <+: numberText (.whole n)) :
    (readValue fuel depth cut).2 = none ∨ (readValue fuel depth cut).2 = some [] := by
  cases fuel with
  | zero => exact .inl rfl
  | succ fuel =>
    cases cut with
    | nil => exact .inl rfl
    | cons c rest =>
      rw [numberText, Int.toString_eq_repr, Int.repr_eq_if] at before
      split at before
      · have digits : ∀ d ∈ c :: rest, d.isDigit = true := fun d member =>
          isDigit_of_mem_toDigits (n := n.toNat) (by simpa using before.subset member)
        rw [readValue_digit (digits c List.mem_cons_self)]
        exact readNumber_digits false digits
      · rw [String.toList_append] at before
        obtain ⟨sign, before⟩ := List.cons_prefix_cons.mp (before : c :: rest <+: '-' :: _)
        have digits : ∀ d ∈ rest, d.isDigit = true := fun d member =>
          isDigit_of_mem_toDigits (n := (-n).toNat) (by simpa using before.subset member)
        subst sign
        exact readNumber_digits true digits

/-- Behind what is cut off stands nothing. -/
private def Ends (reading : Reading) : Prop := reading.2 = none ∨ reading.2 = some []

/-- A list ends with the item in which it is cut off, -/
private theorem readItems_ends {fuel depth : Nat} {c : Char} (blank : isBlank c = false)
    (item : c ≠ ']') {text : List Char} (ends : Ends (readValue fuel depth (c :: text))) :
    (readItems (fuel + 1) depth false (',' :: c :: text)).2.2 = none := by
  rcases value : readValue fuel depth (c :: text) with ⟨doc, rest?⟩
  rw [value] at ends
  rcases ends with stops | empty
  · obtain rfl : rest? = none := stops
    have skipped : skipBlanks (c :: text) = c :: text := by simp [skipBlanks, blank]
    have comma : skipBlanks (',' :: c :: text) = ',' :: c :: text := rfl
    rw [readItems, comma]
    simp [skipped, value]
  · obtain rfl : rest? = some [] := empty
    rw [readItems_comma fuel depth blank item value]
    cases fuel <;> rfl

/-- and an object with the entry in which it is. -/
private theorem readEntries_ends {fuel depth : Nat} {quoted text : List Char} {key : Doc}
    (named : readString quoted = (key, some (':' :: text))) (ends : Ends (readValue fuel depth text)) :
    (readEntries (fuel + 1) depth false (',' :: '"' :: quoted)).2.2 = none := by
  rcases value : readValue fuel depth text with ⟨doc, rest?⟩
  rw [value] at ends
  rcases ends with stops | empty
  · obtain rfl : rest? = none := stops
    have skipped : skipBlanks ('"' :: quoted) = '"' :: quoted := rfl
    have comma : skipBlanks (',' :: '"' :: quoted) = ',' :: '"' :: quoted := rfl
    have colon : skipBlanks (':' :: text) = ':' :: text := rfl
    rw [readEntries, comma]
    simp [skipped, named, colon, value]
  · obtain rfl : rest? = some [] := empty
    rw [readEntries_comma fuel depth named value]
    cases fuel <;> rfl

/-- So it does if the key is cut off, or nothing stands behind it. -/
private theorem readEntries_ends_key {fuel depth : Nat} {quoted : List Char}
    (ends : Ends (readString quoted)) :
    (readEntries (fuel + 1) depth false (',' :: '"' :: quoted)).2.2 = none := by
  have skipped : skipBlanks ('"' :: quoted) = '"' :: quoted := rfl
  have comma : skipBlanks (',' :: '"' :: quoted) = ',' :: '"' :: quoted := rfl
  rcases named : readString quoted with ⟨key, rest?⟩
  rw [named] at ends
  rw [readEntries, comma]
  rcases ends with stops | empty
  · obtain rfl : rest? = none := stops
    simp [skipped, named]
  · obtain rfl : rest? = some [] := empty
    have nothing : skipBlanks [] = [] := rfl
    simp [skipped, named, nothing]

/-- A prefix of two texts lies within the first one, or goes on into the second. -/
private theorem prefix_append_cases {cut first second : List Char} (before : cut <+: first ++ second) :
    (cut <+: first ∧ cut ≠ first) ∨ ∃ rest, cut = first ++ rest ∧ rest <+: second := by
  obtain ⟨tail, same⟩ := before
  rcases List.append_eq_append_iff.mp same with ⟨part, inside, -⟩ | ⟨part, rfl, rest⟩
  · by_cases whole : part = []
    · exact .inr ⟨[], by simp [inside, whole], List.nil_prefix⟩
    · refine .inl ⟨⟨part, inside.symm⟩, fun same => whole ?_⟩
      simpa [same] using inside
  · exact .inr ⟨part, rfl, tail, rest.symm⟩

private theorem moreItems_cons (item : Json) (rest : List Json) :
    moreItems (item :: rest) = ',' :: (compactText item ++ moreItems rest) := rfl

private theorem moreEntries_cons (entry : String × Json) (rest : List (String × Json)) :
    moreEntries (entry :: rest) =
      ',' :: (quoteText entry.1 ++ ':' :: (compactText entry.2 ++ moreEntries rest)) := by
  simp [moreEntries]

private theorem endsNumber_cut {rest more : List Char} (before : rest <+: more)
    (ends : EndsNumber more) : EndsNumber rest := by
  intro c first
  cases rest with
  | nil => cases first
  | cons d tail =>
    obtain ⟨behind, rfl⟩ := before
    exact ends c first

/-- The reading of a list stops where its items are cut off, -/
private theorem readItems_opened {items : List Json} (whole : WholeItems items) {fuel depth : Nat}
    {cut : List Char} (enough : 2 * cut.length + 1 ≤ fuel) (part : cut <+: compactItems items)
    (stops : ∀ cut, 2 * cut.length ≤ fuel + 1 → cut <+: moreItems items →
      (readItems fuel depth false cut).2.2 = none) : (readItems fuel depth true cut).2.2 = none := by
  cases cut with
  | nil => cases fuel <;> rfl
  | cons d cut =>
    cases items with
    | nil => cases List.prefix_nil.mp part
    | cons item more =>
      obtain ⟨first, tail, head, blank, inside⟩ := compactText_cons item whole.1
      rw [compactItems_cons] at part
      have behind : ',' :: d :: cut <+: moreItems (item :: more) :=
        List.cons_prefix_cons.mpr ⟨rfl, part⟩
      rw [head] at part
      obtain ⟨rfl, -⟩ := List.cons_prefix_cons.mp part
      rw [readItems_begin fuel depth blank inside]
      exact stops _ (by simp only [List.length_cons] at enough ⊢; omega) behind

/-- and that of an object where its entries are. -/
private theorem readEntries_opened {entries : List (String × Json)} {fuel depth : Nat}
    {cut : List Char} (enough : 2 * cut.length + 1 ≤ fuel) (part : cut <+: compactEntries entries)
    (stops : ∀ cut, 2 * cut.length ≤ fuel + 1 → cut <+: moreEntries entries →
      (readEntries fuel depth false cut).2.2 = none) : (readEntries fuel depth true cut).2.2 = none := by
  cases cut with
  | nil => cases fuel <;> rfl
  | cons d cut =>
    cases entries with
    | nil => cases List.prefix_nil.mp part
    | cons entry more =>
      rw [compactEntries_cons] at part
      have behind : ',' :: d :: cut <+: moreEntries (entry :: more) := by
        rw [moreEntries_cons]
        exact List.cons_prefix_cons.mpr ⟨rfl, part⟩
      rw [quoteText] at part
      obtain ⟨rfl, -⟩ := List.cons_prefix_cons.mp part
      rw [readEntries_begin fuel depth]
      exact stops _ (by simp only [List.length_cons] at enough ⊢; omega) behind

mutual

/-- Behind a value that is cut off stands nothing. -/
private theorem readValue_cut (value : Json) (whole : value.Whole) (fuel depth : Nat) {cut : List Char}
    (enough : 2 * cut.length ≤ fuel) (before : cut <+: compactText value)
    (proper : cut ≠ compactText value) : Ends (readValue fuel depth cut) := by
  cases fuel with
  | zero => exact .inl rfl
  | succ fuel =>
    cases cut with
    | nil => exact .inl rfl
    | cons c cut =>
      rw [List.length_cons] at enough
      cases value with
      | null =>
        change c :: cut <+: 'n' :: "ull".toList at before
        obtain ⟨rfl, inner⟩ := List.cons_prefix_cons.mp before
        exact .inl (readWord_cut inner fun same => proper (congrArg _ same))
      | bool b =>
        cases b with
        | true =>
          change c :: cut <+: 't' :: "rue".toList at before
          obtain ⟨rfl, inner⟩ := List.cons_prefix_cons.mp before
          exact .inl (readWord_cut inner fun same => proper (congrArg _ same))
        | false =>
          change c :: cut <+: 'f' :: "alse".toList at before
          obtain ⟨rfl, inner⟩ := List.cons_prefix_cons.mp before
          exact .inl (readWord_cut inner fun same => proper (congrArg _ same))
      | number n =>
        cases n with
        | whole n => exact readValue_number_cut (fuel + 1) depth before
        | real x => exact whole.elim
      | string text =>
        rw [compactText, quoteText] at before proper
        obtain ⟨rfl, inner⟩ := List.cons_prefix_cons.mp before
        rcases List.prefix_concat_iff.mp inner with all | part
        · exact absurd (congrArg _ all) proper
        · exact .inl (readString_cut part)
      | array items =>
        rw [compactText] at before proper
        obtain ⟨rfl, inner⟩ := List.cons_prefix_cons.mp before
        rcases List.prefix_concat_iff.mp inner with all | part
        · exact absurd (congrArg _ all) proper
        · rw [readValue_list fuel depth rfl]
          exact .inl (readItems_opened whole (by omega) part (readItems_cut items whole fuel (depth + 1)))
      | object entries =>
        rw [compactText] at before proper
        obtain ⟨rfl, inner⟩ := List.cons_prefix_cons.mp before
        rcases List.prefix_concat_iff.mp inner with all | part
        · exact absurd (congrArg _ all) proper
        · rw [readValue_object fuel depth rfl]
          exact .inl (readEntries_opened (by omega) part
            (readEntries_cut entries whole fuel (depth + 1)))

/-- The reading of items stops where they are cut off, -/
private theorem readItems_cut (items : List Json) (whole : WholeItems items) (fuel depth : Nat)
    (cut : List Char) (enough : 2 * cut.length ≤ fuel + 1) (before : cut <+: moreItems items) :
    (readItems fuel depth false cut).2.2 = none := by
  cases fuel with
  | zero => rfl
  | succ fuel =>
    cases items with
    | nil =>
      obtain rfl := List.prefix_nil.mp before
      rfl
    | cons item more =>
      cases cut with
      | nil => rfl
      | cons comma cut =>
        rw [moreItems_cons] at before
        obtain ⟨rfl, behind⟩ := List.cons_prefix_cons.mp before
        obtain ⟨c, tail, head, blank, inside⟩ := compactText_cons item whole.1
        rw [List.length_cons] at enough
        rcases prefix_append_cases behind with ⟨within, proper⟩ | ⟨rest, rfl, others⟩
        · have ends := readValue_cut item whole.1 fuel depth (by omega) within proper
          cases cut with
          | nil => rfl
          | cons d cut =>
            rw [head] at within
            obtain ⟨rfl, -⟩ := List.cons_prefix_cons.mp within
            exact readItems_ends blank inside ends
        · have some : 0 < (compactText item).length := by rw [head]; exact Nat.succ_pos _
          rw [List.length_append] at enough
          have value := readValue_compactText item whole.1 fuel depth (by omega)
            (endsNumber_cut (others.trans (List.prefix_append ..)) (endsNumber_items more []))
          have stops := readItems_cut more whole.2 fuel depth rest (by omega) others
          rw [head, List.cons_append] at value
          rw [head, List.cons_append, readItems_comma fuel depth blank inside value]
          exact stops

/-- and so does the reading of entries. -/
private theorem readEntries_cut (entries : List (String × Json)) (whole : WholeEntries entries)
    (fuel depth : Nat) (cut : List Char) (enough : 2 * cut.length ≤ fuel + 1)
    (before : cut <+: moreEntries entries) : (readEntries fuel depth false cut).2.2 = none := by
  cases fuel with
  | zero => rfl
  | succ fuel =>
    cases entries with
    | nil =>
      obtain rfl := List.prefix_nil.mp before
      rfl
    | cons entry more =>
      obtain ⟨key, item⟩ := entry
      match cut with
      | [] => rfl
      | [comma] =>
        rw [moreEntries_cons] at before
        obtain ⟨rfl, -⟩ := List.cons_prefix_cons.mp before
        rfl
      | comma :: quote :: cut =>
        rw [moreEntries_cons] at before
        dsimp only at before
        obtain ⟨rfl, behind⟩ := List.cons_prefix_cons.mp before
        rw [quoteText, List.cons_append, List.append_assoc] at behind
        obtain ⟨rfl, inner⟩ := List.cons_prefix_cons.mp behind
        simp only [List.length_cons] at enough
        rcases prefix_append_cases inner with ⟨within, -⟩ | ⟨rest, rfl, ended⟩
        · exact readEntries_ends_key (.inl (readString_cut within))
        · have named : ∀ more, readString (key.toList.flatMap escapeChar ++ '"' :: more) =
              (.string key, some more) := fun more => by simp [readString, readText_flatMap]
          match rest with
          | [] =>
            have all : key.toList.flatMap escapeChar ++ [] <+: key.toList.flatMap escapeChar := by simp
            exact readEntries_ends_key (.inl (readString_cut all))
          | [close] =>
            obtain ⟨rfl, -⟩ := List.cons_prefix_cons.mp ended
            exact readEntries_ends_key (.inr (by rw [named]))
          | close :: colon :: rest =>
            obtain ⟨rfl, second⟩ := List.cons_prefix_cons.mp ended
            obtain ⟨rfl, after⟩ := List.cons_prefix_cons.mp second
            simp only [List.length_append, List.length_cons] at enough
            rcases prefix_append_cases after with ⟨within, proper⟩ | ⟨rest, rfl, others⟩
            · exact readEntries_ends (named _)
                (readValue_cut item whole.1 fuel depth (by omega) within proper)
            · rw [List.length_append] at enough
              have value := readValue_compactText item whole.1 fuel depth (by omega)
                (endsNumber_cut (others.trans (List.prefix_append ..)) (endsNumber_entries more []))
              rw [readEntries_comma fuel depth (named _) value]
              exact readEntries_cut more whole.2 fuel depth rest (by omega) others

end

/-- The tree of an object's text that was written in part was not read to its end. -/
theorem halted_ofText {entries : List (String × Json)} (whole : WholeEntries entries) {cut : String}
    (before : cut.toList <+: compactText (.object entries)) (proper : cut ≠ (Json.object entries).compact) :
    Halted (ofText cut).1 := by
  have short : cut.toList ≠ compactText (.object entries) := fun same =>
    proper (String.toList_injective (by rw [same, Json.compact, String.toList_ofList]))
  have stops : (readValue (2 * cut.toList.length + 2) 0 cut.toList).2 = none := by
    rw [compactText] at before short
    cases chars : cut.toList with
    | nil => rfl
    | cons c rest =>
      rw [chars] at before short
      obtain ⟨rfl, inner⟩ := List.cons_prefix_cons.mp before
      rcases List.prefix_concat_iff.mp inner with all | part
      · exact absurd (congrArg _ all) short
      · rw [readValue_object _ 0 rfl]
        exact readEntries_opened (by simp only [List.length_cons]; omega) part
          (readEntries_cut entries whole _ 1)
  have halts := (halts_readValue (2 * cut.toList.length + 2) 0 cut.toList).inside stops
  rw [ofText]
  split
  · next read => rwa [read] at halts
  · next read =>
    rw [read] at stops
    cases stops

end

/-! ## Decoders -/

/-- A decoder that takes no value whose reading stopped. -/
structure Strict {α : Type} (decoder : Decoder α) : Prop where
  ended : ∀ {doc value}, decoder doc = .ok value → ¬ Halted doc

variable {α : Type} {decoder : Decoder α}

theorem strict_text (wanted : String) : Strict (text wanted) := by
  refine ⟨fun {doc value} read halted => ?_⟩
  cases halted <;> cases read

theorem strict_asBool : Strict asBool := by
  refine ⟨fun {doc value} read halted => ?_⟩
  cases halted <;> cases read

theorem strict_asWord : Strict asWord := by
  refine ⟨fun {doc value} read halted => ?_⟩
  cases halted <;> cases read

theorem of_bind_ok {β γ : Type} {first : Except JsonFault β} {next : β → Except JsonFault γ}
    {result : γ} (ok : (first >>= next) = .ok result) :
    ∃ value, first = .ok value ∧ next value = .ok result := by
  cases first with
  | error fault => cases ok
  | ok value => exact ⟨value, rfl, ok⟩

theorem Strict.optional (strict : Strict decoder) : Strict (Doc.optional decoder) := by
  refine ⟨fun {doc value} read halted => ?_⟩
  have inner : ∃ value, decoder doc = .ok value := by
    unfold Doc.optional at read
    split at read
    · cases halted
    · cases taken : decoder doc with
      | error fault => rw [taken] at read; cases read
      | ok value => exact ⟨value, rfl⟩
  obtain ⟨value, taken⟩ := inner
  exact strict.ended taken halted

private theorem Strict.mapM (strict : Strict decoder) {docs : List Doc} {values : List α}
    (read : docs.mapM decoder = .ok values) : ∀ doc ∈ docs, ¬ Halted doc := by
  induction docs generalizing values with
  | nil => simp
  | cons doc rest ih =>
    rw [List.mapM_cons] at read
    obtain ⟨first, taken, read⟩ := of_bind_ok read
    obtain ⟨others, more, -⟩ := of_bind_ok read
    exact List.forall_mem_cons.mpr ⟨strict.ended taken, ih more⟩

theorem Strict.list (strict : Strict decoder) : Strict (Doc.list decoder) := by
  refine ⟨fun {doc value} read halted => ?_⟩
  unfold Doc.list at read
  split at read
  · obtain ⟨values, taken, read⟩ := of_bind_ok read
    obtain ⟨_, ended, -⟩ := of_bind_ok read
    cases halted with
    | list _ fault => cases ended
    | item _ member halted => exact strict.mapM taken _ member halted
  · cases halted <;> cases read

/-! ### Records -/

mutual

/-- What is passed over was read to its end, -/
private theorem not_halted_ignored {doc : Doc} (passed : doc.ignored = .ok ()) : ¬ Halted doc := by
  cases doc with
  | null | bool | number | string => nofun
  | broken fault => cases passed
  | flawed fault inner =>
    intro halted
    cases halted with
    | flawed _ halted =>
      rw [ignored] at passed
      exact not_halted_ignored passed halted
  | array items stop? =>
    rw [ignored] at passed
    obtain ⟨_, inside, ended⟩ := of_bind_ok passed
    intro halted
    cases halted with
    | list _ fault => cases ended
    | item _ member halted => exact not_halted_ignoredItems inside _ member halted
  | object entries stop? =>
    rw [ignored] at passed
    obtain ⟨_, inside, ended⟩ := of_bind_ok passed
    intro halted
    cases halted with
    | entries _ fault => cases ended
    | key _ member halted => exact (not_halted_ignoredEntries inside _ member).1 halted
    | value _ member halted => exact (not_halted_ignoredEntries inside _ member).2 halted

/-- each of the items, -/
private theorem not_halted_ignoredItems {items : List Doc} (passed : ignoredItems items = .ok ()) :
    ∀ item ∈ items, ¬ Halted item := by
  cases items with
  | nil => simp
  | cons item rest =>
    rw [ignoredItems] at passed
    obtain ⟨_, first, others⟩ := of_bind_ok passed
    exact List.forall_mem_cons.mpr ⟨not_halted_ignored first, not_halted_ignoredItems others⟩

/-- and each of the entries. -/
private theorem not_halted_ignoredEntries {entries : List (Doc × Doc)}
    (passed : ignoredEntries entries = .ok ()) :
    ∀ entry ∈ entries, ¬ Halted entry.1 ∧ ¬ Halted entry.2 := by
  cases entries with
  | nil => simp
  | cons entry rest =>
    obtain ⟨key, value⟩ := entry
    rw [ignoredEntries] at passed
    obtain ⟨_, named, passed⟩ := of_bind_ok passed
    obtain ⟨_, first, others⟩ := of_bind_ok passed
    exact List.forall_mem_cons.mpr
      ⟨⟨not_halted_ignored named, not_halted_ignored first⟩, not_halted_ignoredEntries others⟩

end

/-- A field that takes no value whose reading stopped. -/
structure Field.Strict {σ : Type} (field : Field σ) : Prop where
  ended : ∀ {doc record next}, field.read doc record = .ok next → ¬ Halted doc

variable {σ : Type}

theorem Strict.field (strict : Strict decoder) (key : String) (required : Bool) (put : α → σ → σ) :
    (Doc.field key required decoder put).Strict := by
  refine ⟨fun {doc record next} read => ?_⟩
  obtain ⟨value, taken, -⟩ := of_bind_ok read
  exact strict.ended taken

variable {fields : List (Field σ)} (strict : ∀ field ∈ fields, field.Strict)
include strict

private theorem not_halted_readEntriesInto {entries : List (Doc × Doc)} {seen : List String} {record : σ}
    {result : List String × σ} (read : readEntriesInto fields entries seen record = .ok result) :
    ∀ entry ∈ entries, ¬ Halted entry.1 ∧ ¬ Halted entry.2 := by
  induction entries generalizing seen record with
  | nil => simp
  | cons entry rest ih =>
    obtain ⟨key, value⟩ := entry
    rw [readEntriesInto] at read
    obtain ⟨name, named, read⟩ := of_bind_ok read
    have value_rest : ¬ Halted value ∧ ∀ entry ∈ rest, ¬ Halted entry.1 ∧ ¬ Halted entry.2 := by
      split at read
      · next field found =>
        dsimp only at read
        split at read
        · cases read
        · obtain ⟨record, taken, others⟩ := of_bind_ok read
          exact ⟨(strict field (List.mem_of_find?_eq_some found)).ended taken, ih others⟩
      · obtain ⟨_, passed, others⟩ := of_bind_ok read
        exact ⟨not_halted_ignored passed, ih others⟩
    exact List.forall_mem_cons.mpr ⟨⟨(strict_text _).ended named, value_rest.1⟩, value_rest.2⟩

private theorem not_halted_readItemsInto {wanted : String} {stop? : Option JsonFault} {index : Nat}
    {items rest : List Doc} {record next : σ}
    (read : readItemsInto wanted stop? fields index items record = .ok (rest, next)) :
    ∀ item ∈ items, ¬ Halted item ∨ item ∈ rest := by
  induction fields generalizing index items record with
  | nil =>
    cases read
    exact fun item member => .inr member
  | cons field fields ih =>
    cases items with
    | nil => simp
    | cons item items =>
      rw [readItemsInto] at read
      obtain ⟨record, taken, others⟩ := of_bind_ok read
      refine List.forall_mem_cons.mpr ⟨.inl ((strict field List.mem_cons_self).ended taken), ?_⟩
      exact ih (fun other member => strict other (List.mem_cons_of_mem _ member)) others

omit strict in
/-- A record is taken from no value whose reading stopped. -/
theorem strict_record (strict : ∀ field ∈ fields, field.Strict) (wanted : String) (start : σ) :
    Strict (record wanted fields start) := by
  refine ⟨fun {doc value} read halted => ?_⟩
  unfold record at read
  split at read
  · obtain ⟨result, inside, read⟩ := of_bind_ok read
    obtain ⟨_, ended, -⟩ := of_bind_ok read
    cases halted with
    | entries _ fault => cases ended
    | key _ member halted => exact (not_halted_readEntriesInto strict inside _ member).1 halted
    | value _ member halted => exact (not_halted_readEntriesInto strict inside _ member).2 halted
  · obtain ⟨⟨rest, result⟩, inside, read⟩ := of_bind_ok read
    obtain ⟨_, ended, -⟩ := of_bind_ok read
    change behindFields rest _ = .ok _ at ended
    unfold behindFields at ended
    split at ended
    · cases halted with
      | item _ member halted =>
        exact (not_halted_readItemsInto strict inside _ member).elim (· halted) List.not_mem_nil
    all_goals cases ended
  · cases halted <;> cases read

omit strict in
/-- An object's text that was written in part is decoded to nothing. -/
theorem Strict.decode_cut (strict : Strict decoder) {entries : List (String × Json)}
    (whole : Json.WholeEntries entries) {cut : String}
    (before : cut.toList <+: Json.compactText (.object entries))
    (proper : cut ≠ (Json.object entries).compact) (value : α) : Doc.decode decoder cut ≠ .ok value := by
  intro read
  obtain ⟨value, taken, -⟩ := of_bind_ok read
  exact strict.ended taken (halted_ofText whole before proper)

end Doc

end ComponentCatalog
