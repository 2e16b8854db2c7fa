import ComponentCatalog.Proofs.Text.Scan
import ComponentCatalog.Transform.Pipeline

/-! # Content slots line by line

What becomes of a line: nothing, or the part from the first start of a content slot to the last end of a
tag is a native slot. No start of a content slot arises where the native slot meets the rest, and behind
it no tag ends any more. So a second run changes nothing. Lines do not see each other.
-/

namespace ComponentCatalog.Transform

open Component Text

variable {text line name before behind rest : List Char}

theorem sharp_contentSlotStart : Sharp contentSlotStart := by decide

theorem sharp_reverse_tagEnd : Sharp tagEnd.reverse := by decide

/-! ## The slot that is used -/

/-- The name of a slot that is used: small Latin letters. -/
def IsSlotName (name : List Char) : Prop := name ≠ [] ∧ ∀ c ∈ name, isSlotLetter c = true

theorem IsSlotName.not_mem (named : IsSlotName name) {c : Char} (other : isSlotLetter c = false) :
    c ∉ name := by
  intro member
  rw [named.2 c member] at other
  cases other

/-- A slot is used at the start of a text if its name stands there between the right marks. -/
theorem useAt?_eq_some_iff :
    useAt? text = some (name, rest) ↔ IsSlotName name ∧ text = contentSlotUse ++ (name ++ '"' :: rest) := by
  constructor
  · intro found
    rw [useAt?] at found
    split at found
    · cases found
    · rename_i starts
      rw [Bool.not_eq_true, Bool.not_eq_false', List.isPrefixOf_iff_prefix] at starts
      obtain ⟨tail, rfl⟩ := starts
      simp only [List.drop_left] at found
      split at found
      · rename_i rest' behind
        split at found
        · cases found
        · rename_i filled
          cases found
          refine ⟨⟨by simpa using filled, fun c member => ?_⟩, ?_⟩
          · exact List.all_eq_true.mp List.all_takeWhile c member
          · rw [← behind, List.takeWhile_append_dropWhile]
      · cases found
  · rintro ⟨⟨filled, letters⟩, rfl⟩
    have quote : isSlotLetter '"' = false := by decide
    have ends : (name ++ '"' :: rest).dropWhile isSlotLetter = '"' :: rest := by
      rw [List.dropWhile_append_of_pos letters, List.dropWhile_cons_of_neg (by simp [quote])]
    have kept : (name ++ '"' :: rest).takeWhile isSlotLetter = name := by
      rw [List.takeWhile_append_of_pos letters, List.takeWhile_cons_of_neg (by simp [quote]), List.append_nil]
    rw [useAt?, if_neg (by simp [List.isPrefixOf_iff_prefix])]
    simp [ends, kept, filled]

/-- What stands behind the tag of the slot that is used, and what its name is like. -/
theorem lastUse?_eq_some (found : lastUse? text = some (name, behind)) :
    IsSlotName name ∧ ¬ tagEnd <:+: behind ∧ behind <:+ text := by
  induction text with
  | nil => cases found
  | cons c rest ih =>
    rw [lastUse?] at found
    split at found
    · cases found
      obtain ⟨named, free, suffix⟩ := ih ‹_›
      exact ⟨named, free, suffix.trans (List.suffix_cons c rest)⟩
    · obtain ⟨⟨name', tail⟩, used, found⟩ := Option.bind_eq_some_iff.mp found
      obtain ⟨⟨inner, behind'⟩, cut, same⟩ := Option.bind_eq_some_iff.mp found
      cases same
      obtain ⟨named, whole⟩ := useAt?_eq_some_iff.mp used
      refine ⟨named, not_infix_of_cutAtLast (by decide) cut, ?_⟩
      rw [whole, eq_of_cutAtLast cut]
      exact ⟨contentSlotUse ++ (name ++ '"' :: (inner ++ tagEnd)), by simp⟩

/-- Without an end of a tag no slot is used. -/
theorem lastUse?_eq_none (free : ¬ tagEnd <:+: text) : lastUse? text = none := by
  induction text with
  | nil => rfl
  | cons c rest ih =>
    rw [lastUse?, ih fun found => free (List.infix_cons found)]
    cases used : useAt? (c :: rest) with
    | none => rfl
    | some use =>
      obtain ⟨name, tail⟩ := use
      have whole := (useAt?_eq_some_iff.mp used).2
      have open_ : ¬ tagEnd <:+: tail := by
        intro found
        apply free
        rw [whole]
        exact found.trans ⟨contentSlotUse ++ (name ++ ['"']), [], by simp⟩
      simp [cutAtLast_eq_none_iff.mpr open_]

/-! ## A line -/

/-- A native slot starts a tag that is no content slot, and holds no other. -/
theorem nativeSlot_eq (named : IsSlotName name) :
    ∃ rest, nativeSlot name = '<' :: 's' :: rest ∧ '<' ∉ rest ∧ '\n' ∉ rest := by
  have opening : '<' ∉ name := named.not_mem (by decide)
  have newline : '\n' ∉ name := named.not_mem (by decide)
  unfold nativeSlot
  split
  · exact ⟨"lot  />".toList, rfl, by decide, by decide⟩
  · exact ⟨"lot name=\"".toList ++ name ++ "\" />".toList, rfl, by simp [opening], by simp [newline]⟩

/-- What can become of a line: its first content slot, which ends where the last tag ends, is made
native, or nothing is done. -/
theorem contentSlotLine_cases (line : List Char) :
    contentSlotLine line = line ∨ ∃ before name inner behind,
      line = before ++ (contentSlotStart ++ (inner ++ behind)) ∧
      contentSlotLine line = before ++ (nativeSlot name ++ behind) ∧
      ¬ contentSlotStart <:+: before ∧ IsSlotName name ∧ ¬ tagEnd <:+: behind := by
  unfold contentSlotLine
  cases cut : cutAt contentSlotStart line with
  | none => exact .inl rfl
  | some parts =>
    obtain ⟨before, tail⟩ := parts
    simp only
    cases used : lastUse? tail with
    | none => exact .inl rfl
    | some use =>
      obtain ⟨name, behind⟩ := use
      obtain ⟨named, free, inner, rfl⟩ := lastUse?_eq_some used
      refine .inr ⟨before, name, inner, behind, ?_, ?_, not_infix_of_cutAt (by decide) cut, named, free⟩
      · rw [eq_of_cutAt cut, List.append_assoc]
      · simp only [List.append_assoc]

/-- A line in which no tag ends stays. -/
theorem contentSlotLine_of_open (free : ¬ tagEnd <:+: line) : contentSlotLine line = line := by
  unfold contentSlotLine
  cases cut : cutAt contentSlotStart line with
  | none => rfl
  | some parts =>
    obtain ⟨before, tail⟩ := parts
    have unused : lastUse? tail = none := lastUse?_eq_none fun found => free <| by
      rw [eq_of_cutAt cut]
      exact found.trans (List.suffix_append _ tail).isInfix
    simp [unused]

/-- The part of a line in which no content slot starts stays. -/
theorem contentSlotLine_append (before rest : List Char)
    (free : ∀ head tail, before = head ++ tail → tail ≠ [] → ¬ contentSlotStart <+: tail ++ rest) :
    contentSlotLine (before ++ rest) = before ++ contentSlotLine rest := by
  induction before with
  | nil => rfl
  | cons c before ih =>
    have here := free [] (c :: before) rfl (List.cons_ne_nil _ _)
    rw [List.cons_append, List.cons_append, ← ih fun head tail split ne => ?_]
    · rw [← List.isPrefixOf_iff_prefix, List.cons_append] at here
      rw [contentSlotLine, contentSlotLine, cutAt, if_neg here]
      cases cut : cutAt contentSlotStart (before ++ rest) with
      | none => rfl
      | some parts =>
        obtain ⟨front, tail⟩ := parts
        cases used : lastUse? tail <;> simp [used]
    · exact free (c :: head) tail (by rw [split, List.cons_append]) ne

/-- A line whose content slot is native has none left. -/
theorem contentSlotLine_idem (line : List Char) :
    contentSlotLine (contentSlotLine line) = contentSlotLine line := by
  obtain same | ⟨before, name, inner, behind, -, becomes, free, named, open_⟩ := contentSlotLine_cases line
  · rw [same, same]
  · obtain ⟨tag, native, lone, -⟩ := nativeSlot_eq named
    rw [becomes, contentSlotLine_append before, contentSlotLine_append (nativeSlot name),
      contentSlotLine_of_open open_]
    · -- A content slot would start where the native one does, and go on with another letter.
      intro head tail split ne found
      rw [native] at split
      cases head with
      | nil =>
        rw [List.nil_append] at split
        rw [← split] at found
        exact absurd (List.cons_prefix_cons.mp (List.cons_prefix_cons.mp found).2).1 (by decide)
      | cons d head =>
        obtain ⟨e, tail, rfl⟩ := List.exists_cons_of_ne_nil ne
        have same : '<' = e := (List.cons_prefix_cons.mp found).1
        simp only [List.cons_append, List.cons.injEq] at split
        have member : e ∈ 's' :: tag := by
          rw [split.2]
          exact List.mem_append_right head List.mem_cons_self
        rw [← same] at member
        exact absurd member (by simp [lone])
    · intro head tail split ne
      exact sharp_contentSlotStart.not_prefix free (by simp [native]; rfl) split ne

/-- What becomes of a line is one line. -/
theorem newline_not_mem_contentSlotLine (single : '\n' ∉ line) : '\n' ∉ contentSlotLine line := by
  obtain same | ⟨before, name, inner, behind, whole, becomes, -, named, -⟩ := contentSlotLine_cases line
  · rwa [same]
  · obtain ⟨tag, native, -, lone⟩ := nativeSlot_eq named
    rw [becomes, native]
    rw [whole] at single
    simp only [List.mem_append, not_or] at single
    simp [single, lone]

/-! ## The lines of a text -/

theorem splitWhere_newline (text : List Char) : splitWhere (· == '\n') text = text.splitOn '\n' := by
  induction text with
  | nil => rfl
  | cons c rest ih =>
    rw [splitWhere, List.splitOn_cons_eq_if_modifyHead, ih]
    split
    · rfl
    · obtain ⟨first, more, lines⟩ := List.exists_cons_of_ne_nil (List.splitOn_ne_nil '\n' rest)
      rw [lines, addToFirst, List.modifyHead_cons]

theorem newline_not_mem_of_mem_splitOn (member : line ∈ text.splitOn '\n') : '\n' ∉ line := by
  induction text generalizing line with
  | nil => simp_all
  | cons c rest ih =>
    rw [List.splitOn_cons_eq_if_modifyHead] at member
    obtain ⟨first, more, lines⟩ := List.exists_cons_of_ne_nil (List.splitOn_ne_nil '\n' rest)
    rw [lines] at ih member
    split at member
    · rcases List.mem_cons.mp member with rfl | later
      · exact List.not_mem_nil
      · exact ih later
    · rename_i other
      rcases List.mem_cons.mp member with rfl | later
      · rw [List.mem_cons, not_or]
        exact ⟨fun same => other (by simp [← same]), ih List.mem_cons_self⟩
      · exact ih (List.mem_cons_of_mem first later)

theorem contentSlots_eq (text : List Char) :
    contentSlots text = ['\n'].intercalate ((text.splitOn '\n').map contentSlotLine) := by
  rw [contentSlots, splitWhere_newline]

/-- The lines of what becomes of a text are what becomes of its lines. -/
theorem splitOn_contentSlots (text : List Char) :
    (contentSlots text).splitOn '\n' = (text.splitOn '\n').map contentSlotLine := by
  rw [contentSlots_eq]
  apply List.splitOn_intercalate
  · intro line member
    obtain ⟨line', member', rfl⟩ := List.mem_map.mp member
    exact newline_not_mem_contentSlotLine (newline_not_mem_of_mem_splitOn member')
  · simp

theorem contentSlots_of_line (single : '\n' ∉ line) : contentSlots line = contentSlotLine line := by
  rw [contentSlots_eq, List.splitOn_eq_singleton single, List.map_singleton, List.intercalate_singleton]

theorem contentSlots_idem (text : List Char) : contentSlots (contentSlots text) = contentSlots text := by
  rw [contentSlots_eq (contentSlots text), splitOn_contentSlots, List.map_map, contentSlots_eq text]
  congr 1
  exact List.map_congr_left fun line _ => contentSlotLine_idem line

/-- What becomes of a text is what becomes of its lines, each a text of its own. -/
theorem contentSlots_lines (text : List Char) :
    contentSlots text = ['\n'].intercalate ((text.splitOn '\n').map contentSlots) := by
  rw [contentSlots_eq]
  congr 1
  exact List.map_congr_left fun line member =>
    (contentSlots_of_line (newline_not_mem_of_mem_splitOn member)).symm

/-- The step for content slots makes of every text one in which it changes nothing any more, and which
consists of what it makes of the single lines. -/
theorem contentSlot_idempotent_by_lines :
    ∃ step, Step.ofConfig .contentSlot = .ok step ∧ ∃ rewritten : String → String,
      (∀ (identity : Identity) text, step.run identity text = .ok (rewritten text)) ∧
      ∀ text, rewritten (rewritten text) = rewritten text ∧
        rewritten text =
          "\n".intercalate (((text.toList.splitOn '\n').map String.ofList).map rewritten) := by
  refine ⟨⟨"contentSlot", .contentSlot⟩, rfl, fun text => String.ofList (contentSlots text.toList),
    fun identity text => rfl, fun text => ⟨?_, ?_⟩⟩
  · simp only [String.toList_ofList, contentSlots_idem]
  · apply String.toList_injective
    rw [String.toList_ofList, contentSlots_lines, String.toList_intercalate]
    simp [Function.comp_def]

end ComponentCatalog.Transform
