import ComponentCatalog.Proofs.Transform.Lines

/-! # Content slots that become native

A text is woven of chunks and of content slots, each of which should become the native slot of its own
name. It does if no tag ends behind it on the same line. Otherwise all of the line from the first content
slot to that end counts as one, and what stands between is lost.
-/

namespace ComponentCatalog.Transform

open Component Text

/-- A text of attributes: it stays within a line and a tag, and uses no slot. -/
def IsAttributeText (text : List Char) : Prop :=
  (∀ c ∈ text, c ∉ ['\n', '<', '>', '/']) ∧ ¬ "$slots".toList <:+: text

/-- A content slot, with the attributes before and behind the one that says which slot it uses. -/
structure ContentSlot where
  before : List Char
  name : List Char
  after : List Char
  before_plain : IsAttributeText before
  named : IsSlotName name
  after_plain : IsAttributeText after

namespace ContentSlot

/-- A content slot as it is written. -/
def written (slot : ContentSlot) : List Char :=
  "<ContentSlot".toList ++ (slot.before ++ (":use=\"$slots.".toList ++ (slot.name ++ '"' ::
    (slot.after ++ "/>".toList))))

/-- The native slot that a content slot stands for. -/
def native (slot : ContentSlot) : List Char :=
  if slot.name = "default".toList then "<slot  />".toList
  else "<slot name=\"".toList ++ slot.name ++ "\" />".toList

end ContentSlot

/-- A text with content slots. -/
abbrev SlotText : Type := Woven "<ContentSlot".toList ContentSlot

/-- The first line of a text. -/
def firstLine (text : List Char) : List Char := text.takeWhile (· != '\n')

/-- What comes behind the first line of a text, from its end on. -/
def behindLine (text : List Char) : List Char := text.dropWhile (· != '\n')

/-- Behind a content slot no tag ends on the same line. -/
def SlotText.ClosesLines : SlotText → Prop
  | .last _ => True
  | .next _ _ rest => ¬ "/>".toList <:+: firstLine (rest.written ContentSlot.written) ∧ ClosesLines rest

variable {text line before behind rest name : List Char}

/-! ## The first line -/

theorem firstLine_append_behindLine (text : List Char) : firstLine text ++ behindLine text = text :=
  List.takeWhile_append_dropWhile

theorem newline_not_mem_firstLine (text : List Char) : '\n' ∉ firstLine text := fun member => by
  simpa using List.all_eq_true.mp List.all_takeWhile '\n' member

theorem behindLine_cases (text : List Char) :
    behindLine text = [] ∨ ∃ rest, behindLine text = '\n' :: rest := by
  induction text with
  | nil => exact .inl rfl
  | cons c rest ih =>
    by_cases newline : c = '\n'
    · exact .inr ⟨rest, by simp [behindLine, newline]⟩
    · simpa [behindLine, newline] using ih

theorem firstLine_append (single : '\n' ∉ line) (rest : List Char) :
    firstLine (line ++ rest) = line ++ firstLine rest :=
  List.takeWhile_append_of_pos fun c member => by
    simpa using fun same : c = '\n' => single (same ▸ member)

theorem firstLine_append_of_mem (broken : '\n' ∈ text) (rest : List Char) :
    firstLine (text ++ rest) = firstLine text := by
  obtain ⟨before, after, rfl⟩ := List.append_of_mem broken
  induction before with
  | nil => rfl
  | cons c before ih =>
    by_cases newline : c = '\n'
    · simp [firstLine, newline]
    · simpa [firstLine, newline] using ih (by simp)

theorem behindLine_append (single : '\n' ∉ line) (rest : List Char) :
    behindLine (line ++ rest) = behindLine rest :=
  List.dropWhile_append_of_pos fun c member => by
    simpa using fun same : c = '\n' => single (same ▸ member)

/-! ## What becomes of the parts of a text -/

theorem contentSlots_newline (line rest : List Char) (single : '\n' ∉ line) :
    contentSlots (line ++ '\n' :: rest) = contentSlotLine line ++ '\n' :: contentSlots rest := by
  rw [contentSlots_eq, List.splitOn_append_cons_self_of_not_mem single, List.map_cons,
    List.intercalate_cons_of_ne_nil (by simp), contentSlots_eq rest]
  simp

/-- What becomes of a text is what becomes of its first line and, apart from it, of what is behind. -/
theorem contentSlots_firstLine (text : List Char) :
    contentSlots text = contentSlotLine (firstLine text) ++ contentSlots (behindLine text) := by
  have single := newline_not_mem_firstLine text
  conv_lhs => rw [← firstLine_append_behindLine text]
  obtain empty | ⟨rest, newline⟩ := behindLine_cases text
  · rw [empty, List.append_nil, contentSlots_of_line single]
    exact (List.append_nil _).symm
  · rw [newline, contentSlots_newline _ _ single]
    exact congrArg _ (contentSlots_newline [] rest List.not_mem_nil).symm

/-- What becomes of the text behind a line starts on a new line, or is nothing. -/
theorem firstLine_contentSlots_behindLine (text : List Char) :
    firstLine (contentSlots (behindLine text)) = [] := by
  obtain empty | ⟨rest, newline⟩ := behindLine_cases text
  · rw [empty]
    rfl
  · rw [newline]
    exact congrArg firstLine (contentSlots_newline [] rest List.not_mem_nil)

/-- A part of a text in which no content slot starts stays. -/
theorem contentSlots_append (before rest : List Char)
    (free : ∀ head tail, before = head ++ tail → tail ≠ [] → ¬ contentSlotStart <+: tail ++ rest) :
    contentSlots (before ++ rest) = before ++ contentSlots rest := by
  induction before with
  | nil => rfl
  | cons c before ih =>
    have kept := ih fun head tail split ne => free (c :: head) tail (by rw [split, List.cons_append]) ne
    by_cases newline : c = '\n'
    · subst newline
      rw [List.cons_append, List.cons_append, ← kept]
      exact contentSlots_newline [] (before ++ rest) List.not_mem_nil
    · have single : '\n' ∉ [c] := by simpa using fun same => newline same.symm
      have here := free [] (c :: before) rfl (List.cons_ne_nil _ _)
      rw [List.cons_append, List.cons_append, ← kept, ← List.singleton_append, contentSlots_firstLine,
        firstLine_append single, behindLine_append single, contentSlotLine_append [c],
        List.append_assoc, ← contentSlots_firstLine]
      · rfl
      · intro head tail split ne found
        obtain ⟨rfl, rfl⟩ : head = [] ∧ tail = [c] := by
          cases head with
          | nil => exact ⟨rfl, split.symm⟩
          | cons d head => simp_all
        refine here (found.trans ?_)
        rw [List.singleton_append, List.cons_append, List.cons_prefix_cons]
        exact ⟨rfl, List.takeWhile_prefix _⟩

/-! ## The slot of a tag -/

theorem lastUse?_append {used : List Char × List Char} (found : lastUse? rest = some used)
    (before : List Char) : lastUse? (before ++ rest) = some used := by
  induction before with
  | nil => exact found
  | cons c before ih => rw [List.cons_append, lastUse?, ih]

/-- In a part of a text where no slot is used the search finds nothing. -/
theorem lastUse?_append_eq_none (unused : lastUse? rest = none)
    (free : ∀ head tail, before = head ++ tail → tail ≠ [] → useAt? (tail ++ rest) = none) :
    lastUse? (before ++ rest) = none := by
  induction before with
  | nil => exact unused
  | cons c before ih =>
    have here := free [] (c :: before) rfl (List.cons_ne_nil _ _)
    rw [List.cons_append] at here
    rw [List.cons_append, lastUse?, here,
      ih fun head tail split ne => free (c :: head) tail (by rw [split, List.cons_append]) ne]
    rfl

namespace ContentSlot

variable (slot : ContentSlot)

theorem useAt?_written (tail : List Char) :
    useAt? (contentSlotUse ++ (slot.name ++ '"' :: tail)) = some (slot.name, tail) :=
  useAt?_eq_some_iff.mpr ⟨slot.named, rfl⟩

/-- Behind the start of its use no slot is used in a tag, wherever the tag ends. -/
private theorem lastUse?_tail (free : ¬ tagEnd <:+: line) :
    lastUse? ("use=\"$slots.".toList ++ (slot.name ++ '"' :: slot.after) ++ (tagEnd ++ line)) = none := by
  have behind : lastUse? (tagEnd ++ line) = none := by
    rw [tagEnd, show "/>".toList = ['/', '>'] from rfl, List.cons_append, lastUse?, List.cons_append,
      lastUse?, List.nil_append, lastUse?_eq_none free]
    rfl
  apply lastUse?_append_eq_none behind
  intro head tail split ne
  cases used : useAt? (tail ++ (tagEnd ++ line)) with
  | none => rfl
  | some use =>
    -- The use would stand in the attributes behind.
    obtain ⟨-, whole⟩ := useAt?_eq_some_iff.mp used
    have starts : contentSlotUse <+: tail ++ '/' :: ('>' :: line) := by
      change contentSlotUse <+: tail ++ (tagEnd ++ line)
      rw [whole]
      exact List.prefix_append _ _
    have within : contentSlotUse <:+: "use=\"$slots.".toList ++ (slot.name ++ '"' :: slot.after) := by
      rw [split]
      exact (prefix_of_not_mem (by decide) starts).isInfix.trans (List.suffix_append head tail).isInfix
    have colon : ':' ∉ slot.name := slot.named.not_mem (by decide)
    have inside : contentSlotUse <:+: slot.after := by
      have other : ':' ∉ "use=\"$slots.".toList ++ (slot.name ++ ['"']) := by simp [colon]
      apply infix_right rfl other
      simpa using within
    have dollar : "$slots".toList <:+: contentSlotUse := ⟨":use=\"".toList, ".".toList, rfl⟩
    exact absurd (dollar.trans inside) slot.after_plain.2

/-- A tag that no other one ends behind uses its own slot. -/
theorem lastUse?_written (free : ¬ tagEnd <:+: line) :
    lastUse? (slot.before ++ (contentSlotUse ++ (slot.name ++ '"' :: (slot.after ++ (tagEnd ++ line))))) =
      some (slot.name, line) := by
  apply lastUse?_append
  have tail := slot.lastUse?_tail free
  have here := slot.useAt?_written (slot.after ++ (tagEnd ++ line))
  have cut : cutAtLast tagEnd (slot.after ++ (tagEnd ++ line)) = some (slot.after, line) :=
    sharp_reverse_tagEnd.cutAtLast_eq free
  rw [show contentSlotUse = ':' :: "use=\"$slots.".toList from rfl, List.cons_append] at here ⊢
  rw [List.append_assoc, List.append_assoc, List.cons_append] at tail
  rw [lastUse?, tail, here]
  simp [cut]

/-- If another tag ends behind, some slot is used. -/
theorem exists_lastUse? (closed : tagEnd <:+: line) :
    ∃ used, lastUse? (slot.before ++ (contentSlotUse ++ (slot.name ++ '"' :: line))) = some used := by
  have here := slot.useAt?_written line
  rw [show contentSlotUse = ':' :: "use=\"$slots.".toList from rfl, List.cons_append] at here ⊢
  cases later : lastUse? ("use=\"$slots.".toList ++ (slot.name ++ '"' :: line)) with
  | some used =>
    refine ⟨used, lastUse?_append ?_ slot.before⟩
    rw [lastUse?, later]
  | none =>
    obtain ⟨cut, found⟩ := Option.ne_none_iff_exists'.mp fun none => cutAtLast_eq_none_iff.mp none closed
    refine ⟨(slot.name, cut.2), lastUse?_append ?_ slot.before⟩
    rw [lastUse?, later, here]
    simp [found]

theorem native_eq : slot.native = nativeSlot slot.name := by
  unfold native nativeSlot
  simp only [beq_iff_eq]

theorem written_eq : slot.written = contentSlotStart ++ (slot.before ++ (contentSlotUse ++
    (slot.name ++ '"' :: (slot.after ++ tagEnd)))) := rfl

theorem newline_not_mem_written : '\n' ∉ slot.written := by
  have before : '\n' ∉ slot.before := fun member => slot.before_plain.1 _ member (by simp)
  have after : '\n' ∉ slot.after := fun member => slot.after_plain.1 _ member (by simp)
  have name : '\n' ∉ slot.name := slot.named.not_mem (by decide)
  have start : '\n' ∉ contentSlotStart := by decide
  have use : '\n' ∉ contentSlotUse := by decide
  have close : '\n' ∉ tagEnd := by decide
  rw [written_eq]
  simp [before, after, name, start, use, close]

/-- The first line of a text that starts with a content slot. -/
theorem firstLine_written (rest : List Char) :
    firstLine (slot.written ++ rest) = contentSlotStart ++ (slot.before ++ (contentSlotUse ++
      (slot.name ++ '"' :: (slot.after ++ (tagEnd ++ firstLine rest))))) := by
  rw [firstLine_append slot.newline_not_mem_written, written_eq]
  simp only [List.append_assoc, List.cons_append]

end ContentSlot

/-! ## What becomes of a content slot -/

theorem contentSlotLine_start (tail : List Char) :
    contentSlotLine (contentSlotStart ++ tail) =
      match lastUse? tail with
      | some (name, behind) => nativeSlot name ++ behind
      | none => contentSlotStart ++ tail := by
  have cut : cutAt contentSlotStart (contentSlotStart ++ tail) = some ([], tail) :=
    @Sharp.cutAt_eq _ [] _ sharp_contentSlotStart (by decide)
  rw [contentSlotLine, cut]
  rfl

variable (slot : ContentSlot)

/-- A content slot that no tag ends behind becomes its native slot, and the rest what it becomes alone. -/
theorem contentSlots_written (free : ¬ tagEnd <:+: firstLine rest) :
    contentSlots (slot.written ++ rest) = slot.native ++ contentSlots rest := by
  rw [contentSlots_firstLine, behindLine_append slot.newline_not_mem_written,
    slot.firstLine_written, contentSlotLine_start, slot.lastUse?_written free, contentSlots_firstLine rest,
    contentSlotLine_of_open free, slot.native_eq,
    List.append_assoc]

/-- Of the line of a content slot that another tag ends behind only a native slot is left, and what stands
behind the last end of a tag. -/
theorem contentSlots_written_of_closed (closed : tagEnd <:+: firstLine rest) :
    ∃ name behind, IsSlotName name ∧ ¬ tagEnd <:+: behind ∧ '\n' ∉ behind ∧
      contentSlots (slot.written ++ rest) = nativeSlot name ++ (behind ++ contentSlots (behindLine rest)) := by
  have single : '\n' ∉ firstLine (slot.written ++ rest) := newline_not_mem_firstLine _
  have ended : tagEnd <:+: slot.after ++ (tagEnd ++ firstLine rest) :=
    closed.trans ⟨slot.after ++ tagEnd, [], by simp⟩
  obtain ⟨⟨name, behind⟩, used⟩ := slot.exists_lastUse? ended
  obtain ⟨named, free, suffix⟩ := lastUse?_eq_some used
  refine ⟨name, behind, named, free, fun member => single ?_, ?_⟩
  · rw [slot.firstLine_written]
    exact List.mem_append_right _ (suffix.subset member)
  · rw [contentSlots_firstLine, behindLine_append slot.newline_not_mem_written, slot.firstLine_written,
      contentSlotLine_start, used, List.append_assoc]

/-- Native slots are told apart by how they start. -/
theorem nativeSlot_append_inj {name' : List Char} (named : IsSlotName name) (named' : IsSlotName name')
    (same : nativeSlot name ++ before = nativeSlot name' ++ behind) : before = behind := by
  have quoted (n : List Char) (named : IsSlotName n) (rest : List Char) :
      (n ++ '"' :: rest).dropWhile isSlotLetter = '"' :: rest := by
    rw [List.dropWhile_append_of_pos named.2, List.dropWhile_cons_of_neg (by decide)]
  unfold nativeSlot at same
  split at same <;> split at same
  · exact List.append_cancel_left same
  · cases same
  · cases same
  · simp only [List.append_assoc] at same
    have tails : name ++ '"' :: (" />".toList ++ before) = name' ++ '"' :: (" />".toList ++ behind) :=
      List.append_cancel_left same
    have quotes := congrArg (List.dropWhile isSlotLetter) tails
    rw [quoted _ named, quoted _ named', List.cons.injEq] at quotes
    exact List.append_cancel_left quotes.2

theorem tagEnd_suffix_nativeSlot (name : List Char) : tagEnd <:+ nativeSlot name := by
  unfold nativeSlot
  split
  · exact ⟨"<slot  ".toList, rfl⟩
  · refine ⟨"<slot name=\"".toList ++ name ++ "\" ".toList, ?_⟩
    rw [List.append_assoc]
    rfl

/-- Where a tag ends on the first line of a text, one ends there with native slots. -/
theorem closed_native (source : SlotText)
    (closed : tagEnd <:+: firstLine (source.written ContentSlot.written)) :
    tagEnd <:+: firstLine (source.written ContentSlot.native) := by
  cases source with
  | last chunk => exact closed
  | next chunk slot rest =>
    rw [Woven.written] at closed ⊢
    by_cases broken : '\n' ∈ chunk.val
    · rw [firstLine_append_of_mem broken] at closed ⊢
      exact closed
    · obtain ⟨tag, native, -, single⟩ := nativeSlot_eq slot.named
      rw [firstLine_append broken, slot.native_eq, firstLine_append (by simp [native, single])]
      exact (tagEnd_suffix_nativeSlot slot.name).isInfix.trans
        ((List.prefix_append _ _).isInfix.trans (List.suffix_append chunk.val _).isInfix)

/-- The text with native slots is what becomes of a text, if and only if behind no content slot a tag ends
on the same line. -/
theorem contentSlots_eq_native_iff (source : SlotText) :
    contentSlots (source.written ContentSlot.written) = source.written ContentSlot.native ↔
      source.ClosesLines := by
  induction source with
  | last chunk =>
    have kept := contentSlots_append chunk.val [] fun head tail split ne =>
      sharp_contentSlotStart.not_prefix chunk.2 (by simp) split ne
    rw [List.append_nil] at kept
    exact iff_of_true (kept.trans (List.append_nil _)) trivial
  | next chunk slot rest ih =>
    have kept := contentSlots_append chunk.val (slot.written ++ rest.written ContentSlot.written)
      fun head tail split ne => sharp_contentSlotStart.not_prefix chunk.2 (by simp [slot.written_eq]; rfl) split ne
    rw [Woven.written, Woven.written, kept, List.append_cancel_left_eq, SlotText.ClosesLines, ← ih]
    by_cases closed : tagEnd <:+: firstLine (rest.written ContentSlot.written)
    · obtain ⟨name, behind, named, free, single, becomes⟩ := contentSlots_written_of_closed slot closed
      refine iff_of_false (fun same => free ?_) fun last => last.1 closed
      rw [becomes, slot.native_eq] at same
      have line := congrArg firstLine (nativeSlot_append_inj named slot.named same)
      rw [firstLine_append single, firstLine_contentSlots_behindLine, List.append_nil] at line
      rw [line]
      exact closed_native rest closed
    · rw [contentSlots_written slot closed, List.append_cancel_left_eq]
      exact (and_iff_right closed).symm

/-- The step for content slots leaves the chunks of a text and makes of each content slot its own native
one, if and only if behind no content slot a tag ends on the same line. -/
theorem contentSlot_native_iff (source : SlotText) :
    ∃ step, Step.ofConfig .contentSlot = .ok step ∧ ∀ identity : Identity,
      step.run identity (String.ofList (source.written ContentSlot.written)) =
        .ok (String.ofList (source.written ContentSlot.native)) ↔ source.ClosesLines := by
  refine ⟨⟨"contentSlot", .contentSlot⟩, rfl, fun identity => ?_⟩
  change Except.ok _ = Except.ok _ ↔ _
  rw [Except.ok.injEq, String.ofList_inj, String.toList_ofList]
  exact contentSlots_eq_native_iff source

/-! ## Two content slots on one line -/

theorem isAttributeText_space : IsAttributeText [' '] := ⟨List.all_iff_forall_prop.mp rfl, by decide⟩

/-- A content slot without other attributes. -/
def bareSlot (name : List Char) (named : IsSlotName name) : ContentSlot where
  before := [' ']
  name
  after := [' ']
  before_plain := isAttributeText_space
  named
  after_plain := isAttributeText_space

/-- Two content slots that stand side by side. -/
def twoOnLine : SlotText :=
  .next ⟨[], by decide⟩ (bareSlot "header".toList ⟨by decide, List.all_iff_forall_prop.mp rfl⟩) <|
    .next ⟨[], by decide⟩ (bareSlot "footer".toList ⟨by decide, List.all_iff_forall_prop.mp rfl⟩)
      (.last ⟨[], by decide⟩)

/-- Of two content slots on one line the first is lost. -/
theorem contentSlot_loses_first :
    ¬ ∀ source : SlotText, ∃ step, Step.ofConfig .contentSlot = .ok step ∧ ∀ identity : Identity,
      step.run identity (String.ofList (source.written ContentSlot.written)) =
        .ok (String.ofList (source.written ContentSlot.native)) := by
  intro claimed
  obtain ⟨step, made, becomes⟩ := claimed twoOnLine
  cases made
  have same := becomes default
  revert same
  decide

end ComponentCatalog.Transform
