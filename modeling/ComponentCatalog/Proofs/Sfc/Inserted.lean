import ComponentCatalog.Proofs.Sfc.Tag

/-! # Elements that are not slots

Where no slot tag is open any element can be put into a template. If its name is not `slot` it should
declare no slot. But a name that goes on behind `slot` with what is not part of a word, such as
`slot-card`, is read as the name of a slot.
-/

namespace ComponentCatalog.Sfc

open Unicode Text

/-- What stands behind the name of an element. -/
def endsName (c : Char) : Bool := c ∈ [' ', '\t', '\n', '\x0c', '\r', '/']

/-- The tag that opens an element, or is all of it, where the element is not a slot. -/
structure Opening where
  name : List Char
  attributes : List Char
  named : name ≠ []
  name_plain : ∀ c ∈ name, c ≠ '<' ∧ c ≠ '>' ∧ endsName c = false
  other : name ≠ "slot".toList
  attributes_plain : ∀ c ∈ attributes, c ≠ '<' ∧ c ≠ '>'
  apart : ∀ c ∈ attributes.head?, endsName c = true

/-- A tag as it is written. -/
def Opening.written (opening : Opening) : List Char :=
  '<' :: (opening.name ++ (opening.attributes ++ ['>']))

/-- The name goes on behind `slot` with what is not part of a word. -/
def Opening.ReadAsSlot (opening : Opening) : Prop :=
  ∃ c rest, opening.name = "slot".toList ++ c :: rest ∧ isWord c = false

/-- An element that is not a slot, and that has no slot in it. -/
inductive Element
  | single (opening : Opening)
  | paired (opening : Opening) (content : Woven "<slot".toList Opening)

namespace Element

/-- An element as it is written. -/
def written : Element → List Char
  | single opening => opening.written
  | paired opening content =>
    opening.written ++ (content.written Opening.written ++ ("</".toList ++ (opening.name ++ ['>'])))

/-- The tags that open an element and the elements in it. -/
def openings : Element → List Opening
  | single opening => [opening]
  | paired opening content => opening :: content.pieces

end Element

/-- A place in a template at which no slot tag is open. -/
structure Place where
  before : List Char
  behind : List Char
  between : Closed before behind

variable {text rest : List Char}

/-! ## The slot tags of an element -/

theorem slotTags_of_not_mem (free : '<' ∉ text) : slotTags text = [] :=
  slotTags_of_free fun found => free (found.subset (by decide))

namespace Opening

variable (opening : Opening)

theorem start_not_mem_name : '<' ∉ opening.name := fun member => (opening.name_plain _ member).1 rfl

theorem start_not_mem_attributes : '<' ∉ opening.attributes := fun member =>
  (opening.attributes_plain _ member).1 rfl

theorem end_not_mem_name : '>' ∉ opening.name := fun member => (opening.name_plain _ member).2.1 rfl

theorem end_not_mem_attributes : '>' ∉ opening.attributes := fun member =>
  (opening.attributes_plain _ member).2 rfl

/-- A tag that starts like a slot tag has a name that starts so. -/
theorem slotStart_prefix (starts : slotStart <+: opening.written) : "slot".toList <+: opening.name := by
  obtain ⟨c, behind, whole, foreign⟩ :
      ∃ c behind, opening.attributes ++ ['>'] = c :: behind ∧ c ∉ slotStart := by
    cases written : opening.attributes with
    | nil => exact ⟨'>', [], rfl, by decide⟩
    | cons c behind =>
      have blank := opening.apart c (by rw [written]; rfl)
      refine ⟨c, behind ++ ['>'], rfl, fun member => ?_⟩
      have letters : ∀ c ∈ slotStart, endsName c = false := List.all_iff_forall_prop.mp rfl
      rw [letters c member] at blank
      exact Bool.noConfusion blank
  rw [written, whole, ← List.cons_append] at starts
  exact (List.cons_prefix_cons.mp (prefix_of_not_mem foreign starts)).2

theorem slotTags_written_of_readAsSlot (read : opening.ReadAsSlot) : slotTags opening.written ≠ [] := by
  obtain ⟨c, more, named, foreign⟩ := read
  have name := opening.end_not_mem_name
  rw [named, List.mem_append, not_or] at name
  have whole : opening.written = slotStart ++ ((c :: (more ++ opening.attributes)) ++ '>' :: []) := by
    simp only [written, named, List.append_assoc, List.cons_append]
    rfl
  rw [whole, slotTags_tag]
  · exact List.cons_ne_nil _ _
  · rw [← List.cons_append, List.mem_append, not_or]
    exact ⟨name.2, opening.end_not_mem_attributes⟩
  · simp [atWordEnd, foreign]

theorem slotTag?_written_of_not (unread : ¬ opening.ReadAsSlot) : slotTag? none opening.written = none := by
  rw [Option.eq_none_iff_forall_ne_some]
  rintro ⟨attributes, length⟩ found
  obtain ⟨inner, behind, whole, -, ends, -⟩ := slotTag?_eq_some_iff.mp found
  obtain ⟨more, named⟩ := opening.slotStart_prefix ⟨_, whole.symm⟩
  cases more with
  | nil => exact opening.other (by rw [← named, List.append_nil])
  | cons c more =>
    -- The tag goes on with the character at which the word ends.
    refine unread ⟨c, more, named.symm, ?_⟩
    have same : c :: (more ++ (opening.attributes ++ ['>'])) = inner ++ '>' :: behind := by
      rw [written, ← named, List.append_assoc] at whole
      exact List.append_cancel_left (List.cons.inj whole).2
    cases inner with
    | nil =>
      have last : '>' ∉ opening.name := opening.end_not_mem_name
      rw [← named, (List.cons.inj same).1] at last
      simp at last
    | cons d inner =>
      rw [(List.cons.inj same).1]
      simpa [atWordEnd] using ends

/-- A tag is a slot tag if and only if its name is read as that of a slot. -/
theorem slotTags_written : slotTags opening.written = [] ↔ ¬ opening.ReadAsSlot := by
  constructor
  · intro none read
    exact opening.slotTags_written_of_readAsSlot read none
  · intro unread
    have inside : '<' ∉ opening.name ++ (opening.attributes ++ ['>']) := by
      simp [opening.start_not_mem_name, opening.start_not_mem_attributes]
    exact (slotTags_cons (opening.slotTag?_written_of_not unread)).trans (slotTags_of_not_mem inside)

theorem closed_written (rest : List Char) : Closed opening.written rest := by
  apply closed_of_getLast?
  rw [written, ← List.append_assoc, ← List.cons_append, List.getLast?_concat]

end Opening

/-- Behind a text with tags that are not read as slots the slot tags are those of what follows. -/
theorem slotTags_content (content : Woven "<slot".toList Opening)
    (next : ∀ d ∈ rest.head?, slotStart.head? = some d) :
    slotTags (content.written Opening.written ++ rest) = [] ↔
      (∀ opening ∈ content.pieces, ¬ opening.ReadAsSlot) ∧ slotTags rest = [] := by
  induction content with
  | last chunk => simp [Woven.written, Woven.pieces, slotTags_free_append chunk.2 next]
  | next chunk opening content ih =>
    have starts : ∀ d ∈ (opening.written ++ (content.written Opening.written ++ rest)).head?,
        slotStart.head? = some d := fun _ same => same
    rw [Woven.written, List.append_assoc, List.append_assoc, slotTags_free_append chunk.2 starts,
      slotTags_append (opening.closed_written _), List.append_eq_nil_iff, opening.slotTags_written,
      Woven.pieces, List.forall_mem_cons, and_assoc]
    exact and_congr_right fun _ => ih

/-- An element has a slot tag if and only if the name of a tag in it is read as that of a slot. -/
theorem Element.slotTags_written (element : Element) :
    slotTags element.written = [] ↔ ∀ opening ∈ element.openings, ¬ opening.ReadAsSlot := by
  cases element with
  | single opening => simp [written, openings, opening.slotTags_written]
  | paired opening content =>
    have closing : slotTags ("</".toList ++ (opening.name ++ ['>'])) = [] := by
      have inside : '<' ∉ '/' :: (opening.name ++ ['>']) := by simp [opening.start_not_mem_name]
      exact (slotTags_cons rfl).trans (slotTags_of_not_mem inside)
    rw [written, slotTags_append (opening.closed_written _), List.append_eq_nil_iff, opening.slotTags_written,
      slotTags_content content (by simp; rfl), openings, List.forall_mem_cons]
    simp only [closing, and_true]

/-! ## Elements between others -/

theorem templateSlots_eq_nil_iff : templateSlots text = [] ↔ slotTags text = [] := by
  rw [templateSlots_eq, declaredSlots]
  cases slotTags text with
  | nil => exact iff_of_true rfl rfl
  | cons attributes tags => simp [firstOfName_cons]

namespace Element

variable (element : Element)

theorem closed_written (rest : List Char) : Closed element.written rest := by
  cases element with
  | single opening => exact opening.closed_written rest
  | paired opening content =>
    apply closed_of_getLast?
    simp only [written, ← List.append_assoc]
    exact List.getLast?_concat

/-- Where no slot tag is open, none is open before an element. -/
theorem closed_before (closed : Closed text rest) (other : List Char) : Closed text (element.written ++ other) := by
  intro head tail split ne starts
  have next : ∀ d ∈ (element.written ++ other).head?, slotStart.head? = some d := by
    cases element <;> exact fun _ same => same
  have within : slotStart <+: tail := sharp_slotStart.prefix_left ne next starts
  exact closed head tail split ne (within.trans (List.prefix_append tail rest))

theorem declaredSlots_insert (place : Place) :
    declaredSlots (place.before ++ (element.written ++ place.behind)) =
      declaredSlots place.before ++ (declaredSlots element.written ++ declaredSlots place.behind) := by
  have starts := element.closed_before place.between place.behind
  rw [declaredSlots_append starts, declaredSlots_append (element.closed_written place.behind)]

/-- An element changes the slots of a template nowhere, if and only if no name in it is read as that of a
slot. At a place it changes nothing if and only if with it the same slots are declared first. -/
theorem templateSlots_insert_iff :
    ((∀ place : Place, templateSlots (place.before ++ (element.written ++ place.behind)) =
        templateSlots (place.before ++ place.behind)) ↔
      ∀ opening ∈ element.openings, ¬ opening.ReadAsSlot) ∧
    ∀ place : Place, templateSlots (place.before ++ (element.written ++ place.behind)) =
        templateSlots (place.before ++ place.behind) ↔
      templateSlots (place.before ++ element.written) <+: templateSlots (place.before ++ place.behind) := by
  refine ⟨⟨fun unchanged => ?_, fun unread place => ?_⟩, fun place => ?_⟩
  · have alone := unchanged ⟨[], [], fun _ tail split ne => absurd (List.append_eq_nil_iff.mp split.symm).2 ne⟩
    rw [List.nil_append, List.append_nil, List.append_nil] at alone
    exact element.slotTags_written.mp (templateSlots_eq_nil_iff.mp alone)
  · have none : declaredSlots element.written = [] := by
      rw [declaredSlots, element.slotTags_written.mpr unread, List.map_nil]
    rw [templateSlots_eq, templateSlots_eq, element.declaredSlots_insert, none, List.nil_append,
      declaredSlots_append place.between]
  · have closed := element.closed_before place.between []
    rw [List.append_nil] at closed
    have first := declaredSlots_append closed
    rw [templateSlots_eq, templateSlots_eq, templateSlots_eq, element.declaredSlots_insert, first,
      declaredSlots_append place.between]
    exact firstOfName_insert_iff _ _ _

end Element

/-! ## A name that starts with `slot` -/

/-- An element of another name, without content. -/
def slotCard : Element :=
  .paired
    { name := "slot-card".toList
      attributes := " name=\"x\"".toList
      named := by decide
      name_plain := List.all_iff_forall_prop.mp rfl
      other := by decide
      attributes_plain := List.all_iff_forall_prop.mp rfl
      apart := fun _ first => Option.some.inj first ▸ rfl }
    (.last noText)

/-- Between two other elements it adds a slot. -/
theorem templateSlots_insert_slotCard :
    ¬ ∀ (place : Place) (element : Element),
      templateSlots (place.before ++ (element.written ++ place.behind)) =
        templateSlots (place.before ++ place.behind) := by
  intro claimed
  have same := claimed ⟨"<p></p>".toList, "<b></b>".toList, closed_of_getLast? rfl _⟩ slotCard
  revert same
  decide +kernel

end ComponentCatalog.Sfc
