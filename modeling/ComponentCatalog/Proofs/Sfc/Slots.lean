import ComponentCatalog.Proofs.Sfc.Attribute
import ComponentCatalog.Proofs.Sfc.Tag
import Mathlib.Data.Set.Basic

/-! # The slots of a template

A template is woven of slot elements and of texts without a slot tag. Its slots are one for each name, in the
order in which the names appear first, and each passes on what its first element binds. They are found so
as long as no value holds a `>`, which would end the tag before its quote.
-/

namespace ComponentCatalog.Sfc

open Unicode Text

/-- A slot element, with at most one name, that closes itself or has a closing tag. -/
structure SlotElement where
  attributes : List (Blanks × SlotAttribute)
  trailing : List Char
  selfClosing : Bool
  one_name : (attributes.filterMap fun spaced => spaced.2.name?).length ≤ 1
  trailing_blank : ∀ c ∈ trailing, isSpace c = true

namespace SlotElement

/-- What is written between the name and the end of the tag. -/
def inner (element : SlotElement) : List Char := writtenAll element.attributes ++ element.trailing

/-- What is written behind that. -/
def closing (element : SlotElement) : List Char :=
  if element.selfClosing then "/>".toList else "></slot>".toList

/-- A slot element as it is written. -/
def written (element : SlotElement) : List Char := "<slot".toList ++ (element.inner ++ element.closing)

/-- The name of the slot. -/
def name (element : SlotElement) : String :=
  (element.attributes.findSome? fun spaced => spaced.2.name?).getD "default"

/-- The slot with what the element binds, in that order. -/
def slot (element : SlotElement) : Member :=
  ⟨element.name, shapeOf (element.attributes.filterMap fun spaced => spaced.2.key?)⟩

/-- The values in the tag. -/
def values (element : SlotElement) : List Value := element.attributes.map fun spaced => spaced.2.value

end SlotElement

/-- A template with slot elements. -/
abbrev SlotTemplate : Type := Woven "<slot".toList SlotElement

namespace SlotTemplate

/-- The values in the slot elements. -/
def values (template : SlotTemplate) : List Value := template.pieces.flatMap SlotElement.values

/-- The slots, one for each name, as its first element declares it. -/
def slots (template : SlotTemplate) : List Member :=
  (template.pieces.map (·.name)).eraseDups.filterMap fun name =>
    (template.pieces.find? (·.name == name)).map (·.slot)

end SlotTemplate

/-! ## The tag of a slot element -/

namespace SlotElement

variable {element : SlotElement}

theorem written_eq (element : SlotElement) : element.written = slotStart ++ (element.inner ++ element.closing) := rfl

theorem end_not_mem_label (attr : SlotAttribute) : '>' ∉ attr.label := by
  cases attr with
  | name value => exact (by decide : '>' ∉ "name".toList)
  | bound long key value =>
    have first : '>' ≠ key.first := fun same => by
      have starts := same ▸ key.starts
      revert starts
      decide
    have rest : '>' ∉ key.rest := fun member => by
      have inside := key.goes_on '>' member
      revert inside
      decide
    have mark : '>' ∉ (if long then "v-bind:".toList else ":".toList) := by
      cases long <;> decide
    intro member
    rcases List.mem_append.mp member with inside | inside
    · exact mark inside
    · rcases List.mem_cons.mp inside with same | inside
      · exact first same
      · exact rest inside

theorem end_not_mem_inner (plain : ∀ value ∈ element.values, '>' ∉ value.val) : '>' ∉ element.inner := by
  have foreign {blanks : List Char} (blank : ∀ c ∈ blanks, isSpace c = true) : '>' ∉ blanks := fun member =>
    (blank_foreign (blank '>' member)).2.2 (by simp)
  rw [inner, List.mem_append, not_or]
  refine ⟨fun member => ?_, foreign element.trailing_blank⟩
  obtain ⟨spaced, listed, inside⟩ := List.mem_flatMap.mp member
  have value := plain spaced.2.value (List.mem_map_of_mem listed)
  have blanks := foreign spaced.1.2.2
  simp [SlotAttribute.written, blanks, value, end_not_mem_label spaced.2] at inside

/-- No slash is taken from what is written in the tag. -/
theorem withoutSlash_inner (element : SlotElement) : withoutSlash element.inner = element.inner := by
  apply if_neg
  rw [beq_iff_eq]
  exact getLast?_writtenAll element.attributes element.trailing_blank

theorem atWordEnd_inner (element : SlotElement) {c : Char} (foreign : isWord c = false) (rest : List Char) :
    atWordEnd (element.inner ++ c :: rest) = true := by
  have blank := head?_writtenAll element.attributes element.trailing_blank
  rw [← inner] at blank
  cases inside : element.inner with
  | nil => simp [atWordEnd, foreign]
  | cons d inner =>
    have word := (blank_foreign (blank d (by rw [inside]; rfl))).1
    simp [atWordEnd, word]

/-- The tag of a slot element is read up to its end, if no value in it holds one. -/
theorem slotTags_written (plain : ∀ value ∈ element.values, '>' ∉ value.val) :
    slotTags element.written = [element.inner] := by
  have free := end_not_mem_inner plain
  cases closed : element.selfClosing with
  | true =>
    have whole : element.written = slotStart ++ ((element.inner ++ ['/']) ++ '>' :: []) := by
      rw [element.written_eq, closing, if_pos closed, List.append_assoc]
      rfl
    rw [whole, slotTags_tag (by simp [free])]
    · rw [withoutSlash, if_pos (by simp), List.dropLast_concat]
      rfl
    · rw [List.append_assoc]
      exact element.atWordEnd_inner (by decide) _
  | false =>
    have whole : element.written = slotStart ++ (element.inner ++ '>' :: "</slot>".toList) := by
      rw [element.written_eq, closing, if_neg (by simp [closed])]
      rfl
    rw [whole, slotTags_tag free (element.atWordEnd_inner (by decide) _), element.withoutSlash_inner]
    rfl

theorem closed_written (element : SlotElement) (rest : List Char) : Closed element.written rest := by
  apply closed_of_getLast?
  have ends : element.closing.getLast? = some '>' := by
    unfold closing
    split <;> rfl
  rw [element.written_eq, ← List.append_assoc, List.getLast?_append, ends]
  rfl

/-- The first attribute stands at the start of the tag. -/
theorem exists_written_eq {spaced : Blanks × SlotAttribute} {others : List (Blanks × SlotAttribute)}
    (listed : element.attributes = spaced :: others) :
    ∃ more, element.written =
      slotStart ++ (spaced.1.val ++ (spaced.2.label ++ '=' :: '"' :: (spaced.2.value.val ++ more))) := by
  refine ⟨'"' :: (writtenAll others ++ (element.trailing ++ element.closing)), ?_⟩
  rw [element.written_eq, inner, listed, writtenAll, List.flatMap_cons, SlotAttribute.written]
  simp only [List.append_assoc, List.cons_append, List.nil_append]
  rfl

/-- Of at most one name the last is the first. -/
theorem name_eq (element : SlotElement) :
    ((element.attributes.map Prod.snd).filterMap SlotAttribute.name?).getLast?.getD "default" = element.name := by
  have single {names : List String} (one : names.length ≤ 1) : names.getLast? = names.head? := by
    match names, one with
    | [], _ => rfl
    | [_], _ => rfl
  have last := single element.one_name
  rw [List.head?_filterMap] at last
  rw [List.filterMap_map, name, ← last]
  rfl

/-- A slot element declares its slot and nothing else. -/
theorem declaredSlots_written (plain : ∀ value ∈ element.values, '>' ∉ value.val) :
    declaredSlots element.written = [element.slot] := by
  have read : occurrences attributeHere? element.inner =
      (element.attributes.map Prod.snd).map SlotAttribute.read := by
    rw [inner, occurrences_writtenAll _ element.trailing_blank, List.map_map]
    rfl
  rw [declaredSlots, slotTags_written plain, List.map_singleton, read, slotOf_read, element.name_eq, List.filterMap_map]
  rfl

end SlotElement

/-! ## The slots of all elements -/

namespace SlotTemplate

/-- Without a `>` in the values the elements declare their slots in their order. -/
theorem declaredSlots_written (template : SlotTemplate) (plain : ∀ value ∈ template.values, '>' ∉ value.val) :
    declaredSlots (template.written SlotElement.written) = template.pieces.map (·.slot) := by
  induction template with
  | last chunk =>
    rw [Woven.written, declaredSlots, slotTags_of_free chunk.2]
    rfl
  | next chunk element template ih =>
    simp only [values, Woven.pieces, List.flatMap_cons, List.mem_append] at plain
    have starts : ∀ d ∈ (element.written ++ template.written SlotElement.written).head?,
        slotStart.head? = some d := fun _ same => same
    rw [Woven.written, declaredSlots, slotTags_free_append chunk.2 starts, ← declaredSlots,
      declaredSlots_append (element.closed_written _),
      SlotElement.declaredSlots_written fun value member => plain value (.inl member),
      ih fun value member => plain value (.inr member)]
    rfl

theorem templateSlots_written (template : SlotTemplate) (plain : ∀ value ∈ template.values, '>' ∉ value.val) :
    templateSlots (template.written SlotElement.written) = template.slots := by
  rw [templateSlots_eq, template.declaredSlots_written plain, firstOfName_eq_filterMap, List.map_map]
  simp only [List.find?_map]
  rfl

end SlotTemplate

/-! ## Values that end a tag -/

/-- A key of one letter. -/
def letterKey (letter : Char) (starts : letter.isAlpha = true) : Key where
  first := letter
  rest := []
  starts := .inl starts
  goes_on := by simp
  other := by simp

/-- A slot that binds one value by two keys, without text around it. -/
def boundTwice (value : Value) (key : Key) : SlotElement where
  attributes :=
    [(space, .bound false (letterKey 'a' rfl) value), (space, .bound false key value)]
  trailing := space.val
  selfClosing := true
  one_name := Nat.zero_le 1
  trailing_blank := space.2.2

/-- A template of one element. -/
def SlotElement.alone (element : SlotElement) : SlotTemplate :=
  .next noText element (.last noText)

theorem SlotElement.alone_written (element : SlotElement) :
    element.alone.written SlotElement.written = element.written :=
  List.append_nil _

theorem slots_boundTwice (value : Value) (key : Key) :
    (boundTwice value key).alone.slots = [⟨"default", shapeOf ["a", String.ofList key.text]⟩] := rfl

/-- Where a value holds a `>` the tag ends with it, and what is bound behind it does not matter. -/
theorem templateSlots_boundTwice {value : Value} (ends : '>' ∈ value.val) :
    ∃ slot, ∀ key, ∃ others,
      templateSlots ((boundTwice value key).alone.written SlotElement.written) = slot :: others := by
  obtain ⟨front, back, whole, free⟩ := List.eq_append_cons_of_mem ends
  have read : '>' ∉ " :a=\"".toList ++ front := by
    rw [List.mem_append, not_or]
    exact ⟨by decide, free⟩
  refine ⟨slotOf (occurrences attributeHere? (withoutSlash (" :a=\"".toList ++ front))), fun key => ?_⟩
  obtain ⟨more, written⟩ := (boundTwice value key).exists_written_eq rfl
  have cut : (boundTwice value key).written =
      slotStart ++ ((" :a=\"".toList ++ front) ++ '>' :: (back ++ more)) := by
    rw [written]
    change slotStart ++ (" :a=\"".toList ++ (value.val ++ more)) = _
    rw [whole, List.append_assoc, List.append_assoc, List.cons_append]
  rw [SlotElement.alone_written, cut, templateSlots_eq, declaredSlots, slotTags_tag read rfl, List.map_cons,
    firstOfName_cons]
  exact ⟨_, rfl⟩

/-- For templates with values of a set the slots are those of the elements, one for each name as its first
element declares it, if and only if no value of the set holds a `>`. -/
theorem templateSlots_written_iff (allowed : Set Value) :
    (∀ template : SlotTemplate, (∀ value ∈ template.values, value ∈ allowed) →
        templateSlots (template.written SlotElement.written) = template.slots) ↔
      ∀ value ∈ allowed, '>' ∉ value.val := by
  constructor
  · intro correct value member ends
    obtain ⟨slot, starts⟩ := templateSlots_boundTwice ends
    have bound (key : Key) : slot = ⟨"default", shapeOf ["a", String.ofList key.text]⟩ := by
      obtain ⟨others, found⟩ := starts key
      have same := correct (boundTwice value key).alone fun other listed => by
        have twice : other ∈ [value, value] := listed
        obtain rfl : other = value := by simpa using twice
        exact member
      rw [found, slots_boundTwice] at same
      exact (List.cons.inj same).1
    have same := (bound (letterKey 'b' rfl)).symm.trans (bound (letterKey 'c' rfl))
    revert same
    decide
  · intro plain template listed
    exact template.templateSlots_written fun value member => plain value (listed value member)

/-- A slot that binds a comparison before its name. -/
def comparison : SlotElement where
  attributes :=
    [(space, .bound false (letterKey 'a' rfl) ⟨"x > y".toList, by decide⟩),
      (space, .name ⟨"n".toList, by decide⟩),
      (space, .bound false (letterKey 'b' rfl) ⟨"z".toList, by decide⟩)]
  trailing := space.val
  selfClosing := true
  one_name := by decide
  trailing_blank := space.2.2

/-- A comparison hides the attributes behind it. -/
theorem templateSlots_comparison :
    ¬ ∀ template : SlotTemplate, templateSlots (template.written SlotElement.written) = template.slots := by
  intro claimed
  have same := claimed comparison.alone
  revert same
  decide +kernel

end ComponentCatalog.Sfc
