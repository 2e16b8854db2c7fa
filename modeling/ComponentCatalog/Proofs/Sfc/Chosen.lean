import ComponentCatalog.Proofs.Sfc.ScriptTag
import Mathlib.Data.List.Find
import Mathlib.Data.Set.Basic

/-! # The script that describes a component

A component file is woven of script elements and of texts without a script tag. Its script is that of the
first element with the attribute `setup`, or else of the first element, with what stands between its tags and
the language that its attribute `lang` tells. It is found so as long as no attribute is taken for what it is
not.
-/

namespace ComponentCatalog.Sfc

open Unicode Text

/-- What opens a script tag. -/
def scriptStart : List Char := "<script".toList

/-- The tag that closes a script. -/
def scriptEnd : List Char := "</script>".toList

theorem sharp_scriptStart : Sharp scriptStart := by decide

theorem sharp_scriptEnd : Sharp scriptEnd := by decide

/-- A script element. -/
structure ScriptElement where
  attributes : List (Blanks × TagAttribute)
  trailing : List Char
  body : Without scriptEnd
  trailing_blank : ∀ c ∈ trailing, isSpace c = true

namespace ScriptElement

/-- What is written between the name and the end of the tag. -/
def inner (element : ScriptElement) : List Char := spacedOut element.attributes ++ element.trailing

/-- A script element as it is written. -/
def written (element : ScriptElement) : List Char :=
  scriptStart ++ (element.inner ++ '>' :: (element.body.val ++ scriptEnd))

/-- Does an element have the attribute `setup`? -/
def isSetup (element : ScriptElement) : Bool := element.attributes.any (·.2.name = "setup".toList)

/-- The language that the attribute `lang` tells. -/
def language? (element : ScriptElement) : Option (List Char) :=
  element.attributes.findSome? fun spaced => spaced.2.language?

/-- The script of an element, with the text of its tag. -/
def block (element : ScriptElement) : ScriptBlock := ⟨element.inner, element.body⟩

end ScriptElement

/-- A file with script elements. -/
abbrev ScriptFile : Type := Woven scriptStart ScriptElement

namespace ScriptFile

/-- The element that describes the component: the first one that sets it up, or else the first one. -/
def chosen? (file : ScriptFile) : Option ScriptElement :=
  (file.pieces.find? ScriptElement.isSetup).or file.pieces.head?

/-- The attributes of all elements. -/
def attributes (file : ScriptFile) : List TagAttribute :=
  file.pieces.flatMap fun element => element.attributes.map (·.2)

end ScriptFile

/-! ## One script element -/

variable {element : ScriptElement} {last? : Option Char} {rest text : List Char}

private theorem scriptBlock?_unfold (last? : Option Char) (text : List Char) : scriptBlock? last? text =
    Option.bind (guard (scriptStart.isPrefixOf text = true)) fun _ =>
      Option.bind (guard (atWordEnd (text.drop 7) = true)) fun _ =>
        Option.bind (cutAt ['>'] (text.drop 7)) fun tag =>
          Option.bind (cutAt scriptEnd tag.2) fun cut =>
            some (⟨tag.1, cut.1⟩, text.length - cut.2.length) := rfl

/-- A script starts with `<script`. -/
theorem scriptBlock?_eq_none (other : ¬ scriptStart <+: text) : scriptBlock? last? text = none := by
  have nothing : (guard (scriptStart.isPrefixOf text = true) : Option Unit) = none :=
    if_neg (by rwa [List.isPrefixOf_iff_prefix])
  rw [scriptBlock?_unfold, nothing]
  rfl

/-- A script reaches up to the first closing tag behind the first `>`. -/
theorem scriptBlock?_eq {attributes behind content after : List Char}
    (word : atWordEnd (attributes ++ '>' :: behind) = true) (open_ : '>' ∉ attributes)
    (cut : cutAt scriptEnd behind = some (content, after)) :
    scriptBlock? last? (scriptStart ++ (attributes ++ '>' :: behind)) =
      some (⟨attributes, content⟩, (scriptStart ++ (attributes ++ '>' :: behind)).length - after.length) := by
  have starts : scriptStart.isPrefixOf (scriptStart ++ (attributes ++ '>' :: behind)) = true :=
    List.isPrefixOf_iff_prefix.mpr (List.prefix_append _ _)
  have tail_eq (tail : List Char) : (scriptStart ++ tail).drop 7 = tail := rfl
  rw [scriptBlock?_unfold, tail_eq]
  refine guard_bind_eq_some_iff.mpr ⟨starts, guard_bind_eq_some_iff.mpr ⟨word, ?_⟩⟩
  rw [cutAt_char open_, Option.bind_some, cut, Option.bind_some]

namespace ScriptElement

theorem atWordEnd_inner (element : ScriptElement) (rest : List Char) :
    atWordEnd (element.inner ++ '>' :: rest) = true := by
  have blank := head?_spacedOut element.attributes element.trailing_blank
  rw [← inner] at blank
  cases inside : element.inner with
  | nil => rfl
  | cons d inner =>
    have word := (blank_foreign (blank d (by rw [inside]; rfl))).1
    simp [atWordEnd, word]

/-- No tag ends in itself if it does not end in a value. -/
theorem end_not_mem_inner (closed : ∀ spaced ∈ element.attributes, ∀ value ∈ spaced.2.value?, '>' ∉ value.val) :
    '>' ∉ element.inner := by
  have foreign {blanks : List Char} (blank : ∀ c ∈ blanks, isSpace c = true) : '>' ∉ blanks := fun member =>
    Bool.noConfusion (blank '>' member)
  rw [inner, List.mem_append, not_or]
  refine ⟨fun member => ?_, foreign element.trailing_blank⟩
  obtain ⟨spaced, listed, inside⟩ := List.mem_flatMap.mp member
  rw [TagAttribute.written, List.mem_append, List.mem_append] at inside
  rcases inside with blank | named | quoted
  · exact foreign spaced.1.2.2 blank
  · exact (isNamePart_spec (spaced.2.name_plain _ named)).2.2.1 rfl
  · unfold TagAttribute.quoted at quoted
    cases given : spaced.2.value? with
    | none => simp [given] at quoted
    | some value => simp [given, closed spaced listed value given] at quoted

theorem written_ne_nil (element : ScriptElement) : element.written ≠ [] :=
  List.append_ne_nil_of_left_ne_nil sharp_scriptStart.ne_nil _

theorem head?_written (element : ScriptElement) (rest : List Char) :
    ∀ d ∈ (element.written ++ rest).head?, scriptStart.head? = some d :=
  fun _ same => same

/-- A script element is read as it is written, whatever stands around it. -/
theorem scriptBlock?_written (closed : '>' ∉ element.inner) :
    scriptBlock? last? (element.written ++ rest) = some (element.block, element.written.length) := by
  have cut : cutAt scriptEnd (element.body.val ++ (scriptEnd ++ rest)) = some (element.body.val, rest) :=
    sharp_scriptEnd.cutAt_eq element.body.2
  have whole : element.written ++ rest =
      scriptStart ++ (element.inner ++ '>' :: (element.body.val ++ (scriptEnd ++ rest))) := by
    rw [written, List.append_assoc, List.append_assoc, List.cons_append, List.append_assoc]
  rw [whole, scriptBlock?_eq (element.atWordEnd_inner _) closed cut, ← whole, List.length_append, Nat.add_sub_cancel]
  rfl

theorem isSetup_iff : element.isSetup = true ↔ ∃ spaced ∈ element.attributes, spaced.2.name = "setup".toList := by
  rw [isSetup, List.any_eq_true]
  simp only [decide_eq_true_iff]

variable (plain : ∀ spaced ∈ element.attributes, spaced.2.Plain)

include plain

theorem end_not_mem_inner_of_plain : '>' ∉ element.inner :=
  end_not_mem_inner fun spaced listed value given ends => plain spaced listed value given (.endsTag ends)

theorem isSetup_block : element.block.isSetup = element.isSetup := by
  rw [Bool.eq_iff_iff, isSetup_iff, ScriptBlock.isSetup, block, inner, Bool.not_eq_true', List.isEmpty_eq_false_iff]
  constructor
  · intro found
    by_contra named
    refine found (occurrences_setup_eq_nil element.trailing_blank fun spaced listed => ?_)
    have other : spaced.2.name ≠ "setup".toList := fun same => named ⟨spaced, listed, same⟩
    exact ⟨other, fun value given reads => plain spaced listed value given (.setsUp other reads)⟩
  · rintro ⟨spaced, listed, named⟩
    obtain ⟨front, back, whole⟩ := List.append_of_mem listed
    rw [whole]
    exact occurrences_setup_ne_nil named element.trailing_blank

theorem language?_block : element.block.language? = element.language? :=
  head?_occurrences_language element.trailing_blank plain

end ScriptElement

/-! ## The scripts of a file -/

namespace ScriptFile

theorem scripts_last (chunk : Without scriptStart) : scripts chunk.val = [] :=
  occurrencesFrom_eq_nil_iff.mpr fun _ c tail split => scriptBlock?_eq_none
    (sharp_scriptStart.not_prefix chunk.2 (by simp) split (List.cons_ne_nil c tail))

/-- A script is found in front of what comes behind it. -/
theorem scripts_next (chunk : Without scriptStart) {element : ScriptElement} (closed : '>' ∉ element.inner)
    (file : ScriptFile) : scripts (Woven.written ScriptElement.written (.next chunk element file)) =
      element.block :: scripts (file.written ScriptElement.written) := by
  rw [scripts, occurrences, Woven.written, occurrencesFrom_pass fun head c tail split => scriptBlock?_eq_none
      (sharp_scriptStart.not_prefix chunk.2 (element.head?_written _) split (List.cons_ne_nil c tail)),
    occurrencesFrom_found element.written_ne_nil (ScriptElement.scriptBlock?_written closed)]
  exact congrArg (element.block :: ·) (occurrencesFrom_congr (fun _ _ _ => rfl) 0 _ none _)

/-- Where no tag ends in itself the scripts are those of the elements. -/
theorem scripts_written (file : ScriptFile) (closed : ∀ element ∈ file.pieces, '>' ∉ element.inner) :
    scripts (file.written ScriptElement.written) = file.pieces.map ScriptElement.block := by
  induction file with
  | last chunk => exact scripts_last chunk
  | next chunk element file ih =>
    rw [scripts_next chunk (closed element List.mem_cons_self),
      ih fun other member => closed other (List.mem_cons_of_mem _ member)]
    rfl

/-- The script that is read, with the language it is in, is that of the chosen element. -/
def IsRead (file : ScriptFile) : Prop :=
  (script? (file.written ScriptElement.written)).map (fun block => (block.content, block.language?)) =
    file.chosen?.map fun element => (element.body.val, element.language?)

theorem isRead_of_plain {file : ScriptFile} (plain : ∀ attr ∈ file.attributes, attr.Plain) : file.IsRead := by
  have each : ∀ element ∈ file.pieces, ∀ spaced ∈ element.attributes, spaced.2.Plain :=
    fun element listed spaced inside =>
      plain spaced.2 (List.mem_flatMap.mpr ⟨element, listed, List.mem_map_of_mem inside⟩)
  have chosen : script? (file.written ScriptElement.written) = file.chosen?.map ScriptElement.block := by
    rw [script?, file.scripts_written fun element listed =>
      ScriptElement.end_not_mem_inner_of_plain (each element listed)]
    have same : ∀ element ∈ file.pieces, (ScriptBlock.isSetup ∘ ScriptElement.block) element = element.isSetup :=
      fun element listed => ScriptElement.isSetup_block (each element listed)
    rw [List.find?_map, List.find?_congr same, List.head?_map, ← Option.map_or]
    rfl
  rw [IsRead, chosen, Option.map_map]
  cases found : file.chosen? with
  | none => rfl
  | some element =>
    have listed : element ∈ file.pieces := by
      rw [chosen?, Option.or_eq_some_iff] at found
      rcases found with first | ⟨-, head⟩
      · exact List.mem_of_find?_eq_some first
      · exact List.mem_of_head? head
    rw [Option.map_some, Option.map_some, Function.comp, ScriptElement.language?_block (each element listed)]
    rfl

end ScriptFile

/-! ## Attributes that mislead -/

/-- The empty text, as one without a script tag. -/
def noScript : Without scriptStart := ⟨[], by decide⟩

/-- A script element with a body and attributes behind single spaces. -/
def elementWith (attributes : List TagAttribute) (body : Without scriptEnd) : ScriptElement where
  attributes := attributes.map (space, ·)
  trailing := []
  body := body
  trailing_blank := by simp

/-- A file of elements without text around them. -/
def fileOf : List ScriptElement → ScriptFile
  | [] => .last noScript
  | element :: elements => .next noScript element (fileOf elements)

/-- The body of a script of one letter. -/
def letterBody : Without scriptEnd := ⟨['x'], by decide⟩

/-- The empty body. -/
def noBody : Without scriptEnd := ⟨[], by decide⟩

theorem pieces_fileOf (elements : List ScriptElement) : (fileOf elements).pieces = elements := by
  induction elements with
  | nil => rfl
  | cons element elements ih => rw [fileOf, Woven.pieces, ih]

variable {attr : TagAttribute} {value : Value}

theorem end_not_mem_elementWith {attributes : List TagAttribute} {body : Without scriptEnd}
    (given : attr.value? = some value) (drawn : ∀ other ∈ attributes, other = attr) (closed : '>' ∉ value.val) :
    '>' ∉ (elementWith attributes body).inner := by
  refine ScriptElement.end_not_mem_inner fun spaced listed other given' => ?_
  obtain ⟨attr', inside, rfl⟩ := List.mem_map.mp listed
  rw [drawn attr' inside, given, Option.mem_some_iff] at given'
  rwa [← given']

/-- Where a value ends the tag, what is read starts with the rest of the value. -/
theorem scripts_of_end {front back : List Char} (given : attr.value? = some value)
    (ends : value.val = front ++ '>' :: back) (free : '>' ∉ front) (body : Without scriptEnd) :
    ∃ content after others,
      scripts ((fileOf [elementWith [attr] body]).written ScriptElement.written) =
        ⟨' ' :: (attr.name ++ '=' :: '"' :: front), content⟩ :: others ∧
      back ++ '"' :: '>' :: (body.val ++ scriptEnd) = content ++ scriptEnd ++ after := by
  have held : scriptEnd <:+: back ++ '"' :: '>' :: (body.val ++ scriptEnd) :=
    ⟨back ++ '"' :: '>' :: body.val, [], by simp⟩
  obtain ⟨⟨content, after⟩, cut⟩ := Option.ne_none_iff_exists'.mp fun none => cutAt_eq_none_iff.mp none held
  have open_ : '>' ∉ ' ' :: (attr.name ++ '=' :: '"' :: front) := by
    have name : '>' ∉ attr.name := fun member => (isNamePart_spec (attr.name_plain _ member)).2.2.1 rfl
    simp [name, free]
  have whole : (fileOf [elementWith [attr] body]).written ScriptElement.written =
      scriptStart ++ ((' ' :: (attr.name ++ '=' :: '"' :: front)) ++
        '>' :: (back ++ '"' :: '>' :: (body.val ++ scriptEnd))) := by
    simp [fileOf, Woven.written, noScript, ScriptElement.written, ScriptElement.inner, elementWith, spacedOut, space,
      TagAttribute.written, TagAttribute.quoted, given, ends]
  have here := @scriptBlock?_eq none (' ' :: (attr.name ++ '=' :: '"' :: front)) _ _ _ rfl open_ cut
  obtain ⟨others, found⟩ := exists_occurrencesFrom_eq_cons
    (List.append_ne_nil_of_left_ne_nil sharp_scriptStart.ne_nil _) here
  exact ⟨content, after, others, by rw [whole]; exact found, eq_of_cutAt cut⟩

theorem chosen?_fileOf_singleton (element : ScriptElement) : (fileOf [element]).chosen? = some element := by
  rw [ScriptFile.chosen?, pieces_fileOf]
  cases set : element.isSetup <;> simp [set]

/-- A file has no other attributes than its elements. -/
theorem eq_of_mem_attributes_fileOf {elements : List ScriptElement}
    (all : ∀ element ∈ elements, ∀ spaced ∈ element.attributes, spaced.2 = attr) :
    ∀ other ∈ (fileOf elements).attributes, other = attr := by
  intro other listed
  rw [ScriptFile.attributes, pieces_fileOf] at listed
  obtain ⟨element, inside, listed⟩ := List.mem_flatMap.mp listed
  obtain ⟨spaced, inner, rfl⟩ := List.mem_map.mp listed
  exact all element inside spaced inner

section

variable (read : ∀ file : ScriptFile, (∀ other ∈ file.attributes, other = attr) → file.IsRead)

include read

/-- If all files with an attribute of another name than `setup` are read right, then it sets no script up:
such a script would be read whatever script stands in front. -/
private theorem find?_isSetup_of_isRead (named : attr.name ≠ "setup".toList) (body : Without scriptEnd) :
    (scripts ((fileOf [elementWith [attr] body]).written ScriptElement.written)).find? ScriptBlock.isSetup =
      none := by
  by_contra some_
  obtain ⟨block, chosen⟩ := Option.ne_none_iff_exists'.mp some_
  have unnamed : (elementWith [attr] body).isSetup = false := by
    simpa [ScriptElement.isSetup, elementWith] using named
  have content (first : Without scriptEnd) : block.content = first.val := by
    have right := read (fileOf [elementWith [] first, elementWith [attr] body])
      (eq_of_mem_attributes_fileOf (by simp [elementWith]))
    have plain : ScriptBlock.isSetup (elementWith [] first).block = false := rfl
    have setless : (elementWith [] first).isSetup = false := rfl
    rw [ScriptFile.IsRead, ScriptFile.chosen?, pieces_fileOf, script?, fileOf,
      ScriptFile.scripts_next noScript (by simp [ScriptElement.inner, elementWith, spacedOut]),
      List.find?_cons_of_neg (by simp [plain]), chosen, List.find?_cons_of_neg (by simp [setless]),
      List.find?_cons_of_neg (by simp [unnamed])] at right
    exact (Prod.mk.inj (Option.some.inj right)).1
  have same := (content noBody).symm.trans (content letterBody)
  revert same
  decide

variable {front back : List Char} (given : attr.value? = some value) (ends : value.val = front ++ '>' :: back)
  (free : '>' ∉ front)

include given ends free

/-- The script of an element with such an attribute is the first that is found. -/
private theorem script?_eq_head?_of_isRead (body : Without scriptEnd) :
    script? ((fileOf [elementWith [attr] body]).written ScriptElement.written) =
      (scripts ((fileOf [elementWith [attr] body]).written ScriptElement.written)).head? := by
  by_cases named : attr.name = "setup".toList
  · -- What stands before the end of the tag sets the script up.
    obtain ⟨content, after, others, found, -⟩ := scripts_of_end given ends free body
    have setup : ScriptBlock.isSetup ⟨' ' :: (attr.name ++ '=' :: '"' :: front), content⟩ = true := by
      rw [ScriptBlock.isSetup, Bool.not_eq_true', List.isEmpty_eq_false_iff, named]
      exact occurrences_ne_nil [' '] (by simp)
        (isSome_setupHere?_iff.mpr ⟨by simp; decide, '=' :: '"' :: front, rfl, by simp⟩)
    rw [script?, found, List.find?_cons_of_pos setup]
    rfl
  · rw [script?, find?_isSetup_of_isRead read named body, Option.none_or]

/-- Its body then stands behind the first end of the tag. -/
private theorem exists_behind_of_isRead (body : Without scriptEnd) : ∃ after,
    back ++ '"' :: '>' :: (body.val ++ scriptEnd) = body.val ++ scriptEnd ++ after := by
  have right := read (fileOf [elementWith [attr] body]) (eq_of_mem_attributes_fileOf (by simp [elementWith]))
  obtain ⟨content, after, others, found, behind⟩ := scripts_of_end given ends free body
  rw [ScriptFile.IsRead, script?_eq_head?_of_isRead read given ends free, found, chosen?_fileOf_singleton] at right
  obtain ⟨same, -⟩ : content = body.val ∧ _ := Prod.mk.inj (Option.some.inj right)
  exact ⟨after, same ▸ behind⟩

end

/-- Where a value ends the tag, not all that is read is right. -/
theorem exists_not_isRead_of_end (given : attr.value? = some value) (ends : '>' ∈ value.val) :
    ∃ file : ScriptFile, (∀ other ∈ file.attributes, other = attr) ∧ ¬ file.IsRead := by
  by_contra wrong
  have read (file : ScriptFile) (drawn : ∀ other ∈ file.attributes, other = attr) : file.IsRead :=
    not_not.mp fun unread => wrong ⟨file, drawn, unread⟩
  obtain ⟨front, back, whole, free⟩ := List.eq_append_cons_of_mem ends
  -- What is left of the value would start like the end of a script, and like a letter.
  obtain ⟨after, without⟩ := exists_behind_of_isRead read given whole free noBody
  obtain ⟨after', letter⟩ := exists_behind_of_isRead read given whole free letterBody
  cases back with
  | nil => exact absurd (List.cons.inj without).1 (by decide)
  | cons c back => exact absurd ((List.cons.inj without).1.symm.trans (List.cons.inj letter).1) (by decide)

/-- Of a single element the language is read from its tag. -/
theorem language?_of_isRead {element : ScriptElement} (closed : '>' ∉ element.inner)
    (read : (fileOf [element]).IsRead) : (occurrences languageHere? element.inner).head? = element.language? := by
  have block : script? ((fileOf [element]).written ScriptElement.written) = some element.block := by
    rw [script?, ScriptFile.scripts_written _ (by simpa [pieces_fileOf] using closed), pieces_fileOf]
    cases set : element.block.isSetup <;> simp [set]
  rw [ScriptFile.IsRead, chosen?_fileOf_singleton, block] at read
  exact (Prod.mk.inj (Option.some.inj read)).2

section

variable (given : attr.value? = some value) (closed : '>' ∉ value.val)

include given closed

/-- A value that reads as `setup` sets up a script that is not the first one. -/
private theorem not_isRead_of_setsUp (other : attr.name ≠ "setup".toList) (reads : ReadsAsSetup value.val) :
    ¬ (fileOf [elementWith [] noBody, elementWith [attr] letterBody]).IsRead := by
  intro read
  let first := elementWith [] noBody
  let second := elementWith [attr] letterBody
  have plain : first.isSetup = false ∧ first.block.isSetup = false := ⟨rfl, rfl⟩
  have unnamed : second.isSetup = false := by
    simpa [second, ScriptElement.isSetup, elementWith] using other
  have found : second.block.isSetup = true := by
    rw [ScriptBlock.isSetup, Bool.not_eq_true', List.isEmpty_eq_false_iff]
    exact occurrences_setup_of_value [] [] given reads
  have chosen : (fileOf [first, second]).chosen? = some first := by
    rw [ScriptFile.chosen?, pieces_fileOf, List.find?_cons_of_neg (by simp [plain]),
      List.find?_cons_of_neg (by simp [unnamed])]
    rfl
  have block : script? ((fileOf [first, second]).written ScriptElement.written) = some second.block := by
    rw [script?, ScriptFile.scripts_written, pieces_fileOf, List.map_cons, List.find?_cons_of_neg (by simp [plain]),
      List.map_cons, List.find?_cons_of_pos found]
    · rfl
    · rw [pieces_fileOf]
      simpa using ⟨end_not_mem_elementWith given (by simp) closed,
        end_not_mem_elementWith given (by simp) closed⟩
  rw [ScriptFile.IsRead, chosen, block] at read
  exact List.cons_ne_nil _ _ (Prod.mk.inj (Option.some.inj read)).1

/-- A language that is empty or holds a single quote is not read as it is written. -/
private theorem not_isRead_of_cutsLanguage (named : attr.name = "lang".toList)
    (cut : value.val = [] ∨ '\'' ∈ value.val) : ¬ (fileOf [elementWith [attr] noBody]).IsRead := by
  intro read
  have told := language?_of_isRead (end_not_mem_elementWith given (by simp) closed) read
  have language : (elementWith [attr] noBody).language? = some value.val := by
    simp [ScriptElement.language?, elementWith, TagAttribute.language?, named, given]
  rw [language] at told
  obtain ⟨last?, text, length, here⟩ := exists_of_mem_occurrencesFrom (List.mem_of_head? told)
  obtain ⟨-, ⟨rest, -, -, -, -, -, -, -, -, -, -, -, -, -, ne, free⟩, -⟩ := languageHere?_eq_some_iff.mp here
  rcases cut with empty | quote
  · exact ne empty
  · exact absurd (free _ quote) (by decide)

/-- No language is read of an element in which only an attribute of another name than `lang` stands. -/
private theorem languages_eq_nil_of_isRead {attributes : List TagAttribute}
    (drawn : ∀ other ∈ attributes, other = attr) (other : attr.name ≠ "lang".toList)
    (read : (fileOf [elementWith attributes noBody]).IsRead) :
    occurrences languageHere? (elementWith attributes noBody).inner = [] := by
  have untold := language?_of_isRead (end_not_mem_elementWith given drawn closed) read
  have language : (elementWith attributes noBody).language? = none := by
    refine List.findSome?_eq_none_iff.mpr fun spaced listed => ?_
    obtain ⟨attr', inside, rfl⟩ := List.mem_map.mp listed
    rw [drawn attr' inside]
    exact if_neg other
  rwa [language, List.head?_eq_none_iff] at untold

/-- A language is read behind a name that ends like `lang`. -/
private theorem not_isRead_of_endsInLanguage {stem : List Char} {c : Char}
    (named : attr.name = stem ++ c :: "lang".toList) (apart : isWord c = false)
    (told : ∃ c ∈ value.val.head?, c ≠ '\'') : ¬ (fileOf [elementWith [attr] noBody]).IsRead := by
  intro read
  have other : attr.name ≠ "lang".toList := by
    intro same
    have length := congrArg List.length (same.symm.trans named)
    simp at length
  exact occurrences_language_of_name [] [] given named apart told
    (languages_eq_nil_of_isRead given closed (by simp) other read)

/-- A value that reads as a language is read as one, if an attribute follows. -/
private theorem not_isRead_of_tellsLanguage (other : attr.name ≠ "lang".toList)
    (reads : ReadsAsLanguage value.val) : ¬ (fileOf [elementWith [attr, attr] noBody]).IsRead := by
  intro read
  refine occurrences_language_of_value [] [(space, attr)] given reads ?_
    (languages_eq_nil_of_isRead given closed (by simp) other read)
  have follows : spacedOut [(space, attr)] ++ [] = ' ' :: (attr.name ++ attr.quoted) := by
    simp [spacedOut, space, TagAttribute.written]
  refine ⟨' ', attr.name ++ attr.quoted, follows, by decide, ?_⟩
  simp [TagAttribute.quoted, given]

end

/-- An attribute that misleads does so in some file. -/
theorem exists_not_isRead (given : attr.value? = some value) (misleads : attr.Misleads value) :
    ∃ file : ScriptFile, (∀ other ∈ file.attributes, other = attr) ∧ ¬ file.IsRead := by
  by_cases ends : '>' ∈ value.val
  · exact exists_not_isRead_of_end given ends
  cases misleads with
  | endsTag inside => exact absurd inside ends
  | setsUp other reads =>
    exact ⟨_, eq_of_mem_attributes_fileOf (by simp [elementWith]), not_isRead_of_setsUp given ends other reads⟩
  | cutsLanguage named cut =>
    exact ⟨_, eq_of_mem_attributes_fileOf (by simp [elementWith]), not_isRead_of_cutsLanguage given ends named cut⟩
  | endsInLanguage stem c named apart told =>
    exact ⟨_, eq_of_mem_attributes_fileOf (by simp [elementWith]),
      not_isRead_of_endsInLanguage given ends named apart told⟩
  | tellsLanguage other reads =>
    exact ⟨_, eq_of_mem_attributes_fileOf (by simp [elementWith]), not_isRead_of_tellsLanguage given ends other reads⟩

namespace ScriptFile

/-- For files with attributes of a set the script that is read is that of the chosen element, with its language,
if and only if no attribute of the set is taken for what it is not. -/
theorem isRead_iff (allowed : Set TagAttribute) :
    (∀ file : ScriptFile, (∀ attr ∈ file.attributes, attr ∈ allowed) → file.IsRead) ↔
      ∀ attr ∈ allowed, attr.Plain := by
  constructor
  · intro correct attr member value given misleads
    obtain ⟨file, drawn, wrong⟩ := exists_not_isRead (Option.mem_def.mp given) misleads
    exact wrong (correct file fun other listed => drawn other listed ▸ member)
  · exact fun plain file drawn => isRead_of_plain fun attr listed => plain attr (drawn attr listed)

end ScriptFile

/-- A script that sets up a component with a type parameter. -/
def genericScript : ScriptElement :=
  elementWith
    [⟨"setup".toList, none, by decide, isNamePart_of_mem_setup⟩,
      ⟨"generic".toList, some ⟨"T extends Foo<string>".toList, by decide⟩, by decide,
        List.all_iff_forall_prop.mp rfl⟩]
    ⟨"defineProps(['a'])".toList, by decide⟩

/-- The type parameter ends the tag, and its end is read as part of the script. -/
theorem not_isRead_generic : ¬ ∀ file : ScriptFile, file.IsRead := by
  intro claimed
  have read := claimed (fileOf [genericScript])
  unfold ScriptFile.IsRead at read
  revert read
  decide +kernel

end ComponentCatalog.Sfc
