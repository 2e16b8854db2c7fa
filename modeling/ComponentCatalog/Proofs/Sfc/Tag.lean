import ComponentCatalog.Proofs.Text.Scan
import ComponentCatalog.Sfc.Slot

/-! # The slot tags of a template

A slot tag reaches from `<slot`, where a word ends, to the next `>`. Where no slot tag is open a template
can be taken apart: its tags are those of the parts. Of the slots that tags declare the first of each name
is kept, so what a name stands for is settled by the tags before.
-/

namespace ComponentCatalog.Sfc

open Unicode Text

variable {text rest attributes inner : List Char} {last? : Option Char} {length : Nat}

/-! ## One tag -/

/-- What opens a slot tag. -/
def slotStart : List Char := "<slot".toList

theorem sharp_slotStart : Sharp slotStart := by decide

theorem length_slotStart : slotStart.length = 5 := rfl

/-- The empty text, as one without a slot tag. -/
def noText : Without "<slot".toList := ⟨[], by decide⟩

/-- The text between the name of a tag and its end, without the slash of a tag that closes itself. -/
def withoutSlash (inner : List Char) : List Char :=
  if inner.getLast? == some '/' then inner.dropLast else inner

private theorem guard_eq_some_iff {p : Prop} [Decidable p] : (guard p : Option Unit) = some () ↔ p := by
  unfold guard
  split
  · exact iff_of_true rfl ‹p›
  · exact iff_of_false nofun ‹¬ p›

private theorem atWordEnd_append (inner rest : List Char) :
    atWordEnd (inner ++ '>' :: rest) = atWordEnd (inner ++ ['>']) := by
  cases inner <;> rfl

private theorem slotTag?_eq (last? : Option Char) (text : List Char) :
    slotTag? last? text =
      Option.bind (guard (slotStart.isPrefixOf text = true)) fun _ =>
        Option.bind (guard (atWordEnd (text.drop 5) = true)) fun _ =>
          Option.bind (cutAt ['>'] (text.drop 5)) fun cut =>
            some (withoutSlash cut.1, text.length - cut.2.length) := rfl

/-- A slot tag is a start where a word ends, a text without `>`, and a `>`. -/
theorem slotTag?_eq_some_iff :
    slotTag? last? text = some (attributes, length) ↔ ∃ inner rest,
      text = slotStart ++ (inner ++ '>' :: rest) ∧ '>' ∉ inner ∧ atWordEnd (inner ++ ['>']) = true ∧
        attributes = withoutSlash inner ∧ length = inner.length + 6 := by
  have size (inner rest : List Char) :
      (slotStart ++ (inner ++ '>' :: rest)).length - rest.length = inner.length + 6 := by
    simp only [List.length_append, List.length_cons, length_slotStart]
    omega
  rw [slotTag?_eq]
  constructor
  · intro found
    obtain ⟨_, starts, found⟩ := Option.bind_eq_some_iff.mp found
    obtain ⟨_, ends, found⟩ := Option.bind_eq_some_iff.mp found
    obtain ⟨⟨inner, rest⟩, cut, same⟩ := Option.bind_eq_some_iff.mp found
    obtain ⟨tail, rfl⟩ := List.isPrefixOf_iff_prefix.mp (guard_eq_some_iff.mp starts)
    change guard (atWordEnd tail = true) = _ at ends
    change cutAt ['>'] tail = _ at cut
    obtain rfl : tail = inner ++ '>' :: rest := by
      rw [eq_of_cutAt cut, List.append_assoc]
      rfl
    rw [size] at same
    cases same
    refine ⟨inner, rest, rfl, ?_, ?_, rfl, rfl⟩
    · exact fun member => not_infix_of_cutAt (List.cons_ne_nil _ _) cut ((List.singleton_infix_iff _ _).mpr member)
    · rw [← atWordEnd_append inner rest]
      exact guard_eq_some_iff.mp ends
  · rintro ⟨inner, rest, rfl, free, ends, rfl, rfl⟩
    have starts : slotStart.isPrefixOf (slotStart ++ (inner ++ '>' :: rest)) = true := rfl
    have word : atWordEnd ((slotStart ++ (inner ++ '>' :: rest)).drop 5) = true := by
      rw [← atWordEnd_append inner rest] at ends
      exact ends
    have cut : cutAt ['>'] ((slotStart ++ (inner ++ '>' :: rest)).drop 5) = some (inner, rest) := cutAt_char free
    rw [guard_eq_some_iff.mpr starts, guard_eq_some_iff.mpr word, cut, Option.bind_some, Option.bind_some,
      Option.bind_some, size]

/-! ## The tags of a text -/

/-- The texts of the attributes of the slot tags in a text. -/
def slotTags (text : List Char) : List (List Char) := occurrences slotTag? text

private theorem slotTags_eq (last? : Option Char) (text : List Char) :
    occurrencesFrom slotTag? 0 last? text = slotTags text :=
  occurrencesFrom_congr (fun _ _ _ => rfl) 0 last? none text

theorem slotTags_tag (free : '>' ∉ inner) (ends : atWordEnd (inner ++ ['>']) = true) (rest : List Char) :
    slotTags (slotStart ++ (inner ++ '>' :: rest)) = withoutSlash inner :: slotTags rest := by
  have whole : slotStart ++ (inner ++ '>' :: rest) = slotStart ++ (inner ++ ['>']) ++ rest := by simp
  have tag : slotTag? none (slotStart ++ (inner ++ ['>']) ++ rest) =
      some (withoutSlash inner, (slotStart ++ (inner ++ ['>'])).length) :=
    slotTag?_eq_some_iff.mpr ⟨inner, rest, by simp, free, ends, rfl, by simp [slotStart]⟩
  rw [whole, slotTags, occurrences, occurrencesFrom_found (by simp) tag, slotTags_eq]

theorem slotTags_cons {c : Char} (none : slotTag? Option.none (c :: text) = .none) :
    slotTags (c :: text) = slotTags text := by
  rw [slotTags, occurrences, occurrencesFrom, none]
  exact slotTags_eq (some c) text

/-- A text without a start of a slot tag has none. -/
theorem slotTags_of_free (free : ¬ slotStart <:+: text) : slotTags text = [] := by
  induction text with
  | nil => rfl
  | cons c text ih =>
    rw [List.infix_cons_iff, not_or] at free
    have none : slotTag? Option.none (c :: text) = Option.none := by
      rw [Option.eq_none_iff_forall_ne_some]
      rintro ⟨attributes, length⟩ found
      obtain ⟨inner, rest, whole, -⟩ := slotTag?_eq_some_iff.mp found
      exact free.1 (whole ▸ List.prefix_append _ _)
    rw [slotTags_cons none, ih free.2]

/-- No slot tag is open where a text goes on with another one: what opens in it is closed in it. -/
def Closed (text rest : List Char) : Prop :=
  ∀ head tail, text = head ++ tail → tail ≠ [] → slotStart <+: tail ++ rest → '>' ∈ tail

theorem Closed.suffix (head : List Char) (closed : Closed (head ++ text) rest) : Closed text rest :=
  fun front tail split ne starts =>
    closed (head ++ front) tail (by rw [split, List.append_assoc]) ne starts

/-- Behind a `>` no tag is open. -/
theorem closed_of_getLast? (last : text.getLast? = some '>') (rest : List Char) : Closed text rest := by
  intro head tail split ne _
  rw [split, List.getLast?_append_of_ne_nil head ne] at last
  exact List.mem_of_getLast? last

/-- A text without a start of a slot tag leaves none open where the next one starts. -/
theorem closed_of_free (free : ¬ slotStart <:+: text)
    (next : ∀ d ∈ rest.head?, slotStart.head? = some d) : Closed text rest :=
  fun _ _ split ne starts => absurd starts (sharp_slotStart.not_prefix free next split ne)

/-- The tags of a text that is closed are those of the text and of what comes behind. -/
theorem slotTags_append (closed : Closed text rest) :
    slotTags (text ++ rest) = slotTags text ++ slotTags rest := by
  induction n : text.length using Nat.strong_induction_on generalizing text with
  | _ n ih =>
    subst n
    cases text with
    | nil => rfl
    | cons c text =>
      cases found : slotTag? none (c :: text ++ rest) with
      | none =>
        have alone : slotTag? none (c :: text) = none := by
          rw [Option.eq_none_iff_forall_ne_some] at found ⊢
          rintro ⟨attributes, length⟩ tag
          obtain ⟨inner, behind, whole, parts⟩ := slotTag?_eq_some_iff.mp tag
          exact found _ (slotTag?_eq_some_iff.mpr ⟨inner, behind ++ rest, by simp [whole], parts⟩)
        rw [List.cons_append] at found ⊢
        rw [slotTags_cons found, slotTags_cons alone,
          ih text.length (by simp) (closed.suffix [c]) rfl]
      | some tag =>
        obtain ⟨attributes, length⟩ := tag
        obtain ⟨inner, behind, whole, free, ends, -⟩ := slotTag?_eq_some_iff.mp found
        -- The tag is closed by the first `>`, which stands before the text goes on.
        have member := closed [] (c :: text) rfl (List.cons_ne_nil c text) (whole ▸ List.prefix_append _ _)
        obtain ⟨front, text', split, first⟩ := List.eq_append_cons_of_mem member
        have start : '>' ∉ slotStart ++ inner := by
          rw [List.mem_append, not_or]
          exact ⟨by decide, free⟩
        have same : (front, text' ++ rest) = (slotStart ++ inner, behind) := by
          rw [split, List.append_assoc, List.cons_append] at whole
          rw [← Option.some_inj, ← cutAt_char first, ← cutAt_char start, whole, List.append_assoc]
        obtain ⟨rfl, rfl⟩ := Prod.mk.inj same
        have length_lt : text'.length < (c :: text).length := by
          rw [split]
          simp
          omega
        have closed' : Closed text' rest := by
          rw [split] at closed
          apply Closed.suffix (slotStart ++ inner ++ ['>'])
          simpa only [List.append_assoc, List.singleton_append] using closed
        rw [split]
        simp only [List.append_assoc, List.cons_append]
        rw [slotTags_tag free ends, slotTags_tag free ends, ih text'.length length_lt closed' rfl,
          List.cons_append]

/-- A text without a start of a slot tag is passed over, up to where one may start. -/
theorem slotTags_free_append (free : ¬ slotStart <:+: text)
    (next : ∀ d ∈ rest.head?, slotStart.head? = some d) : slotTags (text ++ rest) = slotTags rest := by
  rw [slotTags_append (closed_of_free free next), slotTags_of_free free, List.nil_append]

/-- The slots that the tags of a text declare, also those whose names come again. -/
def declaredSlots (text : List Char) : List Member :=
  (slotTags text).map fun attributes => slotOf (occurrences attributeHere? attributes)

theorem templateSlots_eq (text : List Char) : templateSlots text = firstOfName (declaredSlots text) := rfl

theorem declaredSlots_append (closed : Closed text rest) :
    declaredSlots (text ++ rest) = declaredSlots text ++ declaredSlots rest := by
  rw [declaredSlots, slotTags_append closed, List.map_append]
  rfl

/-! ## The first of each name -/

/-- What is kept when a further member is seen. -/
def keep (kept : List Member) (member : Member) : List Member :=
  if kept.any (·.name == member.name) then kept else kept ++ [member]

theorem keep_of_known {kept : List Member} {member : Member} (known : kept.any (·.name == member.name)) :
    keep kept member = kept :=
  if_pos known

theorem firstOfName_eq_foldl (members : List Member) : firstOfName members = members.foldl keep [] := rfl

theorem firstOfName_append (members others : List Member) :
    firstOfName (members ++ others) = others.foldl keep (firstOfName members) := by
  rw [firstOfName_eq_foldl, List.foldl_append, ← firstOfName_eq_foldl]

theorem prefix_foldl_keep (kept others : List Member) : kept <+: others.foldl keep kept := by
  induction others generalizing kept with
  | nil => exact List.prefix_rfl
  | cons member others ih =>
    refine List.IsPrefix.trans ?_ (ih (keep kept member))
    unfold keep
    split
    · exact List.prefix_rfl
    · exact List.prefix_append kept [member]

/-- Members that are kept anyway, in their order, may as well be kept from the start. -/
theorem foldl_keep_of_prefix {kept more : List Member} (others : List Member) (further : kept <+: more)
    (later : more <+: others.foldl keep kept) : others.foldl keep more = others.foldl keep kept := by
  induction others generalizing kept with
  | nil => exact later.eq_of_length_le further.length_le
  | cons member others ih =>
    simp only [List.foldl_cons] at later ⊢
    by_cases known : kept.any (·.name == member.name)
    · have known' : more.any (·.name == member.name) := by
        obtain ⟨earlier, inside, same⟩ := List.any_eq_true.mp known
        exact List.any_eq_true.mpr ⟨earlier, further.subset inside, same⟩
      rw [keep_of_known known] at later ⊢
      rw [keep_of_known known']
      exact ih further later
    · obtain ⟨tail, rfl⟩ := further
      cases tail with
      | nil => rw [List.append_nil]
      | cons next tail =>
        -- The member is the next one of those that are kept anyway.
        have now : keep kept member = kept ++ [member] := if_neg known
        have first := prefix_foldl_keep (keep kept member) others
        rw [now] at later first ⊢
        obtain ⟨rest, whole⟩ := later
        obtain ⟨rest', whole'⟩ := first
        rw [← whole, List.append_assoc, List.append_assoc, List.append_cancel_left_eq] at whole'
        obtain rfl : member = next := (List.cons.inj whole').1
        rw [keep_of_known (by simp)]
        exact ih ⟨tail, by simp⟩ ⟨rest, whole⟩

/-- Further members in between change nothing, if and only if with them the same members are kept first. -/
theorem firstOfName_insert_iff (members inserted others : List Member) :
    firstOfName (members ++ (inserted ++ others)) = firstOfName (members ++ others) ↔
      firstOfName (members ++ inserted) <+: firstOfName (members ++ others) := by
  constructor
  · intro same
    rw [← same, ← List.append_assoc, firstOfName_append (members ++ inserted)]
    exact prefix_foldl_keep _ others
  · intro first
    rw [firstOfName_append members others] at first ⊢
    rw [← List.append_assoc, firstOfName_append]
    apply foldl_keep_of_prefix others _ first
    rw [firstOfName_append]
    exact prefix_foldl_keep _ inserted

variable {member : Member} {members others : List Member}

/-- Keeping the first member of each name is removing the later duplicates. -/
theorem firstOfName_eq (members : List Member) :
    firstOfName members = members.eraseDupsBy fun a b => b.name == a.name := by
  have kept (earlier : List Member) : members.foldl (fun kept member =>
        if kept.any (·.name == member.name) then kept else kept ++ [member]) earlier =
      List.eraseDupsBy.loop (fun a b => b.name == a.name) members earlier.reverse := by
    induction members generalizing earlier with
    | nil => rw [List.foldl_nil, List.eraseDupsBy.loop, List.reverse_reverse]
    | cons member members ih =>
      rw [List.foldl_cons, ih, List.eraseDupsBy.loop, List.any_reverse]
      cases earlier.any (·.name == member.name) <;> simp
  exact kept []

theorem firstOfName_cons (member : Member) (members : List Member) :
    firstOfName (member :: members) =
      member :: firstOfName (members.filter (·.name != member.name)) := by
  rw [firstOfName_eq, List.eraseDupsBy_cons, ← firstOfName_eq]
  congr 3
  funext other
  rw [Bool.eq_iff_iff, decide_eq_true_iff, beq_eq_false_iff_ne, bne_iff_ne, ne_comm]

/-- Members with other names than the first one are fewer. -/
private theorem length_others (member : Member) (members : List Member) :
    (members.filter (·.name != member.name)).length < (member :: members).length := by
  have := List.length_filter_le (·.name != member.name) members
  simp only [List.length_cons]
  omega

/-- What is kept of a name is its first member. -/
theorem firstOfName_eq_filterMap (members : List Member) :
    firstOfName members = (members.map (·.name)).eraseDups.filterMap fun name =>
      members.find? (·.name == name) := by
  induction n : members.length using Nat.strong_induction_on generalizing members with
  | _ n ih =>
    subst n
    cases members with
    | nil => rfl
    | cons member members =>
      rw [firstOfName_cons, List.map_cons, List.eraseDups_cons, List.filter_map, List.filterMap_cons,
        List.find?_cons_of_pos (by simp), ih _ (length_others member members) _ rfl]
      congr 1
      apply List.filterMap_congr
      intro name later
      have other : name ≠ member.name := by
        obtain ⟨earlier, kept, rfl⟩ := List.mem_map.mp (List.mem_eraseDups.mp later)
        simpa using (List.mem_filter.mp kept).2
      rw [List.find?_cons_of_neg (by simpa using other.symm), List.find?_filter]
      congr 1
      funext earlier
      by_cases same : earlier.name = name
      · simp [same, other]
      · simp [same]

end ComponentCatalog.Sfc
