import ComponentCatalog.Proofs.Files.Written
import ComponentCatalog.Proofs.Order

/-! # Paths of names

The path that is made of the names on the way from the root has these names as its parts. So the paths of
different names differ, and they are ordered as the names are, one after the other.
-/

namespace ComponentCatalog

/-- A text without separators belongs to the first piece of the text that it stands before. -/
theorem Text.splitWhere_append {class_ : Char → Bool} {text rest first : List Char} {more : List (List Char)}
    (none : ∀ c ∈ text, class_ c = false) (split : splitWhere class_ rest = first :: more) :
    splitWhere class_ (text ++ rest) = (text ++ first) :: more := by
  induction text with
  | nil => exact split
  | cons c text ih =>
    rw [List.forall_mem_cons] at none
    rw [List.cons_append, splitWhere, none.1, ih none.2]
    rfl

namespace Files

/-- A name that an entry of a directory can have. -/
structure IsEntryName (name : String) : Prop where
  nonempty : name ≠ ""
  not_here : name ≠ "."
  not_up : name ≠ ".."
  slashless : '/' ∉ name.toList

instance (name : String) : Decidable (IsEntryName name) :=
  decidable_of_iff (name ≠ "" ∧ name ≠ "." ∧ name ≠ ".." ∧ '/' ∉ name.toList)
    ⟨fun ⟨nonempty, not_here, not_up, slashless⟩ => ⟨nonempty, not_here, not_up, slashless⟩,
      fun ⟨nonempty, not_here, not_up, slashless⟩ => ⟨nonempty, not_here, not_up, slashless⟩⟩

section

variable {name : String} {names others : List String} (named : ∀ name ∈ names, IsEntryName name)

theorem IsEntryName.partOf?_eq (named : IsEntryName name) : Path.partOf? name.toList = some (.name name) := by
  have apart (text : List Char) (other : name ≠ String.ofList text) : name.toList ≠ text :=
    fun same => other (by rw [← same, String.ofList_toList])
  unfold Path.partOf?
  split
  · next empty => exact absurd empty (apart _ named.nonempty)
  · next here => exact absurd here (apart _ named.not_here)
  · next up => exact absurd up (apart _ named.not_up)
  · rw [String.ofList_toList]

/-- The text of a path of names: a slash before each name. -/
theorem toList_pathOf (names : List String) :
    (pathOf names).text.toList = if names = [] then ['/'] else names.flatMap fun name => '/' :: name.toList := by
  cases names with
  | nil => rfl
  | cons name names =>
    simp only [pathOf, List.isEmpty_cons, Bool.false_eq_true, if_false, reduceCtorEq, String.toList_join,
      List.flatMap_map, String.toList_append]
    rfl

include named

private theorem segments_flatMap :
    Path.segments (names.flatMap fun name => '/' :: name.toList) = [] :: names.map String.toList := by
  induction names with
  | nil => rfl
  | cons name names ih =>
    rw [List.forall_mem_cons] at named
    have free : ∀ c ∈ name.toList, (c == '/') = false := fun c member =>
      beq_eq_false_iff_ne.mpr fun slash => named.1.slashless (slash ▸ member)
    have split := Text.splitWhere_append free (ih named.2)
    rw [List.append_nil] at split
    rw [List.flatMap_cons, Path.segments, List.cons_append, Text.splitWhere, if_pos (by decide), split]
    rfl

private theorem filterMap_partOf? : (names.map String.toList).filterMap Path.partOf? = names.map .name := by
  induction names with
  | nil => rfl
  | cons name names ih =>
    rw [List.forall_mem_cons] at named
    simp only [List.map_cons, List.filterMap_cons, named.1.partOf?_eq, ih named.2]

/-- What a path of names says: from the root, one name after the other. -/
theorem parts_pathOf : (pathOf names).parts = .root :: names.map .name := by
  rw [Path.parts, Path.opening, toList_pathOf]
  cases names with
  | nil => rfl
  | cons name names =>
    rw [if_neg (List.cons_ne_nil _ _), segments_flatMap named]
    exact congrArg (PathPart.root :: ·) (filterMap_partOf? named)

theorem pathOf_inj (named' : ∀ name ∈ others, IsEntryName name)
    (same : (pathOf names).parts = (pathOf others).parts) : names = others := by
  rw [parts_pathOf named, parts_pathOf named', List.cons.injEq] at same
  exact (List.map_inj_right fun _ _ => PathPart.name.inj).mp same.2

theorem fileName?_pathOf : (pathOf names).fileName? = names.getLast? := by
  rw [Path.fileName?, parts_pathOf named, List.getLast?_cons, List.getLast?_map]
  cases names.getLast? <;> rfl

/-- Only the path of no names ends in a slash: the last name has characters, and none of them is one. -/
private theorem endsWith_pathOf : (pathOf names).text.endsWith "/" = true ↔ names = [] := by
  have slash : "/".toList = ['/'] := rfl
  rw [String.endsWith_eq_endsWith_toSlice, String.Slice.endsWith_string_iff, String.copy_toSlice, slash,
    List.singleton_suffix_iff_getLast?_eq_some, toList_pathOf]
  rcases List.eq_nil_or_concat names with rfl | ⟨front, last, rfl⟩
  · simp
  · have final := named last (by simp)
    have chars : last.toList ≠ [] := fun empty => final.nonempty (String.toList_inj.mp empty)
    have other : last.toList.getLast? ≠ some '/' := fun slash =>
      final.slashless (List.mem_of_getLast? slash)
    rw [List.concat_eq_append, if_neg (by simp), List.flatMap_append, List.flatMap_singleton,
      List.getLast?_append_of_ne_nil _ (List.cons_ne_nil _ _), List.getLast?_cons_of_ne_nil chars]
    exact iff_of_false other (by simp)

/-- Below a path of names lies the path with one more name. -/
theorem join_pathOf (next : IsEntryName name) : (pathOf names).join name = pathOf (names ++ [name]) := by
  have relative : ¬ name.startsWith "/" = true := by
    rw [String.startsWith_string_iff]
    exact fun front => next.slashless (front.subset (List.mem_singleton.mpr rfl))
  have nonempty : ¬ (pathOf names).text.isEmpty = true := by
    rw [String.isEmpty_iff, ← String.toList_inj, toList_pathOf]
    cases names <;> simp
  have written : (pathOf (names ++ [name])).text.toList =
      (names.flatMap fun name => '/' :: name.toList) ++ '/' :: name.toList := by
    rw [toList_pathOf, if_neg (by simp), List.flatMap_append, List.flatMap_singleton]
  have of_text (text : String) (spelled : text.toList = (pathOf (names ++ [name])).text.toList) :
      Path.mk text = pathOf (names ++ [name]) := congrArg Path.mk (String.toList_inj.mp spelled)
  rw [Path.join, if_neg (by simp [relative, nonempty])]
  split
  · next ends =>
    obtain rfl := (endsWith_pathOf named).mp ends
    refine of_text _ ?_
    rw [written, String.toList_append, toList_pathOf]
    rfl
  · next ends =>
    have inside : names ≠ [] := fun none => ends ((endsWith_pathOf named).mpr none)
    refine of_text _ ?_
    rw [written, String.toList_append, String.toList_append, toList_pathOf, if_neg inside, List.append_assoc]
    rfl

omit named in
private theorem compareParts_names :
    Path.compareParts (names.map .name) (others.map .name) = .lt ↔ names < others := by
  induction names generalizing others with
  | nil => cases others <;> simp [Path.compareParts]
  | cons name names ih =>
    cases others with
    | nil => simp [Path.compareParts]
    | cons other others =>
      have first : PathPart.compare (.name name) (.name other) = Ord.compare name other := rfl
      rw [List.map_cons, List.map_cons, Path.compareParts, Ordering.then_eq_lt, first, ih, List.cons_lt_cons_iff]
      exact or_congr compareOfLessAndEq_eq_lt (and_congr_left fun _ => Std.compare_eq_iff_eq)

/-- Paths of names are in the order of the names, the first that differ being compared. -/
theorem compare_pathOf (named' : ∀ name ∈ others, IsEntryName name) :
    (pathOf names).compare (pathOf others) = .lt ↔ names < others := by
  rw [Path.compare, parts_pathOf named, parts_pathOf named', Path.compareParts]
  exact compareParts_names

end

/-! ## Trees whose entries are well named -/

namespace Node

/-- The entries of all directories of a tree have names that entries can have, each directory each name once. -/
def WellNamed (root : Node) : Prop :=
  ∀ names entries, root.get? names = some (.dir entries) →
    (entries.map Prod.fst).Nodup ∧ ∀ entry ∈ entries, IsEntryName entry.1

variable {root node : Node} {names : List String}

theorem WellNamed.below (wellNamed : root.WellNamed) (there : root.get? names = some node) : node.WellNamed := by
  intro more entries inside
  refine wellNamed (names ++ more) entries ?_
  rw [get?_append, there]
  exact inside

/-- Only a directory has anything below a name. -/
theorem get?_cons_eq_some_iff {name : String} :
    root.get? (name :: names) = some node ↔
      ∃ entries below, root = .dir entries ∧ Table.get? entries name = some below ∧ below.get? names = some node := by
  rw [get?, Option.bind_eq_some_iff]
  constructor
  · rintro ⟨below, there, inside⟩
    cases root with
    | dir entries => exact ⟨entries, below, rfl, there, inside⟩
    | _ => cases there
  · rintro ⟨entries, below, rfl, there, inside⟩
    exact ⟨below, there, inside⟩

theorem wellNamed_of_not_isDir (plain : root.isDir = false) : root.WellNamed := by
  intro names entries there
  cases names with
  | nil => cases there; cases plain
  | cons name names =>
    obtain ⟨_, _, rfl, -⟩ := get?_cons_eq_some_iff.mp there
    cases plain

theorem wellNamed_dir_iff {entries : List (String × Node)} : (dir entries).WellNamed ↔
    (entries.map Prod.fst).Nodup ∧ (∀ entry ∈ entries, IsEntryName entry.1) ∧ ∀ entry ∈ entries, entry.2.WellNamed := by
  constructor
  · intro wellNamed
    obtain ⟨nodup, named⟩ := wellNamed [] entries rfl
    refine ⟨nodup, named, fun entry member => ?_⟩
    have here : (dir entries).get? [entry.1] = some entry.2 :=
      get?_cons_eq_some_iff.mpr ⟨entries, entry.2, rfl, (Table.get?_eq_some_iff nodup).mpr member, rfl⟩
    exact wellNamed.below here
  · rintro ⟨nodup, named, below⟩ names inner there
    cases names with
    | nil => cases there; exact ⟨nodup, named⟩
    | cons name names =>
      obtain ⟨_, node, same, found, inside⟩ := get?_cons_eq_some_iff.mp there
      cases same
      exact below _ (Table.mem_of_get? found) names inner inside

theorem WellNamed.isEntryName (wellNamed : root.WellNamed) (there : root.get? names = some node) :
    ∀ name ∈ names, IsEntryName name := by
  induction names generalizing root with
  | nil => simp
  | cons name names ih =>
    obtain ⟨entries, below, rfl, found, inside⟩ := get?_cons_eq_some_iff.mp there
    have here : (dir entries).get? [name] = some below := get?_cons_eq_some_iff.mpr ⟨_, _, rfl, found, rfl⟩
    refine List.forall_mem_cons.mpr ⟨?_, ih (wellNamed.below here) inside⟩
    exact (wellNamed [] entries rfl).2 _ (Table.mem_of_get? found)

end Node

/-- Where a path leads without links: to a path of names, which lead there. -/
theorem exists_names_of_canonical {files : Files} {dir path : Path} {node : Node}
    (leads : files.canonical dir = .ok (path, node)) :
    ∃ names, path = pathOf names ∧ files.root.get? names = some node := by
  unfold canonical at leads
  cases found : files.place true dir with
  | error fault => rw [found] at leads; cases leads
  | ok place =>
    have there := isIn_of_place found
    rw [found] at leads
    cases place with
    | found names other => cases leads; exact ⟨names, rfl, there⟩
    | free _ _ => cases leads

end Files

end ComponentCatalog
