import ComponentCatalog.Component.Discovery
import ComponentCatalog.Proofs.Files.Names

/-! # What a walk comes to

A walk through a directory comes to what is taken for a file there and has no name on the way to it that is
passed over. So what a directory shows is told without the walk: it is what the names to such files make of
them, and at one path a directory shows one component.
-/

namespace ComponentCatalog.Component

open Files

/-! ## Walking -/

section Walk

variable {isFile : Path → Bool} {base below dirs : List String} {entries : List (String × Node)}
  {node : Node} {visited : Visited}

/-- Something is taken for a file: a file, or a link that leads to one. -/
def IsLeaf (isFile : Path → Bool) (path : Path) : Node → Prop
  | .file _ => True
  | .link _ => isFile path
  | .dir _ => False

/-- Names lead from a node to something that is taken for a file, and none of them is passed over. -/
structure ComesTo (isFile : Path → Bool) (base : List String) (node : Node) (below : List String) : Prop where
  leaf : ∃ leaf, node.get? below = some leaf ∧ IsLeaf isFile (pathOf (base ++ below)) leaf
  kept : ∀ name ∈ below, name ∉ skippedNames

theorem comesTo_nil_iff : ComesTo isFile base node [] ↔ IsLeaf isFile (pathOf base) node := by
  constructor
  · rintro ⟨⟨leaf, found, isLeaf⟩, -⟩
    obtain rfl := Option.some.inj found
    rwa [List.append_nil] at isLeaf
  · intro isLeaf
    exact ⟨⟨node, rfl, by rwa [List.append_nil]⟩, by simp⟩

theorem comesTo_cons_iff {name : String} : ComesTo isFile base (.dir entries) (name :: below) ↔
    ∃ node, Table.get? entries name = some node ∧ name ∉ skippedNames ∧
      ComesTo isFile (base ++ [name]) node below := by
  constructor
  · rintro ⟨⟨leaf, found, isLeaf⟩, kept⟩
    obtain ⟨_, node, same, there, inside⟩ := Node.get?_cons_eq_some_iff.mp found
    cases same
    rw [List.forall_mem_cons] at kept
    exact ⟨node, there, kept.1, ⟨leaf, inside, by rwa [List.append_assoc]⟩, kept.2⟩
  · rintro ⟨node, there, kept, ⟨leaf, inside, isLeaf⟩, keptBelow⟩
    refine ⟨⟨leaf, Node.get?_cons_eq_some_iff.mpr ⟨_, node, rfl, there, inside⟩, ?_⟩, ?_⟩
    · rwa [List.append_assoc] at isLeaf
    · exact List.forall_mem_cons.mpr ⟨kept, keptBelow⟩

theorem mem_walkEntries_iff {path : Path} : visited ∈ walkEntries isFile path dirs entries ↔
    ∃ entry ∈ entries, visited ∈ walk isFile (path.join entry.1) (dirs ++ [entry.1]) entry.2 := by
  induction entries with
  | nil => simp [walkEntries]
  | cons entry rest ih => rw [walkEntries, List.mem_append, ih, List.exists_mem_cons_iff]

/-- A path of names is passed over if its last name is. -/
theorem isSkipped_pathOf_eq_false_iff (named : ∀ name ∈ base, IsEntryName name) :
    isSkipped (pathOf base) = false ↔ ∀ name ∈ base.getLast?, name ∉ skippedNames := by
  rw [isSkipped, fileName?_pathOf named]
  cases base.getLast? <;> simp

/-- Below what is no directory nothing lies. -/
theorem comesTo_iff_of_not_isDir (plain : node.isDir = false) :
    ComesTo isFile base node below ↔ below = [] ∧ IsLeaf isFile (pathOf base) node := by
  cases below with
  | nil => simp [comesTo_nil_iff]
  | cons name below =>
    refine iff_of_false (fun comes => ?_) (by simp)
    obtain ⟨_, found, -⟩ := comes.leaf
    obtain ⟨_, _, rfl, -⟩ := Node.get?_cons_eq_some_iff.mp found
    cases plain

/-- What holds of files and links, and of a directory if it holds of its entries, holds of every node. -/
private theorem node_induction {motive : Node → Prop} (file : ∀ bytes, motive (.file bytes))
    (link : ∀ target, motive (.link target))
    (dir : ∀ entries, (∀ entry ∈ entries, motive entry.2) → motive (.dir entries)) (node : Node) :
    motive node :=
  match node with
  | .file bytes => file bytes
  | .link target => link target
  | .dir entries => dir entries fun entry _ => node_induction file link dir entry.2
termination_by sizeOf node
decreasing_by
  next member =>
    have less := List.sizeOf_lt_of_mem member
    cases entry
    simp only [Prod.mk.sizeOf_spec, Node.dir.sizeOf_spec] at less ⊢
    omega

/-- A walk comes to what is taken for a file and lies below its start, unless a name on the way is passed over. -/
theorem mem_walk_iff (wellNamed : node.WellNamed) (named : ∀ name ∈ base, IsEntryName name) :
    visited ∈ walk isFile (pathOf base) dirs node ↔ (∀ name ∈ base.getLast?, name ∉ skippedNames) ∧
      ∃ below, ComesTo isFile base node below ∧ visited = ⟨pathOf (base ++ below), (dirs ++ below).dropLast⟩ := by
  induction node using node_induction generalizing base dirs with
  | file bytes =>
    rw [walk, ← isSkipped_pathOf_eq_false_iff named]
    have plain : (Node.file bytes).isDir = false := rfl
    simp [comesTo_iff_of_not_isDir plain, IsLeaf]
  | link target =>
    rw [walk, ← isSkipped_pathOf_eq_false_iff named]
    have plain : (Node.link target).isDir = false := rfl
    simp [comesTo_iff_of_not_isDir plain, IsLeaf, and_assoc]
  | dir entries ih =>
    rw [walk, ← isSkipped_pathOf_eq_false_iff named]
    obtain ⟨nodup, entryNamed⟩ := wellNamed [] entries rfl
    -- An entry is walked through from the path with its name, which is the last one to be passed over there.
    have inside (name : String) (found : Node) (there : Table.get? entries name = some found) :
        visited ∈ walk isFile ((pathOf base).join name) (dirs ++ [name]) found ↔ name ∉ skippedNames ∧
          ∃ below, ComesTo isFile (base ++ [name]) found below ∧
            visited = ⟨pathOf (base ++ name :: below), (dirs ++ name :: below).dropLast⟩ := by
      have member := Table.mem_of_get? there
      have next := entryNamed _ member
      have here : (Node.dir entries).get? [name] = some found :=
        Node.get?_cons_eq_some_iff.mpr ⟨entries, found, rfl, there, rfl⟩
      rw [join_pathOf named next, ih _ member (wellNamed.below here)
        (List.forall_mem_append.mpr ⟨named, by simpa using next⟩)]
      simp
    constructor
    · intro member
      split at member
      · cases member
      · next notSkipped =>
        obtain ⟨⟨name, found⟩, entry, walked⟩ := mem_walkEntries_iff.mp member
        have there := (Table.get?_eq_some_iff nodup).mpr entry
        obtain ⟨kept, below, comes, rfl⟩ := (inside name found there).mp walked
        exact ⟨eq_false_of_ne_true notSkipped, name :: below,
          comesTo_cons_iff.mpr ⟨found, there, kept, comes⟩, rfl⟩
    · rintro ⟨notSkipped, below, comes, same⟩
      rw [if_neg (by simp [notSkipped])]
      cases below with
      | nil => exact (comesTo_nil_iff.mp comes).elim
      | cons name below =>
        obtain ⟨found, there, kept, comes⟩ := comesTo_cons_iff.mp comes
        exact mem_walkEntries_iff.mpr ⟨(name, found), Table.mem_of_get? there,
          (inside name found there).mpr ⟨kept, below, comes, same⟩⟩

end Walk

/-! ## What the names to a file make of it -/

/-- The part of a component's name that comes from its file. -/
def filePart (stem : String) : String :=
  let chars := stem.toList
  let base := if globalSuffix.isSuffixOf chars then chars.take (chars.length - globalSuffix.length) else chars
  if base == indexStem then "" else pascalCase (String.ofList base)

/-- The name of a component, from the names of directories on the way and the stem of its file. -/
def nameOf (dirs : List String) (stem : String) : String :=
  nameFrom (filePart stem) (dirs.filter (· != globalDir))

theorem describeFile_eq_some_iff {path : Path} {dirs : List String} {stem : String} {descriptor : Descriptor} :
    describeFile path dirs stem = some descriptor ↔ nameOf dirs stem ≠ "" ∧
      descriptor = ⟨nameOf dirs stem, path, globalSuffix.isSuffixOf stem.toList || dirs.contains globalDir⟩ := by
  have described : describeFile path dirs stem = if (nameOf dirs stem).isEmpty then none else
      some ⟨nameOf dirs stem, path, globalSuffix.isSuffixOf stem.toList || dirs.contains globalDir⟩ := rfl
  rw [described]
  split
  · next empty => simp [String.isEmpty_iff.mp empty]
  · next named => simpa [← String.isEmpty_iff, named] using eq_comm

/-! ## What a directory shows -/

/-- Names lead from a directory to a component file, and none of them is passed over. The base are the names of
the directory itself, without links. -/
structure Holds (files : Files) (dir : Path) (base below : List String) : Prop where
  root : ∃ node, files.canonical dir = .ok (pathOf base, node)
  leaf : ∃ leaf, files.root.get? (base ++ below) = some leaf ∧
    IsLeaf (leadsToFile files) (pathOf (base ++ below)) leaf
  component : (pathOf (base ++ below)).extension? = some componentExtension
  kept : ∀ name ∈ base.getLast?.toList ++ below, name ∉ skippedNames

/-- The component that the names to a file make of it, if they make a name. -/
def derived? (base below : List String) : Option Descriptor :=
  (pathOf (base ++ below)).stem?.bind (describeFile (pathOf (base ++ below)) below.dropLast)

/-- A component is what a directory shows of one of the files in it. -/
def Shows (files : Files) (dir : Path) (descriptor : Descriptor) : Prop :=
  ∃ base below, Holds files dir base below ∧ derived? base below = some descriptor

/-- What a walk through a directory comes to. -/
def visits (files : Files) (dir : Path) : List Visited :=
  match files.canonical dir with
  | .ok (root, node) => walk (leadsToFile files) root [] node
  | .error _ => []

section Shows

variable {files : Files} (wellNamed : files.root.WellNamed) {dir : Path} {base below : List String}
  {descriptor other : Descriptor}

theorem derived?_path (derived : derived? base below = some descriptor) :
    descriptor.resolvedPath = pathOf (base ++ below) := by
  obtain ⟨stem, -, described⟩ := Option.bind_eq_some_iff.mp derived
  rw [(describeFile_eq_some_iff.mp described).2]

/-- A component file has a stem. -/
theorem Holds.exists_stem (holds : Holds files dir base below) :
    ∃ stem, (pathOf (base ++ below)).stem? = some stem := by
  obtain ⟨name, last, -⟩ := Option.bind_eq_some_iff.mp holds.component
  exact ⟨_, by rw [Path.stem?, last]; rfl⟩

include wellNamed

theorem Holds.named (holds : Holds files dir base below) : ∀ name ∈ base ++ below, IsEntryName name := by
  obtain ⟨leaf, found, -⟩ := holds.leaf
  exact wellNamed.isEntryName found

/-- The files that a walk comes to are those that the directory holds. -/
theorem mem_shown_iff : descriptor ∈ (visits files dir).filterMap Visited.describe ↔ Shows files dir descriptor := by
  rw [List.mem_filterMap]
  constructor
  · rintro ⟨visited, member, described⟩
    unfold visits at member
    split at member
    · next root node leads =>
      obtain ⟨base, rfl, there⟩ := exists_names_of_canonical leads
      obtain ⟨last, below, ⟨⟨leaf, found, isLeaf⟩, kept⟩, rfl⟩ :=
        (mem_walk_iff (wellNamed.below there) (wellNamed.isEntryName there)).mp member
      rw [Visited.describe] at described
      split at described
      · next extension =>
        refine ⟨base, below, ⟨⟨node, leads⟩, ⟨leaf, ?_, isLeaf⟩, eq_of_beq extension, ?_⟩, described⟩
        · rw [Node.get?_append, there]
          exact found
        · exact List.forall_mem_append.mpr ⟨by simpa using last, kept⟩
      · cases described
    · cases member
  · rintro ⟨base, below, holds, derived⟩
    have named := List.forall_mem_append.mp (holds.named wellNamed)
    obtain ⟨⟨node, leads⟩, ⟨leaf, found, isLeaf⟩, extension, kept⟩ := holds
    obtain ⟨names, same, there⟩ := exists_names_of_canonical leads
    obtain rfl := pathOf_inj named.1 (wellNamed.isEntryName there) (congrArg Path.parts same)
    rw [Node.get?_append, there] at found
    obtain ⟨last, keptBelow⟩ := List.forall_mem_append.mp kept
    refine ⟨⟨pathOf (base ++ below), below.dropLast⟩, ?_, ?_⟩
    · rw [visits, leads]
      refine (mem_walk_iff (wellNamed.below there) named.1).mpr ⟨by simpa using last, below, ?_, rfl⟩
      exact ⟨⟨leaf, found, isLeaf⟩, keptBelow⟩
    · rw [Visited.describe, extension, if_pos (by simp)]
      exact derived

/-- What a directory shows at the path of a file is what the names to it make of it. -/
theorem Holds.shows_iff (holds : Holds files dir base below) :
    Shows files dir descriptor ∧ descriptor.resolvedPath.parts = (pathOf (base ++ below)).parts ↔
      derived? base below = some descriptor := by
  constructor
  · rintro ⟨⟨base', below', holds', derived⟩, same⟩
    have named := holds.named wellNamed
    have named' := holds'.named wellNamed
    obtain ⟨node, leads⟩ := holds.root
    obtain ⟨node', leads'⟩ := holds'.root
    have roots : pathOf base' = pathOf base := congrArg Prod.fst (Except.ok.inj (leads'.symm.trans leads))
    obtain rfl := pathOf_inj (List.forall_mem_append.mp named').1 (List.forall_mem_append.mp named).1
      (congrArg Path.parts roots)
    rw [derived?_path derived] at same
    obtain rfl := List.append_cancel_left (pathOf_inj named' named same)
    exact derived
  · intro derived
    exact ⟨⟨base, below, holds, derived⟩, congrArg Path.parts (derived?_path derived)⟩

/-- A directory shows one component at a path. -/
theorem Shows.eq_of_path (shows : Shows files dir descriptor) (shows' : Shows files dir other)
    (same : descriptor.resolvedPath.parts = other.resolvedPath.parts) : descriptor = other := by
  obtain ⟨base, below, holds, derived⟩ := shows
  rw [derived?_path derived] at same
  have derived' := (holds.shows_iff wellNamed).mp ⟨shows', same.symm⟩
  exact Option.some.inj (derived.symm.trans derived')

end Shows

end ComponentCatalog.Component
