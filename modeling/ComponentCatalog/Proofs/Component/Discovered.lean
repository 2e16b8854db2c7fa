import ComponentCatalog.Proofs.Component.Registry
import ComponentCatalog.Proofs.Component.Walked
import Mathlib.Data.List.Nodup

/-! # What is discovered

What walks come to is sorted by its paths, and of what has one path the first stays. Sorting leaves those of
one path in the order in which they came, so that is what the first directory shows there that shows anything.
Hence the files that are discovered depend neither on the order of the directories nor on that of their
entries; their names depend on which directory comes first, unless the directories agree.
-/

namespace ComponentCatalog.Component

open Files

/-! ## Putting components in order -/

/-- The components of files that were come to, in order, each path once. -/
def arranged (found : List Visited) : List Descriptor :=
  discover.single ((found.filterMap Visited.describe).mergeSort discover.inOrder)

theorem discover_eq (files : Files) (dirs : List Path) :
    (discover files dirs).1 = arranged (dirs.flatMap (visits files)) := by
  -- Of what is gone through with, only what was found counts here, not what was skipped.
  change arranged (Prod.fst (dirs.foldr _ _)) = _
  refine congrArg arranged ?_
  induction dirs with
  | nil => rfl
  | cons dir dirs ih =>
    rw [List.foldr_cons, List.flatMap_cons, visits, ← ih]
    cases files.canonical dir <;> rfl

section Order

variable {found : List Descriptor} {first : Descriptor}

theorem inOrder_iff {a b : Descriptor} :
    discover.inOrder a b = true ↔ a.resolvedPath.compare b.resolvedPath ≠ .gt := by
  simp [discover.inOrder]

theorem inOrder_trans (a b c : Descriptor) (ab : discover.inOrder a b = true) (bc : discover.inOrder b c = true) :
    discover.inOrder a c = true := by
  rw [inOrder_iff] at *
  exact Path.compare_ne_gt_trans ab bc

theorem inOrder_total (a b : Descriptor) : (discover.inOrder a b || discover.inOrder b a) = true := by
  rw [Bool.or_eq_true, inOrder_iff, inOrder_iff]
  exact Path.compare_total ..

/-- Of components that follow one another with one path the first one stays. -/
theorem single_cons (first : Descriptor) (found : List Descriptor) :
    discover.single (first :: found) = match discover.single found with
      | next :: rest =>
        if first.resolvedPath.same next.resolvedPath then first :: rest else first :: next :: rest
      | [] => [first] := by
  rw [discover.single, List.foldr_cons, ← discover.single]
  cases discover.single found <;> rfl

theorem mem_of_mem_single {descriptor : Descriptor} (member : descriptor ∈ discover.single found) :
    descriptor ∈ found := by
  induction found with
  | nil => exact member
  | cons first found ih =>
    rw [single_cons] at member
    cases kept : discover.single found with
    | nil =>
      rw [kept] at member
      exact List.mem_singleton.mp member ▸ List.mem_cons_self ..
    | cons next rest => grind

/-- Components whose paths are in strict order. -/
def Ordered (descriptors : List Descriptor) : Prop :=
  descriptors.Pairwise fun a b => a.resolvedPath.compare b.resolvedPath = .lt

theorem Ordered.nodup {descriptors : List Descriptor} (ordered : Ordered descriptors) :
    (descriptors.map (·.resolvedPath.parts)).Nodup :=
  List.pairwise_map.mpr (ordered.imp fun less => (Path.compare_eq_lt_iff.mp less).2)

/-- Of sorted components those remain whose paths are in strict order. -/
theorem ordered_single (sorted : found.Pairwise (discover.inOrder · ·)) : Ordered (discover.single found) := by
  induction found with
  | nil => exact List.Pairwise.nil
  | cons first found ih =>
    obtain ⟨before, sorted⟩ := List.pairwise_cons.mp sorted
    specialize ih sorted
    rw [single_cons]
    cases kept : discover.single found with
    | nil => exact List.pairwise_singleton ..
    | cons next rest =>
      rw [kept] at ih
      obtain ⟨behind, strict⟩ := List.pairwise_cons.mp ih
      have le : first.resolvedPath.compare next.resolvedPath ≠ .gt :=
        inOrder_iff.mp (before next (mem_of_mem_single (kept ▸ List.mem_cons_self ..)))
      have later : ∀ other ∈ rest, first.resolvedPath.compare other.resolvedPath = .lt :=
        fun other member => Path.compare_eq_lt_of_ne_gt le (behind other member)
      dsimp only
      split
      · exact List.pairwise_cons.mpr ⟨later, strict⟩
      · next apart =>
        refine List.pairwise_cons.mpr ⟨List.forall_mem_cons.mpr ⟨?_, later⟩, ih⟩
        exact Path.compare_eq_lt_iff.mpr ⟨le, fun same => apart (Path.same_iff.mpr same)⟩

theorem of_find?_same {path : Path} (first? : found.find? (·.resolvedPath.same path) = some first) :
    first ∈ found ∧ first.resolvedPath.parts = path.parts := by
  have same := List.find?_some first?
  exact ⟨List.mem_of_find?_eq_some first?, Path.same_iff.mp same⟩

/-- Among components of which one has a path, there is a first one that has it. -/
theorem exists_find?_same {path : Path} {descriptor : Descriptor} (member : descriptor ∈ found)
    (same : descriptor.resolvedPath.parts = path.parts) :
    ∃ first, found.find? (·.resolvedPath.same path) = some first :=
  Option.isSome_iff_exists.mp (List.find?_isSome.mpr ⟨descriptor, member, Path.same_iff.mpr same⟩)

/-- The first component of a path stays. -/
theorem find?_single (path : Path) :
    (discover.single found).find? (·.resolvedPath.same path) = found.find? (·.resolvedPath.same path) := by
  induction found with
  | nil => rfl
  | cons first found ih =>
    rw [single_cons, List.find?_cons, ← ih]
    cases discover.single found with
    | nil => simp [List.find?_cons]
    | cons next rest =>
      dsimp only
      split
      · next same =>
        have alike : next.resolvedPath.same path = first.resolvedPath.same path := by
          rw [Path.same, Path.same, Path.same_iff.mp same]
        rw [List.find?_cons, List.find?_cons, alike]
        cases first.resolvedPath.same path <;> rfl
      · rw [List.find?_cons]

theorem find?_arranged (visited : List Visited) (path : Path) :
    (arranged visited).find? (·.resolvedPath.same path) =
      (visited.filterMap Visited.describe).find? (·.resolvedPath.same path) := by
  have alike (a b : Descriptor) (left : a.resolvedPath.same path = true)
      (right : b.resolvedPath.same path = true) : discover.inOrder a b = true := by
    rw [inOrder_iff]
    have same := (Path.same_iff.mp left).trans (Path.same_iff.mp right).symm
    rw [Path.compare_eq_eq_iff.mpr same]
    nofun
  rw [arranged, find?_single, ← List.head?_filter, ← List.head?_filter,
    filter_mergeSort inOrder_trans inOrder_total alike]

theorem ordered_arranged (visited : List Visited) : Ordered (arranged visited) :=
  ordered_single (List.pairwise_mergeSort inOrder_trans inOrder_total _)

/-- A component is among those in order if and only if it is the first one of its path. -/
theorem mem_arranged_iff {visited : List Visited} {descriptor : Descriptor} : descriptor ∈ arranged visited ↔
    (visited.filterMap Visited.describe).find? (·.resolvedPath.same descriptor.resolvedPath) = some descriptor := by
  rw [← find?_arranged]
  constructor
  · intro member
    obtain ⟨first, found⟩ := exists_find?_same member rfl
    obtain ⟨there, same⟩ := of_find?_same found
    rw [found, List.inj_on_of_nodup_map (ordered_arranged visited).nodup there member same]
  · exact List.mem_of_find?_eq_some

/-- At the path of each component one is among those in order. -/
theorem exists_mem_arranged {visited : List Visited} {descriptor : Descriptor}
    (member : descriptor ∈ visited.filterMap Visited.describe) :
    ∃ first ∈ arranged visited, first.resolvedPath.parts = descriptor.resolvedPath.parts := by
  obtain ⟨first, found⟩ := exists_find?_same member rfl
  rw [← find?_arranged] at found
  exact ⟨first, of_find?_same found⟩

/-- Only the first components of each path count. -/
theorem arranged_congr {visited others : List Visited}
    (same : ∀ path, (visited.filterMap Visited.describe).find? (·.resolvedPath.same path) =
      (others.filterMap Visited.describe).find? (·.resolvedPath.same path)) :
    arranged visited = arranged others := by
  refine Path.eq_of_ordered _ (ordered_arranged _) (ordered_arranged _) fun descriptor => ?_
  rw [mem_arranged_iff, mem_arranged_iff, same]

end Order

/-! ## What several directories show -/

/-- Walks through directories come to what is there, each in an order of its own. -/
def Walks (files : Files) (dirs : List Path) (walks : List (List Visited)) : Prop :=
  List.Forall₂ (fun dir walk => walk.Perm (visits files dir)) dirs walks

theorem walks_visits (files : Files) (dirs : List Path) : Walks files dirs (dirs.map (visits files)) :=
  List.forall₂_map_right_iff.mpr (List.forall₂_same.mpr fun _ _ => List.Perm.refl _)

/-- No two directories make different components of one file. -/
def Agree (files : Files) (dirs : List Path) : Prop :=
  ∀ dir ∈ dirs, ∀ dir' ∈ dirs, ∀ descriptor descriptor', Shows files dir descriptor →
    Shows files dir' descriptor' → descriptor.resolvedPath = descriptor'.resolvedPath → descriptor = descriptor'

section Discover

theorem ordered_discover (files : Files) (dirs : List Path) : Ordered (discover files dirs).1 := by
  rw [discover_eq]
  exact ordered_arranged _

variable {files : Files} (wellNamed : files.root.WellNamed) {dir : Path} {dirs : List Path}
  {descriptor other : Descriptor}

include wellNamed

theorem Shows.named (shows : Shows files dir descriptor) :
    ∃ names, (∀ name ∈ names, IsEntryName name) ∧ descriptor.resolvedPath = pathOf names := by
  obtain ⟨base, below, holds, derived⟩ := shows
  exact ⟨base ++ below, holds.named wellNamed, derived?_path derived⟩

/-- What is shown at paths of the same parts is shown at one path. -/
theorem Shows.path_eq {dir' : Path} (shows : Shows files dir descriptor) (shows' : Shows files dir' other)
    (same : descriptor.resolvedPath.parts = other.resolvedPath.parts) :
    descriptor.resolvedPath = other.resolvedPath := by
  obtain ⟨names, named, path⟩ := shows.named wellNamed
  obtain ⟨names', named', path'⟩ := shows'.named wellNamed
  rw [path, path'] at same ⊢
  rw [pathOf_inj named named' same]

theorem mem_visits_iff : descriptor ∈ (dirs.flatMap (visits files)).filterMap Visited.describe ↔
    ∃ dir ∈ dirs, Shows files dir descriptor := by
  rw [List.filterMap_flatMap, List.mem_flatMap]
  exact exists_congr fun dir => and_congr_right fun _ => mem_shown_iff wellNamed

/-- What is discovered, one of the directories shows. -/
theorem shows_of_mem_discover (member : descriptor ∈ (discover files dirs).1) :
    ∃ dir ∈ dirs, Shows files dir descriptor := by
  rw [discover_eq, mem_arranged_iff] at member
  exact (mem_visits_iff wellNamed).mp (List.mem_of_find?_eq_some member)

/-- Where one of the directories shows a component, one is discovered. -/
theorem exists_mem_discover (listed : dir ∈ dirs) (shows : Shows files dir descriptor) :
    ∃ found ∈ (discover files dirs).1, found.resolvedPath = descriptor.resolvedPath := by
  obtain ⟨found, member, same⟩ := exists_mem_arranged ((mem_visits_iff wellNamed).mpr ⟨dir, listed, shows⟩)
  rw [← discover_eq] at member
  obtain ⟨dir', -, shows'⟩ := shows_of_mem_discover wellNamed member
  exact ⟨found, member, shows'.path_eq wellNamed shows same⟩

/-- The first component of a path in a walk is the one that the directory shows there. -/
theorem find?_walk_eq_some_iff {walk : List Visited} (perm : walk.Perm (visits files dir)) (path : Path) :
    (walk.filterMap Visited.describe).find? (·.resolvedPath.same path) = some descriptor ↔
      Shows files dir descriptor ∧ descriptor.resolvedPath.parts = path.parts := by
  have shown (one : Descriptor) : one ∈ walk.filterMap Visited.describe ↔ Shows files dir one :=
    (perm.filterMap _).mem_iff.trans (mem_shown_iff wellNamed)
  constructor
  · intro found
    obtain ⟨member, same⟩ := of_find?_same found
    exact ⟨(shown _).mp member, same⟩
  · rintro ⟨shows, same⟩
    obtain ⟨first, found⟩ := exists_find?_same ((shown _).mpr shows) same
    obtain ⟨member, same'⟩ := of_find?_same found
    rw [found, shows.eq_of_path wellNamed ((shown _).mp member) (same.trans same'.symm)]

/-- The first component of a path that walks through directories come to is the one that the first of these
directories shows there which shows any. -/
theorem find?_walks_eq {walks : List (List Visited)} (perms : Walks files dirs walks) (path : Path) :
    (walks.flatten.filterMap Visited.describe).find? (·.resolvedPath.same path) =
      dirs.findSome? fun dir =>
        ((visits files dir).filterMap Visited.describe).find? (·.resolvedPath.same path) := by
  induction perms with
  | nil => rfl
  | cons perm _ ih =>
    rw [List.flatten_cons, List.filterMap_append, List.find?_append, ih, List.findSome?_cons]
    have same := Option.ext fun descriptor => (find?_walk_eq_some_iff wellNamed perm path).trans
      (find?_walk_eq_some_iff wellNamed (List.Perm.refl _) path).symm
    rw [same]
    cases ((visits files _).filterMap Visited.describe).find? _ <;> rfl

/-- A component is discovered if it is shown by the first of the directories that show any at its path. -/
theorem mem_discover_iff : descriptor ∈ (discover files dirs).1 ↔
    ∃ before dir behind, dirs = before ++ dir :: behind ∧ Shows files dir descriptor ∧
      ∀ earlier ∈ before, ∀ other, Shows files earlier other →
        other.resolvedPath ≠ descriptor.resolvedPath := by
  rw [discover_eq, mem_arranged_iff, List.flatMap_def, find?_walks_eq wellNamed (walks_visits files dirs),
    List.findSome?_eq_some_iff]
  simp only [Option.eq_none_iff_forall_ne_some, ne_eq, find?_walk_eq_some_iff wellNamed (List.Perm.refl _), and_true,
    not_and]
  refine exists_congr fun before => exists_congr fun dir => exists_congr fun behind =>
    and_congr_right fun _ => and_congr_right fun shows => ?_
  refine forall₂_congr fun earlier _ => forall₂_congr fun other shows' => not_congr ?_
  exact ⟨shows'.path_eq wellNamed shows, congrArg Path.parts⟩

/-- Of one directory all is discovered that it shows. -/
theorem mem_discover_singleton_iff : descriptor ∈ (discover files [dir]).1 ↔ Shows files dir descriptor := by
  constructor
  · intro member
    obtain ⟨dir, listed, shows⟩ := shows_of_mem_discover wellNamed member
    rwa [List.mem_singleton.mp listed] at shows
  · exact fun shows => (mem_discover_iff wellNamed).mpr ⟨[], dir, [], rfl, shows, by simp⟩

/-- The components discovered below directories are in the strict order of the names on the way to their files,
compared one after the other. There is exactly one at the path of each component file that one of the directories
holds and whose names below that directory make a name, and it is what one of the directories shows. In which
order walks come to the files makes no difference. -/
theorem discover_exactly (dirs : List Path) :
    (∃ listed : List (List String),
      (discover files dirs).1.map (·.resolvedPath) = listed.map pathOf ∧ listed.Pairwise (· < ·)) ∧
    (∀ path, (∃! descriptor, descriptor ∈ (discover files dirs).1 ∧ descriptor.resolvedPath = path) ↔
      ∃ dir ∈ dirs, ∃ base below, Holds files dir base below ∧ path = pathOf (base ++ below) ∧
        ∃ stem, path.stem? = some stem ∧ nameOf below.dropLast stem ≠ "") ∧
    (∀ descriptor ∈ (discover files dirs).1, ∃ dir ∈ dirs, Shows files dir descriptor) ∧
    ∀ walks, Walks files dirs walks → arranged walks.flatten = (discover files dirs).1 := by
  have ordered := ordered_discover files dirs
  refine ⟨?_, fun path => ⟨?_, ?_⟩, fun descriptor => shows_of_mem_discover wellNamed, fun walks perms => ?_⟩
  · have named (descriptor : Descriptor) (member : descriptor ∈ (discover files dirs).1) :
        ∃ names, (∀ name ∈ names, IsEntryName name) ∧ descriptor.resolvedPath = pathOf names := by
      obtain ⟨dir, -, shows⟩ := shows_of_mem_discover wellNamed member
      exact shows.named wellNamed
    choose! names named path using named
    refine ⟨(discover files dirs).1.map names, ?_, List.pairwise_map.mpr ?_⟩
    · rw [List.map_map]
      exact List.map_congr_left path
    · refine ordered.imp_of_mem fun {a b} left right less => ?_
      rw [path a left, path b right] at less
      exact (compare_pathOf (named a left) (named b right)).mp less
  · rintro ⟨descriptor, ⟨member, rfl⟩, -⟩
    obtain ⟨dir, listed, base, below, holds, derived⟩ := shows_of_mem_discover wellNamed member
    obtain ⟨stem, found, described⟩ := Option.bind_eq_some_iff.mp derived
    have path := derived?_path derived
    exact ⟨dir, listed, base, below, holds, path, stem, path ▸ found, (describeFile_eq_some_iff.mp described).1⟩
  · rintro ⟨dir, listed, base, below, holds, rfl, stem, found, nonempty⟩
    have derived : derived? base below = some _ :=
      Option.bind_eq_some_iff.mpr ⟨stem, found, describeFile_eq_some_iff.mpr ⟨nonempty, rfl⟩⟩
    obtain ⟨descriptor, member, same⟩ := exists_mem_discover wellNamed listed ⟨base, below, holds, derived⟩
    refine ⟨descriptor, ⟨member, same⟩, ?_⟩
    rintro other ⟨member', same'⟩
    exact List.inj_on_of_nodup_map ordered.nodup member' member (congrArg Path.parts (same'.trans same.symm))
  · rw [discover_eq]
    refine arranged_congr fun path => ?_
    rw [find?_walks_eq wellNamed perms, List.flatMap_def, find?_walks_eq wellNamed (walks_visits files dirs)]

end Discover

/-- A file in a directory in a directory. -/
def nestedCard : Files := ⟨.dir [("a", .dir [("base", .dir [("Card.vue", .file ⟨#[]⟩)])])], []⟩

private theorem wellNamed_nestedCard : nestedCard.root.WellNamed := by
  have file : (Node.file ⟨#[]⟩).WellNamed := Node.wellNamed_of_not_isDir rfl
  simp +decide [nestedCard, Node.wellNamed_dir_iff, file]

private theorem canonical_nestedCard :
    nestedCard.canonical ⟨"/a"⟩ = .ok (pathOf ["a"], .dir [("base", .dir [("Card.vue", .file ⟨#[]⟩)])]) ∧
    nestedCard.canonical ⟨"/a/base"⟩ = .ok (pathOf ["a", "base"], .dir [("Card.vue", .file ⟨#[]⟩)]) := by
  have outer : steps "/a" = [.root, .name "a"] := by decide +kernel
  have inner : steps "/a/base" = [.root, .name "a", .name "base"] := by decide +kernel
  rw [canonical, canonical, place, place, outer, inner]
  simp +decide [follow, Node.get?, Node.entries, Table.get?, nestedCard, bind, Except.bind]
  exact ⟨rfl, rfl⟩

/-- The file is held by two directories, and there is one component at its path. -/
theorem discover_exactly_nested : nestedCard.root.WellNamed ∧
    ∃! descriptor, descriptor ∈ (discover nestedCard [⟨"/a"⟩, ⟨"/a/base"⟩]).1 ∧
      descriptor.resolvedPath = ⟨"/a/base/Card.vue"⟩ := by
  have holds : Holds nestedCard ⟨"/a"⟩ ["a"] ["base", "Card.vue"] :=
    ⟨⟨_, canonical_nestedCard.1⟩, ⟨.file ⟨#[]⟩, rfl, trivial⟩, by decide +kernel, by decide⟩
  refine ⟨wellNamed_nestedCard, ((discover_exactly wellNamed_nestedCard [⟨"/a"⟩, ⟨"/a/base"⟩]).2.1 _).mpr ?_⟩
  exact ⟨_, List.mem_cons_self .., ["a"], ["base", "Card.vue"], holds, rfl, "Card", by decide +kernel,
    by decide +kernel⟩

/-! ## The order of directories -/

section Perm

variable {files : Files} (wellNamed : files.root.WellNamed) {dirs : List Path} {descriptor : Descriptor}

include wellNamed

theorem mem_paths_iff {path : Path} : path ∈ (discover files dirs).1.map (·.resolvedPath) ↔
    ∃ dir ∈ dirs, ∃ descriptor, Shows files dir descriptor ∧ descriptor.resolvedPath = path := by
  rw [List.mem_map]
  constructor
  · rintro ⟨descriptor, member, path⟩
    obtain ⟨dir, listed, shows⟩ := shows_of_mem_discover wellNamed member
    exact ⟨dir, listed, descriptor, shows, path⟩
  · rintro ⟨dir, listed, descriptor, shows, rfl⟩
    exact exists_mem_discover wellNamed listed shows

/-- What directories that agree show is discovered, all of it. -/
theorem Agree.mem_discover_iff (agree : Agree files dirs) :
    descriptor ∈ (discover files dirs).1 ↔ ∃ dir ∈ dirs, Shows files dir descriptor := by
  refine ⟨shows_of_mem_discover wellNamed, ?_⟩
  rintro ⟨dir, listed, shows⟩
  obtain ⟨found, member, path⟩ := exists_mem_discover wellNamed listed shows
  obtain ⟨dir', listed', shows'⟩ := shows_of_mem_discover wellNamed member
  rwa [← agree dir' listed' dir listed found descriptor shows' shows path]

/-- In whatever order directories are given, the components discovered below them have the same paths, and at each
path stays what the first of the directories makes of the file that shows it at all. So the order makes no
difference if and only if no two of the directories make different components of one file. -/
theorem discover_perm_iff (dirs : List Path) :
    (∀ dirs', dirs'.Perm dirs →
      (discover files dirs').1.map (·.resolvedPath) = (discover files dirs).1.map (·.resolvedPath) ∧
      ∀ descriptor, descriptor ∈ (discover files dirs').1 ↔
        ∃ before dir behind, dirs' = before ++ dir :: behind ∧ Shows files dir descriptor ∧
          ∀ earlier ∈ before, ∀ other, Shows files earlier other →
            other.resolvedPath ≠ descriptor.resolvedPath) ∧
    ((∀ dirs', dirs'.Perm dirs → (discover files dirs').1 = (discover files dirs).1) ↔ Agree files dirs) := by
  refine ⟨fun dirs' perm => ⟨?_, fun descriptor => mem_discover_iff wellNamed⟩, ?_, ?_⟩
  · refine Path.eq_of_ordered id (List.pairwise_map.mpr (ordered_discover files dirs'))
      (List.pairwise_map.mpr (ordered_discover files dirs)) fun path => ?_
    rw [mem_paths_iff wellNamed, mem_paths_iff wellNamed]
    exact exists_congr fun dir => and_congr_left fun _ => perm.mem_iff
  · intro same dir listed dir' listed' descriptor descriptor' shows shows' path
    -- Each of the two is discovered if the directory that shows it comes first.
    have first (dir : Path) (listed : dir ∈ dirs) (descriptor : Descriptor) (shows : Shows files dir descriptor) :
        descriptor ∈ (discover files dirs).1 := by
      rw [← same (dir :: dirs.erase dir) (List.perm_cons_erase listed).symm, mem_discover_iff wellNamed]
      exact ⟨[], dir, _, rfl, shows, by simp⟩
    exact List.inj_on_of_nodup_map (ordered_discover files dirs).nodup (first dir listed descriptor shows)
      (first dir' listed' descriptor' shows') (congrArg Path.parts path)
  · intro agree dirs' perm
    have agree' : Agree files dirs' := fun dir listed dir' listed' =>
      agree dir (perm.mem_iff.mp listed) dir' (perm.mem_iff.mp listed')
    refine Path.eq_of_ordered _ (ordered_discover files dirs') (ordered_discover files dirs) fun descriptor => ?_
    rw [agree'.mem_discover_iff wellNamed, agree.mem_discover_iff wellNamed]
    exact exists_congr fun dir => and_congr_left fun _ => perm.mem_iff

end Perm

private theorem shown_nestedCard :
    (visits nestedCard ⟨"/a"⟩).filterMap Visited.describe = [⟨"BaseCard", ⟨"/a/base/Card.vue"⟩, false⟩] ∧
    (visits nestedCard ⟨"/a/base"⟩).filterMap Visited.describe = [⟨"Card", ⟨"/a/base/Card.vue"⟩, false⟩] := by
  simp only [visits, canonical_nestedCard.1, canonical_nestedCard.2, walk, walkEntries]
  decide +kernel

/-- Two directories that make different components of the file do not agree. -/
theorem discover_perm_iff_nested : nestedCard.root.WellNamed ∧
    (discover nestedCard [⟨"/a/base"⟩, ⟨"/a"⟩]).1.map (·.resolvedPath) =
      (discover nestedCard [⟨"/a"⟩, ⟨"/a/base"⟩]).1.map (·.resolvedPath) ∧
    ∃ dirs', dirs'.Perm [⟨"/a"⟩, ⟨"/a/base"⟩] ∧
      (discover nestedCard dirs').1 ≠ (discover nestedCard [⟨"/a"⟩, ⟨"/a/base"⟩]).1 := by
  obtain ⟨paths, agree⟩ := discover_perm_iff wellNamed_nestedCard [⟨"/a"⟩, ⟨"/a/base"⟩]
  refine ⟨wellNamed_nestedCard, (paths _ (List.Perm.swap ..)).1, ?_⟩
  by_contra same
  push Not at same
  have outer : Shows nestedCard ⟨"/a"⟩ ⟨"BaseCard", ⟨"/a/base/Card.vue"⟩, false⟩ :=
    (mem_shown_iff wellNamed_nestedCard).mp (by simp [shown_nestedCard.1])
  have inner : Shows nestedCard ⟨"/a/base"⟩ ⟨"Card", ⟨"/a/base/Card.vue"⟩, false⟩ :=
    (mem_shown_iff wellNamed_nestedCard).mp (by simp [shown_nestedCard.2])
  have alike := agree.mp same _ (by simp) _ (by simp) _ _ outer inner rfl
  exact absurd alike (by decide)

/-- The file has the name that it has below the first directory. -/
theorem discover_nested_swapped :
    (discover nestedCard [⟨"/a"⟩, ⟨"/a/base"⟩]).1 = [⟨"BaseCard", ⟨"/a/base/Card.vue"⟩, false⟩] ∧
    (discover nestedCard [⟨"/a/base"⟩, ⟨"/a"⟩]).1 = [⟨"Card", ⟨"/a/base/Card.vue"⟩, false⟩] := by
  simp +decide [discover_eq, arranged, shown_nestedCard.1, shown_nestedCard.2, List.mergeSort,
    List.MergeSort.Internal.splitInTwo, discover.single]

end ComponentCatalog.Component
