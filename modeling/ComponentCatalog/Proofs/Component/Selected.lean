import ComponentCatalog.Proofs.Component.Registry
import Mathlib.Data.List.Dedup

/-! # The registry holds what the last discovery selects

A discovery is selected from greedily: each component in turn is taken if it may be known and shares
neither its path nor its name with one taken before. However often the registry was fed, and
whatever it knew, it holds just the components that are so selected from the last discovery. Of each
it may hold an older spelling of the path, which has the same parts.
-/

namespace ComponentCatalog

namespace Component

/-- The name that a discovered component is shown under. -/
def Descriptor.shownName (descriptor : Descriptor) : String :=
  String.ofList (Text.trimmed descriptor.displayName.toList)

/-- The identity of a discovered component that is taken. -/
def Descriptor.identity (descriptor : Descriptor) : Identity :=
  ⟨descriptor.shownName, descriptor.resolvedPath, descriptor.isGlobalOnly⟩

namespace Filter

/-- A component may be known: it is not filtered out, its name is a display name, and its path starts
at the root. -/
structure Allows (filter : Filter) (identity : Identity) : Prop where
  included : ∀ exclude ∈ filter.exclude, exclude.holds identity.path = false
  global : filter.globalsOnly = true → identity.isGlobal = true
  named : identity.name ≠ ""
  display : isDisplayName identity.name = true
  absolute : identity.path.isAbsolute = true

instance (filter : Filter) (identity : Identity) : Decidable (filter.Allows identity) :=
  decidable_of_iff
    ((∀ exclude ∈ filter.exclude, exclude.holds identity.path = false) ∧
      (filter.globalsOnly = true → identity.isGlobal = true) ∧ identity.name ≠ "" ∧
      isDisplayName identity.name = true ∧ identity.path.isAbsolute = true)
    ⟨fun ⟨included, global, named, display, absolute⟩ =>
        ⟨included, global, named, display, absolute⟩,
      fun ⟨included, global, named, display, absolute⟩ =>
        ⟨included, global, named, display, absolute⟩⟩

/-- A discovered component is taken: it may be known, and is apart from those taken before. -/
structure Accepts (filter : Filter) (taken : List Identity) (descriptor : Descriptor) : Prop where
  allowed : filter.Allows descriptor.identity
  apart : ∀ other ∈ taken, other.name ≠ descriptor.identity.name ∧
    other.path.parts ≠ descriptor.identity.path.parts

instance (filter : Filter) (taken : List Identity) (descriptor : Descriptor) :
    Decidable (filter.Accepts taken descriptor) :=
  decidable_of_iff
    (filter.Allows descriptor.identity ∧
      ∀ other ∈ taken, other.name ≠ descriptor.identity.name ∧
        other.path.parts ≠ descriptor.identity.path.parts)
    ⟨fun ⟨allowed, apart⟩ => ⟨allowed, apart⟩, fun ⟨allowed, apart⟩ => ⟨allowed, apart⟩⟩

/-- The components of a discovery that are taken, one after the other. -/
def greedy (filter : Filter) (descriptors : List Descriptor) : List Identity :=
  descriptors.foldl
    (fun taken descriptor =>
      if filter.Accepts taken descriptor then taken ++ [descriptor.identity] else taken) []

/-- The registry that was fed with discoveries, from the first to the last. -/
def registry (filter : Filter) (discoveries : List (List Descriptor)) : Registry :=
  discoveries.foldl (fun registry descriptors => (registry.register descriptors).1) { filter }

end Filter

/-! ## One discovery -/

theorem Filter.rejects_eq_false_iff {filter : Filter} {descriptor : Descriptor} :
    filter.rejects descriptor = false ↔
      (filter.globalsOnly = true → descriptor.isGlobalOnly = true) ∧
        ∀ exclude ∈ filter.exclude, exclude.holds descriptor.resolvedPath = false := by
  simp [Filter.rejects]

/-- What is discovered has an identity if its name is a display name and its path starts at the
root. -/
theorem Descriptor.identify_eq_ok_iff {descriptor : Descriptor} {identity : Identity} :
    descriptor.identify = .ok identity ↔
      (descriptor.shownName ≠ "" ∧ isDisplayName descriptor.shownName = true ∧
        descriptor.resolvedPath.isAbsolute = true) ∧ identity = descriptor.identity := by
  have shown : String.ofList (Text.trimmed descriptor.displayName.toList) = descriptor.shownName := rfl
  have taken : (⟨descriptor.shownName, descriptor.resolvedPath, descriptor.isGlobalOnly⟩ : Identity) =
      descriptor.identity := rfl
  simp only [Descriptor.identify, shown, taken]
  by_cases empty : descriptor.shownName = ""
  · simp [empty]
  · by_cases display : isDisplayName descriptor.shownName = true
    · by_cases absolute : descriptor.resolvedPath.isAbsolute = true
      · simpa [empty, display, absolute] using eq_comm
      · simp [empty, display, absolute]
    · simp [empty, display]

namespace Filter

theorem allows_identity_iff {filter : Filter} {descriptor : Descriptor} :
    filter.Allows descriptor.identity ↔ filter.rejects descriptor = false ∧
      descriptor.identify = .ok descriptor.identity := by
  rw [rejects_eq_false_iff, Descriptor.identify_eq_ok_iff]
  constructor
  · rintro ⟨included, global, named, display, absolute⟩
    exact ⟨⟨global, included⟩, ⟨named, display, absolute⟩, rfl⟩
  · rintro ⟨⟨global, included⟩, ⟨named, display, absolute⟩, -⟩
    exact ⟨included, global, named, display, absolute⟩

/-- Just what is accepted is admitted. -/
theorem admit_eq_ok_iff {filter : Filter} {taken : List Identity} {descriptor : Descriptor}
    {identity : Identity} :
    filter.admit taken descriptor = some (.ok identity) ↔
      filter.Accepts taken descriptor ∧ identity = descriptor.identity := by
  constructor
  · intro admitted
    have apart := Registry.admit_apart admitted
    unfold Filter.admit at admitted
    split at admitted
    · cases admitted
    · next kept =>
      split at admitted
      · cases admitted
      · next found identified =>
        obtain ⟨-, rfl⟩ := Descriptor.identify_eq_ok_iff.mp identified
        obtain rfl : descriptor.identity = identity := by
          split at admitted
          · cases admitted
          · split at admitted
            · cases admitted
            · simpa using admitted
        exact ⟨⟨allows_identity_iff.mpr ⟨eq_false_of_ne_true kept, identified⟩, apart⟩, rfl⟩
  · rintro ⟨⟨allowed, apart⟩, rfl⟩
    obtain ⟨kept, identified⟩ := allows_identity_iff.mp allowed
    have newPath : taken.any (·.path.same descriptor.identity.path) = false :=
      List.any_eq_false.mpr fun other member same => (apart other member).2 (Path.same_iff.mp same)
    have newName : taken.find? (·.name == descriptor.identity.name) = none :=
      List.find?_eq_none.mpr fun other member same => (apart other member).1 (beq_iff_eq.mp same)
    simp only [kept, Filter.admit, identified, newPath, newName, Bool.false_eq_true, if_false]

/-- What is selected from a discovery is what the greedy pass takes. -/
theorem select_eq_greedy (filter : Filter) (descriptors : List Descriptor) :
    (filter.select descriptors).1 = filter.greedy descriptors := by
  unfold select greedy
  refine (List.foldl_hom Prod.fst ?_).symm
  rintro ⟨taken, dropped⟩ descriptor
  by_cases accepted : filter.Accepts taken descriptor
  · simp only [if_pos accepted, admit_eq_ok_iff.mpr ⟨accepted, rfl⟩]
  · rw [if_neg accepted]
    rcases admitted : filter.admit taken descriptor with - | (report | identity)
    · simp only [admitted]
    · simp only [admitted]
    · exact absurd (admit_eq_ok_iff.mp admitted).1 accepted

/-- What is taken may be known. -/
theorem allows_of_mem_greedy {filter : Filter} {descriptors : List Descriptor} {identity : Identity}
    (member : identity ∈ filter.greedy descriptors) : filter.Allows identity := by
  revert identity
  refine List.foldlRecOn (motive := fun taken => ∀ {identity}, identity ∈ taken →
    filter.Allows identity) descriptors _ (by simp) ?_
  intro taken before descriptor _ identity member
  split at member
  · next accepted =>
    rcases List.mem_append.mp member with earlier | last
    · exact before earlier
    · exact List.mem_singleton.mp last ▸ accepted.allowed
  · exact before member

end Filter

end Component

namespace Registry

open Component

/-! ## One discovery after the other -/

/-- Only one of the components that pass a test is found. -/
private theorem find?_eq_some_iff_of_unique {list : List Identity} {test : Identity → Bool}
    (unique : ∀ a ∈ list, ∀ b ∈ list, test a = true → test b = true → a = b) (identity : Identity) :
    list.find? test = some identity ↔ identity ∈ list ∧ test identity = true := by
  constructor
  · exact fun found => ⟨List.mem_of_find?_eq_some found, List.find?_some found⟩
  · rintro ⟨member, passes⟩
    obtain ⟨other, found⟩ := Option.isSome_iff_exists.mp
      (List.find?_isSome.mpr ⟨identity, member, passes⟩)
    rw [found, unique other (List.mem_of_find?_eq_some found) identity member
      (List.find?_some found) passes]

namespace Distinct

variable {list : List Identity} (distinct : Distinct list)
include distinct

theorem paths : (list.map (·.path.parts)).Nodup := List.pairwise_map.mpr (distinct.imp And.right)

theorem keys : (list.map Identity.key).Nodup :=
  List.pairwise_map.mpr (distinct.imp fun apart same => apart.1 (congrArg Prod.fst same))

theorem find?_name_iff (name : String) (identity : Identity) :
    list.find? (·.name == name) = some identity ↔ identity ∈ list ∧ identity.name = name := by
  rw [find?_eq_some_iff_of_unique, beq_iff_eq]
  intro a left b right here there
  exact distinct.eq_of_name left right ((beq_iff_eq.mp here).trans (beq_iff_eq.mp there).symm)

theorem find?_path_iff (path : Path) (identity : Identity) :
    list.find? (·.path.same path) = some identity ↔
      identity ∈ list ∧ identity.path.parts = path.parts := by
  rw [find?_eq_some_iff_of_unique, Path.same_iff]
  intro a left b right here there
  exact distinct.eq_of_path left right
    ((Path.same_iff.mp here).trans (Path.same_iff.mp there).symm)

end Distinct

/-- What comes out of merging are the selected components: the ones that stay are among them, and a
selected one whose path is kept is the one that stays. -/
theorem merge_perm {known current : List Identity} (before : Distinct known)
    (selected : Distinct current) :
    ((merge known current).map Identity.key).Perm (current.map Identity.key) := by
  refine (List.perm_ext_iff_of_nodup (merge_distinct before selected).keys selected.keys).mpr ?_
  intro key
  constructor
  · intro there
    obtain ⟨identity, member, rfl⟩ := List.mem_map.mp there
    rcases List.mem_append.mp member with kept | fresh
    · obtain ⟨other, selected, same⟩ := List.any_eq_true.mp (List.mem_filter.mp kept).2
      exact List.mem_map.mpr ⟨other, selected, (beq_iff_eq.mp same).symm⟩
    · exact List.mem_map_of_mem (List.mem_filter.mp fresh).1
  · intro there
    obtain ⟨identity, member, rfl⟩ := List.mem_map.mp there
    by_cases kept : (known.filter fun other => current.any other.same).any
        (·.path.same identity.path) = true
    · obtain ⟨other, stays, path⟩ := List.any_eq_true.mp kept
      obtain ⟨again, current, same⟩ := List.any_eq_true.mp (List.mem_filter.mp stays).2
      have one : again = identity := selected.eq_of_path current member
        ((Identity.same_iff.mp same).2.1.symm.trans (Path.same_iff.mp path))
      rw [← one, ← beq_iff_eq.mp same]
      exact List.mem_map_of_mem (List.mem_append_left _ stays)
    · refine List.mem_map_of_mem (List.mem_append_right _ (List.mem_filter.mpr ⟨member, ?_⟩))
      exact (Bool.not_eq_true' _).mpr (eq_false_of_ne_true kept)

theorem list_register (registry : Registry) (descriptors : List Descriptor) :
    (registry.register descriptors).1.list =
      merge registry.list (registry.filter.select descriptors).1 := rfl

/-- What is known may be known, and stays so when a discovery is merged. -/
theorem allows_of_mem_merge {filter : Filter} {known current : List Identity}
    (before : ∀ identity ∈ known, filter.Allows identity)
    (selected : ∀ identity ∈ current, filter.Allows identity) :
    ∀ identity ∈ merge known current, filter.Allows identity := by
  intro identity member
  rcases List.mem_append.mp member with kept | fresh
  · exact before identity (List.mem_filter.mp kept).1
  · exact selected identity (List.mem_filter.mp fresh).1

/-- What holds of a registry however often it was fed. -/
structure WellFormed (filter : Filter) (registry : Registry) : Prop where
  filter_eq : registry.filter = filter
  distinct : Distinct registry.list
  allowed : ∀ identity ∈ registry.list, filter.Allows identity

theorem WellFormed.register {filter : Filter} {registry : Registry}
    (before : registry.WellFormed filter) (descriptors : List Descriptor) :
    (registry.register descriptors).1.WellFormed filter where
  filter_eq := before.filter_eq
  distinct := register_distinct before.distinct descriptors
  allowed := by
    rw [list_register, before.filter_eq, Filter.select_eq_greedy]
    exact allows_of_mem_merge before.allowed fun _ => Filter.allows_of_mem_greedy

theorem wellFormed (filter : Filter) (discoveries : List (List Descriptor)) :
    (filter.registry discoveries).WellFormed filter := by
  refine List.foldlRecOn discoveries _ ⟨rfl, List.Pairwise.nil, fun _ none => nomatch none⟩ ?_
  exact fun registry before descriptors _ => before.register descriptors

theorem registry_concat (filter : Filter) (discoveries : List (List Descriptor))
    (last : List Descriptor) :
    filter.registry (discoveries ++ [last]) =
      ((filter.registry discoveries).register last).1 := by
  simp [Filter.registry, List.foldl_append]

/-- After any discoveries the registry holds just what the greedy pass takes from the last one. Names
and paths tell its components apart, each of them may be known, and each is found under its own name
and its own path alone. -/
theorem registry_holds_greedy (filter : Filter) (discoveries : List (List Descriptor)) :
    let registry := filter.registry discoveries
    (registry.list.map Identity.key).Perm
        ((filter.greedy (discoveries.getLast?.getD [])).map Identity.key) ∧
      (registry.list.map Identity.name).Nodup ∧
      (registry.list.map (·.path.parts)).Nodup ∧
      (∀ identity ∈ registry.list, filter.Allows identity) ∧
      (∀ name identity, registry.findByName? name = some identity ↔
        identity ∈ registry.list ∧ identity.name = name) ∧
      (∀ path identity, registry.get? path = some identity ↔
        identity ∈ registry.list ∧ identity.path.parts = path.parts) := by
  have formed := wellFormed filter discoveries
  refine ⟨?_, formed.distinct.names, formed.distinct.paths, formed.allowed,
    formed.distinct.find?_name_iff, formed.distinct.find?_path_iff⟩
  rcases discoveries.eq_nil_or_concat' with rfl | ⟨earlier, last, rfl⟩
  · exact .nil
  · have before := wellFormed filter earlier
    rw [List.getLast?_concat, Option.getD_some, registry_concat, ← Filter.select_eq_greedy]
    rw [list_register, before.filter_eq]
    exact merge_perm before.distinct (select_distinct filter last)

end Registry

end ComponentCatalog
