import ComponentCatalog.Component.Registry
import Mathlib.Data.List.Pairwise

/-! # No two known components share a name or a path

What a discovery selects has distinct names and paths, and so has what the registry keeps of the
components it knew, with the new ones behind them. Components that stay keep their order. Which
ones stay is told by their names, the parts of their paths and whether they are global.
-/

namespace ComponentCatalog

open Component

/-! ## Components that are the same -/

theorem Path.same_iff {a b : Path} : a.same b = true ↔ a.parts = b.parts := by
  simp [Path.same]

namespace Component.Identity

theorem same_iff {a b : Identity} :
    a.same b = true ↔ a.name = b.name ∧ a.path.parts = b.path.parts ∧ a.isGlobal = b.isGlobal := by
  simp [Identity.same, Identity.key]

theorem same_refl (identity : Identity) : identity.same identity = true :=
  beq_self_eq_true identity.key

/-- Components that are the same and whose paths are written alike are one. -/
theorem eq_of_same {a b : Identity} (same : a.same b = true) (path : a.path = b.path) : a = b := by
  obtain ⟨name, -, isGlobal⟩ := same_iff.mp same
  obtain ⟨aName, aPath, aGlobal⟩ := a
  cases name
  cases path
  cases isGlobal
  rfl

end Component.Identity

/-! ## Components that are apart -/

/-- Two components have different names, and different paths. -/
def Component.Identity.Apart (a b : Identity) : Prop :=
  a.name ≠ b.name ∧ a.path.parts ≠ b.path.parts

instance : Std.Symm Component.Identity.Apart := ⟨fun _ _ apart => ⟨apart.1.symm, apart.2.symm⟩⟩

namespace Registry

/-- Every two components of a list are apart. -/
def Distinct (list : List Identity) : Prop := list.Pairwise Identity.Apart

theorem Distinct.eq_of_name {list : List Identity} (distinct : Distinct list) {a b : Identity}
    (left : a ∈ list) (right : b ∈ list) (same : a.name = b.name) : a = b := by
  by_contra differ
  exact (distinct.forall left right differ).1 same

theorem Distinct.eq_of_path {list : List Identity} (distinct : Distinct list) {a b : Identity}
    (left : a ∈ list) (right : b ∈ list) (same : a.path.parts = b.path.parts) : a = b := by
  by_contra differ
  exact (distinct.forall left right differ).2 same

theorem Distinct.names {list : List Identity} (distinct : Distinct list) :
    (list.map Identity.name).Nodup :=
  List.pairwise_map.mpr (distinct.imp And.left)

/-- A component that is admitted is apart from those taken before. -/
theorem admit_apart {filter : Filter} {taken : List Identity} {descriptor : Descriptor}
    {identity : Identity} (admitted : filter.admit taken descriptor = some (.ok identity)) :
    ∀ other ∈ taken, other.Apart identity := by
  intro other member
  unfold Filter.admit at admitted
  split at admitted
  · cases admitted
  · split at admitted
    · cases admitted
    · next found _ =>
      split at admitted
      · cases admitted
      · next newPath =>
        split at admitted
        · cases admitted
        · next newName =>
          obtain rfl : found = identity := by simpa using admitted
          refine ⟨fun same => ?_, fun same => newPath ?_⟩
          · simpa [same] using List.find?_eq_none.mp newName other member
          · exact List.any_eq_true.mpr ⟨other, member, Path.same_iff.mpr same⟩

private theorem select_step {filter : Filter} (descriptor : Descriptor)
    (so : List Identity × List Dropped) (distinct : Distinct so.1) :
    Distinct (match filter.admit so.1 descriptor with
      | some (.ok identity) => (so.1 ++ [identity], so.2)
      | some (.error report) => (so.1, so.2 ++ [report])
      | none => (so.1, so.2)).1 := by
  split
  · next identity admitted =>
    refine List.pairwise_append.mpr ⟨distinct, List.pairwise_singleton .., ?_⟩
    intro other member last here
    rw [List.mem_singleton] at here
    exact here ▸ admit_apart admitted other member
  · exact distinct
  · exact distinct

/-- What is selected is distinct. -/
theorem select_distinct (filter : Filter) (descriptors : List Descriptor) :
    Distinct (filter.select descriptors).1 := by
  unfold Filter.select
  generalize start : (([], []) : List Identity × List Dropped) = so
  have distinct : Distinct so.1 := start ▸ List.Pairwise.nil
  clear start
  induction descriptors generalizing so with
  | nil => exact distinct
  | cons descriptor rest ih => exact ih _ (select_step descriptor so distinct)

/-- The components that stay keep their order among all known ones. -/
theorem sublist_merge {known current shown : List Identity} (before : shown.Sublist known)
    (stay : ∀ identity ∈ shown, current.any identity.same) : shown.Sublist (merge known current) := by
  have kept : shown.Sublist (known.filter fun identity => current.any identity.same) := by
    rw [← List.filter_eq_self.mpr stay]
    exact before.filter _
  exact kept.trans (List.sublist_append_left _ _)

/-- A known component stays, or is taken away. -/
theorem mem_register_or_removed {registry : Registry} {identity : Identity}
    (known : identity ∈ registry.list) (descriptors : List Descriptor) :
    identity ∈ (registry.register descriptors).1.list ∨
      identity ∈ (registry.register descriptors).2.1.removed := by
  by_cases there : (registry.filter.select descriptors).1.any identity.same = true
  · exact .inl (List.mem_append_left _ (List.mem_filter.mpr ⟨known, there⟩))
  · have gone := eq_false_of_ne_true there
    exact .inr (List.mem_filter.mpr ⟨known, (Bool.not_eq_true' _).mpr gone⟩)

/-- New components come behind those that stay, and the known ones stay distinct. -/
theorem merge_distinct {known current : List Identity} (before : Distinct known)
    (selected : Distinct current) : Distinct (merge known current) := by
  refine List.pairwise_append.mpr ⟨before.filter _, selected.filter _, ?_⟩
  intro kept keptMember new newMember
  obtain ⟨_, stays⟩ := List.mem_filter.mp keptMember
  obtain ⟨fromCurrent, fresh⟩ := List.mem_filter.mp newMember
  have paths : kept.path.parts ≠ new.path.parts := by
    intro same
    have covered : (known.filter fun identity => current.any identity.same).any
        (·.path.same new.path) = true :=
      List.any_eq_true.mpr ⟨kept, keptMember, Path.same_iff.mpr same⟩
    rw [covered] at fresh
    cases fresh
  refine ⟨fun same => ?_, paths⟩
  obtain ⟨again, member, stands⟩ := List.any_eq_true.mp stays
  obtain ⟨name, parts, _⟩ := Identity.same_iff.mp stands
  have one := selected.eq_of_name member fromCurrent (name.symm.trans same)
  exact paths (parts.trans (congrArg (·.path.parts) one))

theorem register_distinct {registry : Registry} (before : Distinct registry.list)
    (descriptors : List Descriptor) : Distinct (registry.register descriptors).1.list :=
  merge_distinct before (select_distinct registry.filter descriptors)

end Registry

end ComponentCatalog
