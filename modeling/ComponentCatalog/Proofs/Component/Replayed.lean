import ComponentCatalog.Proofs.Component.Selected
import Mathlib.Data.List.Induction

/-! # A diff says what registering changes

Registering keeps known components by their identity and appends new ones by their path, while the diff
compares identities alone. Selected components have different paths, so the two agree: the diff, replayed
on the components known before, makes the ones known after. Once registered, the same components in another
order change nothing.
-/

namespace ComponentCatalog

namespace Component

/-- What a change makes of known components: those that are gone are taken out, and behind the others come
the new ones. -/
def Diff.replay (diff : Diff) (known : List Identity) : List Identity :=
  (known.filter fun identity => !diff.removed.any identity.same) ++ diff.added

/-- One of a list is the same as a component if its key is there. -/
theorem any_same_iff {list : List Identity} {identity : Identity} :
    list.any identity.same = true ↔ identity.key ∈ list.map Identity.key := by
  rw [List.any_eq_true, List.mem_map]
  exact exists_congr fun other => and_congr_right' (beq_iff_eq.trans eq_comm)

theorem mem_missingFrom {others identities : List Identity} {identity : Identity} :
    identity ∈ missingFrom others identities ↔
      identity ∈ identities ∧ identity.key ∉ others.map Identity.key := by
  rw [missingFrom, List.mem_filter, ← any_same_iff, Bool.not_eq_true', Bool.not_eq_true]

/-- No component is both new and gone. -/
theorem diff_disjoint {known current : List Identity} {new gone : Identity}
    (added : new ∈ (diff known current).added) (removed : gone ∈ (diff known current).removed) :
    new.same gone = false := by
  refine eq_false_of_ne_true fun same => (mem_missingFrom.mp added).2 ?_
  have key : new.key = gone.key := beq_iff_eq.mp same
  rw [key]
  exact List.mem_map_of_mem (mem_missingFrom.mp removed).1

/-- Nothing changes if the same components are known as before. -/
theorem diff_eq_nil {known current : List Identity}
    (same : ∀ key, key ∈ known.map Identity.key ↔ key ∈ current.map Identity.key) :
    diff known current = ⟨[], []⟩ := by
  have none {others identities : List Identity}
      (covered : ∀ key ∈ identities.map Identity.key, key ∈ others.map Identity.key) :
      missingFrom others identities = [] :=
    List.eq_nil_iff_forall_not_mem.mpr fun _ missing =>
      (mem_missingFrom.mp missing).2 (covered _ (List.mem_map_of_mem (mem_missingFrom.mp missing).1))
  rw [diff, none fun key => (same key).mpr, none fun key => (same key).mp]

theorem Diff.replay_nil (known : List Identity) : Diff.replay ⟨[], []⟩ known = known := by
  simp [Diff.replay]

/-! ## Selecting from another order -/

namespace Filter

theorem greedy_concat (filter : Filter) (descriptors : List Descriptor) (last : Descriptor) :
    filter.greedy (descriptors ++ [last]) =
      if filter.Accepts (filter.greedy descriptors) last
      then filter.greedy descriptors ++ [last.identity] else filter.greedy descriptors := by
  rw [greedy, List.foldl_append]
  rfl

/-- What is taken keeps the order of the discovery. -/
theorem greedy_sublist (filter : Filter) (descriptors : List Descriptor) :
    (filter.greedy descriptors).Sublist (descriptors.map Descriptor.identity) := by
  induction descriptors using List.reverseRecOn with
  | nil => exact .slnil
  | append_singleton earlier last ih =>
    rw [greedy_concat, List.map_append]
    split
    · exact ih.append (.refl _)
    · exact ih.trans (List.sublist_append_left ..)

/-- If no two discovered components share a name or a path, all are taken that may be known. -/
theorem greedy_of_apart (filter : Filter) {descriptors : List Descriptor}
    (apart : (descriptors.map Descriptor.identity).Pairwise Identity.Apart) :
    filter.greedy descriptors =
      (descriptors.map Descriptor.identity).filter fun identity => filter.Allows identity := by
  induction descriptors using List.reverseRecOn with
  | nil => rfl
  | append_singleton earlier last ih =>
    rw [List.map_append, List.pairwise_append] at apart
    obtain ⟨before, -, across⟩ := apart
    rw [greedy_concat, ih before, List.map_append, List.filter_append]
    have taken : filter.Accepts ((earlier.map Descriptor.identity).filter fun identity =>
        filter.Allows identity) last ↔ filter.Allows last.identity := by
      refine ⟨fun accepts => accepts.allowed, fun allowed => ⟨allowed, fun other member => ?_⟩⟩
      exact across other (List.mem_filter.mp member).1 last.identity (by simp)
    by_cases allowed : filter.Allows last.identity
    · simp [taken, allowed]
    · simp [taken, allowed]

end Filter

end Component

namespace Registry

open Component

/-! ## Replaying a diff -/

/-- What is known after merging is what the diff makes of what was known before. -/
theorem merge_eq_replay {known current : List Identity} (selected : Distinct current) :
    merge known current = (diff known current).replay known := by
  have stays : ∀ identity ∈ known, current.any identity.same =
      !(diff known current).removed.any identity.same := by
    intro identity member
    rw [Bool.eq_iff_iff, Bool.not_eq_true', ← Bool.not_eq_true, any_same_iff, any_same_iff]
    constructor
    · intro there gone
      obtain ⟨other, missing, key⟩ := List.mem_map.mp gone
      exact (mem_missingFrom.mp missing).2 (key ▸ there)
    · intro kept
      by_contra gone
      exact kept (List.mem_map_of_mem (mem_missingFrom.mpr ⟨member, gone⟩))
  -- A selected component whose path is kept is the one that stays there.
  have fresh : ∀ identity ∈ current,
      (known.filter fun other => current.any other.same).any (·.path.same identity.path) =
        known.any identity.same := by
    intro identity member
    rw [Bool.eq_iff_iff, any_same_iff, List.any_eq_true]
    constructor
    · rintro ⟨other, kept, path⟩
      obtain ⟨before, there⟩ := List.mem_filter.mp kept
      obtain ⟨again, selected', key⟩ := List.mem_map.mp (any_same_iff.mp there)
      have parts : again.path.parts = other.path.parts := congrArg (·.2.1) key
      have one : again = identity :=
        selected.eq_of_path selected' member (parts.trans (Path.same_iff.mp path))
      rw [← one, key]
      exact List.mem_map_of_mem before
    · intro there
      obtain ⟨other, before, key⟩ := List.mem_map.mp there
      refine ⟨other, List.mem_filter.mpr ⟨before, any_same_iff.mpr ?_⟩, Path.same_iff.mpr ?_⟩
      · rw [key]
        exact List.mem_map_of_mem member
      · exact congrArg (·.2.1) key
  have kept : (known.filter fun identity => current.any identity.same) =
      known.filter fun identity => !(diff known current).removed.any identity.same :=
    List.filter_congr stays
  have new : (current.filter fun identity =>
      !(known.filter fun other => current.any other.same).any (·.path.same identity.path)) =
        (diff known current).added :=
    List.filter_congr fun identity member => congrArg (!·) (fresh identity member)
  rw [Diff.replay, ← kept, ← new]
  rfl

/-- Just the selected components are known after merging. -/
theorem mem_keys_merge {known current : List Identity} (before : Distinct known)
    (selected : Distinct current) (key : String × List PathPart × Bool) :
    key ∈ (merge known current).map Identity.key ↔ key ∈ current.map Identity.key :=
  (merge_perm before selected).mem_iff

/-- Discovering components anew that are known already, and no others, changes nothing. -/
theorem register_known {registry : Registry} {descriptors : List Descriptor}
    (same : ∀ key, key ∈ registry.list.map Identity.key ↔
      key ∈ (registry.filter.select descriptors).1.map Identity.key) :
    (registry.register descriptors).1 = registry ∧
      (registry.register descriptors).2.1 = ⟨[], []⟩ := by
  have selected := select_distinct registry.filter descriptors
  have unchanged : diff registry.list (registry.filter.select descriptors).1 = ⟨[], []⟩ :=
    diff_eq_nil same
  have list : merge registry.list (registry.filter.select descriptors).1 = registry.list := by
    rw [merge_eq_replay selected, unchanged, Diff.replay_nil]
  exact ⟨congrArg (fun list => { registry with list }) list, unchanged⟩

/-- What registering changes, replayed on the components known before, makes the ones known after: those
that stay are in their old order, and behind them come the new ones in the order of the discovery. No
component is both new and gone. If names and paths tell the discovered components apart, discovering them
again in any order changes nothing. -/
theorem register_replays (filter : Filter) (discoveries : List (List Descriptor))
    (descriptors : List Descriptor) :
    let before := filter.registry discoveries
    let after := (before.register descriptors).1
    let diff := (before.register descriptors).2.1
    after.list = diff.replay before.list ∧
    diff.added.Sublist (descriptors.map Descriptor.identity) ∧
    diff.removed.Sublist before.list ∧
    (∀ new ∈ diff.added, ∀ gone ∈ diff.removed, new.same gone = false) ∧
    ∀ again : List Descriptor, again.Perm descriptors →
      (descriptors.map Descriptor.shownName).Nodup →
      (descriptors.map (·.resolvedPath.parts)).Nodup →
      (after.register again).1 = after ∧ (after.register again).2.1 = ⟨[], []⟩ := by
  intro before after diff
  have formed := wellFormed filter discoveries
  have formed' := formed.register descriptors
  have selected := select_distinct before.filter descriptors
  refine ⟨merge_eq_replay selected, ?_, List.filter_sublist, ?_, ?_⟩
  · have taken := filter.greedy_sublist descriptors
    rw [← formed.filter_eq, ← Filter.select_eq_greedy] at taken
    exact List.filter_sublist.trans taken
  · exact fun new added gone removed => diff_disjoint added removed
  · intro again perm names paths
    have apart : (descriptors.map Descriptor.identity).Pairwise Identity.Apart :=
      List.pairwise_map.mpr ((List.pairwise_map.mp names).and (List.pairwise_map.mp paths))
    have apart' : (again.map Descriptor.identity).Pairwise Identity.Apart :=
      (perm.map Descriptor.identity).symm.pairwise apart fun other => ⟨other.1.symm, other.2.symm⟩
    refine register_known fun key => ?_
    rw [list_register, mem_keys_merge formed.distinct selected, formed'.filter_eq, formed.filter_eq,
      Filter.select_eq_greedy, Filter.select_eq_greedy, filter.greedy_of_apart apart,
      filter.greedy_of_apart apart']
    exact (((perm.map Descriptor.identity).symm.filter _).map Identity.key).mem_iff

/-- A discovery, as it was. -/
def shopBefore : List Descriptor := [⟨"Card", ⟨"/Card.vue"⟩, false⟩, ⟨"Menu", ⟨"/Menu.vue"⟩, false⟩]

/-- A later discovery: one component is new, one has become global, and the path of one has another
spelling. -/
def shopAfter : List Descriptor :=
  [⟨"Form", ⟨"/Form.vue"⟩, false⟩, ⟨"Card", ⟨"/Card.vue"⟩, true⟩, ⟨" Menu", ⟨"//Menu.vue"⟩, false⟩]

/-- The component that has become global is taken out and comes in again behind the new one; the one with
the other spelling stays. The later discovery, read backwards, changes nothing more. -/
theorem register_replays_shop :
    let before := Filter.registry {} [shopBefore]
    let after := (before.register shopAfter).1
    let diff := (before.register shopAfter).2.1
    after.list.map Identity.name = ["Menu", "Form", "Card"] ∧
    diff.removed.map Identity.name = ["Card"] ∧
    after.list = diff.replay before.list ∧
    shopAfter.reverse.Perm shopAfter ∧ (shopAfter.map Descriptor.shownName).Nodup ∧
    (shopAfter.map (·.resolvedPath.parts)).Nodup ∧
    (after.register shopAfter.reverse).1 = after ∧
    (after.register shopAfter.reverse).2.1 = ⟨[], []⟩ := by
  obtain ⟨replays, -, -, -, again⟩ := register_replays {} [shopBefore] shopAfter
  have perm : shopAfter.reverse.Perm shopAfter := List.reverse_perm _
  have names : (shopAfter.map Descriptor.shownName).Nodup := by decide +kernel
  have paths : (shopAfter.map (·.resolvedPath.parts)).Nodup := by decide +kernel
  obtain ⟨same, unchanged⟩ := again shopAfter.reverse perm names paths
  exact ⟨by decide +kernel, by decide +kernel, replays, perm, names, paths, same, unchanged⟩

end Registry

end ComponentCatalog
