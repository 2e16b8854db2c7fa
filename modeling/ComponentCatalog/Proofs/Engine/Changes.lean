import ComponentCatalog.Proofs.Cache.Grounded
import ComponentCatalog.Proofs.Component.Registry
import ComponentCatalog.Proofs.Engine.Sound

/-! # What an event does to the cache and to the registry

An event changes the cache as one step of getting an entry does, or as one of its operations does, and
the registry only if components are discovered. So the revision never falls, a slot that stays keeps
showing an entry and begins to show one only with a new revision, and known components stay distinct.
-/

namespace ComponentCatalog

open Component

namespace Cache

/-- What an event can do to the slots and to the revision. -/
inductive Change (cache : Cache) : Cache → Prop
  | kept {next : Cache} (slots : next.slots = cache.slots)
      (revision : next.revision = cache.revision) : Change cache next
  | got {setup : Setup} {get : Get} {reply : Reply} {next : Cache} {stage : Get.Stage}
      (step : Get.Transition setup cache get reply next stage) : Change cache next
  | invalidated (path : Path) : Change cache (cache.invalidate path)
  | invalidatedAll : Change cache cache.invalidateAll
  | removed (path : Path) : Change cache (cache.remove path)

variable {cache next : Cache}

theorem Change.refl (cache : Cache) : cache.Change cache := .kept rfl rfl

theorem Change.revision_le (change : cache.Change next) (sound : cache.Sound) :
    cache.revision ≤ next.revision := by
  cases change with
  | kept _ revision => exact Nat.le_of_eq revision.symm
  | got step => exact (step.grows sound).revision
  | invalidated path => exact (Extends.invalidate cache path).revision
  | invalidatedAll => exact Nat.le_refl _
  | removed path => exact (Extends.remove cache path).revision

/-- A slot that is there before and behind a change goes on showing an entry. -/
theorem Change.shown (change : cache.Change next) {path : Path} (shown : cache.Shown path)
    (there : (next.slot? path).isSome) : next.Shown path := by
  cases change with
  | kept slots _ => simpa only [Shown, Cache.slot, slot?, slots] using shown
  | got step => exact step.shown shown
  | invalidated other =>
    rw [Shown, slot_invalidate]
    split <;> exact shown
  | invalidatedAll =>
    rw [Shown, slot_invalidateAll]
    exact shown
  | removed other =>
    rw [slot?_remove] at there
    rw [Shown, slot_remove]
    split at there
    · cases there
    · next apart =>
      rw [if_neg apart]
      exact shown

/-- While the revision stays, a step of getting an entry leaves the entries as they are, and the
fingerprints for which they hold. -/
theorem Get.Transition.same_entry {setup : Setup} {get : Get} {reply : Reply} {stage : Get.Stage}
    (step : Get.Transition setup cache get reply next stage) (same : next.revision = cache.revision)
    (path : Path) :
    (next.slot path).last? = (cache.slot path).last? ∧
      (next.slot path).fingerprint? = (cache.slot path).fingerprint? := by
  cases step with
  | @unreadable fault _ _ =>
    rcases recordUnreadable_cases cache get.identity fault with ⟨-, eq⟩ | ⟨-, eq⟩
    · rw [eq, slot_tell]
      exact ⟨rfl, rfl⟩
    · rw [eq] at same
      exact absurd same (Nat.succ_ne_self _)
  | start =>
    simp only [Cache.slot, slot?_launched]
    split
    · next here =>
      rw [← slot?_congr cache here]
      exact ⟨rfl, rfl⟩
    · exact ⟨rfl, rfl⟩
  | @record _ task _ analysis result _ _ _ =>
    have slots (other : Path) : (cache.recorded task analysis result).slot? other =
        (cache.finish analysis.identity.path task result.toOption).slot? other := rfl
    have revision : (cache.recorded task analysis result).revision =
        (cache.finish analysis.identity.path task result.toOption).revision := rfl
    rcases finish_cases cache analysis.identity.path task result.toOption with
      ⟨-, eq⟩ | ⟨slot, _, present, -, -, ⟨_, -, eq⟩ | ⟨-, eq⟩⟩
    · simp only [Cache.slot, slots, eq, and_self]
    · rw [revision, eq] at same
      exact absurd same (Nat.succ_ne_self _)
    · simp only [Cache.slot, slots, eq, slot?_setSlot]
      split
      · next here =>
        rw [← slot?_congr cache here, present]
        exact ⟨rfl, rfl⟩
      · exact ⟨rfl, rfl⟩
  | _ => exact ⟨rfl, rfl⟩

/-- While the revision stays, nothing is forgotten. -/
theorem remove_of_same_revision {path : Path}
    (same : (cache.remove path).revision = cache.revision) : cache.remove path = cache := by
  cases present : cache.slot? path with
  | some slot =>
    simp only [Cache.remove, present] at same
    exact absurd same (Nat.succ_ne_self _)
  | none => simp only [Cache.remove, present]

/-- While the revision stays, no slot begins or ceases to show an entry. -/
theorem Change.shown_iff (change : cache.Change next) (same : next.revision = cache.revision)
    (path : Path) : next.Shown path ↔ cache.Shown path := by
  cases change with
  | kept slots _ => simp only [Shown, Cache.slot, slot?, slots]
  | got step => rw [Shown, Shown, (step.same_entry same path).1]
  | invalidated other =>
    rw [Shown, Shown, slot_invalidate]
    split <;> rfl
  | invalidatedAll =>
    rw [Shown, Shown, slot_invalidateAll]
    rfl
  | removed other => rw [remove_of_same_revision same]

end Cache

namespace Engine

open Cache

section

variable (engine : Engine) (id : Nat)

@[simp] theorem cache_withGets (goal : Goal) (gets : List Get) :
    (engine.withGets id goal gets).cache = engine.cache := by
  rcases engine.withGets_cases id goal gets with
    ⟨-, eq⟩ | ⟨-, reason, eq⟩ | ⟨entries, -, eq⟩ <;> rw [eq]
  · rfl
  · rfl
  · generalize after : engine.withEntries id entries goal = next
    cases after ▸ engine.withEntries_spec id entries goal <;> rfl

@[simp] theorem registry_withGets (goal : Goal) (gets : List Get) :
    (engine.withGets id goal gets).registry = engine.registry := by
  rcases engine.withGets_cases id goal gets with
    ⟨-, eq⟩ | ⟨-, reason, eq⟩ | ⟨entries, -, eq⟩ <;> rw [eq]
  · rfl
  · rfl
  · generalize after : engine.withEntries id entries goal = next
    cases after ▸ engine.withEntries_spec id entries goal <;> rfl

@[simp] theorem cache_withDiff (diff : Diff) : (engine.withDiff id diff).cache = engine.cache := by
  unfold withDiff
  split <;> rfl

@[simp] theorem registry_withDiff (diff : Diff) :
    (engine.withDiff id diff).registry = engine.registry := by
  unfold withDiff
  split <;> rfl

end

variable {engine : Engine}

private theorem start_change (engine : Engine) (id : Nat) (job : Job) :
    engine.cache.Change (engine.start id job).cache := by
  cases job with
  | sync descriptors =>
    simp only [start, cache_withDiff, foldl_tell]
    exact .kept rfl rfl
  | changed path =>
    simp only [start]
    split
    · rw [cache_withGets]
      exact .invalidated path
    · exact .refl _
  | parseNamed name =>
    simp only [start]
    split
    · rw [cache_withGets]
      exact .refl _
    · exact .refl _
  | stub =>
    simp only [start]
    split <;> exact .refl _
  | _ =>
    simp only [start, cache_withGets, cache_setCall]
    exact .refl _

private theorem step_change (engine : Engine) (id index : Nat) (reply : Reply) :
    engine.cache.Change (engine.step id index reply).cache := by
  have spec := engine.step_spec id index reply
  generalize engine.step id index reply = next at spec
  cases spec with
  | get _ _ =>
    rw [cache_withGets]
    exact .got (Get.step_transition ..)
  | forget _ => exact .removed _
  | reuse _ _ _ =>
    rw [deliver_eq]
    exact .kept rfl rfl
  | deliver _ =>
    rw [deliver_eq]
    exact .kept rfl rfl
  | publish _ => exact .kept rfl rfl
  | _ => exact .refl _

/-- Every event changes the cache in one of these ways. -/
theorem act_change (engine : Engine) (event : Event) :
    engine.cache.Change (engine.act event).cache := by
  cases event with
  | start id job => exact start_change engine id job
  | step id index reply => exact step_change engine id index reply
  | drop id => exact .refl _
  | invalidate path => exact .invalidated path
  | invalidateAll => exact .invalidatedAll
  | takeNotices => exact .kept rfl rfl

/-- No step changes the registry. -/
theorem registry_step (engine : Engine) (id index : Nat) (reply : Reply) :
    (engine.step id index reply).registry = engine.registry := by
  have spec := engine.step_spec id index reply
  generalize engine.step id index reply = next at spec
  cases spec with
  | get _ _ => rw [registry_withGets]
  | reuse _ _ _ => rw [deliver_eq, registry_finish]
  | deliver _ => rw [deliver_eq, registry_finish]
  | _ => rfl

/-- No call changes the registry when it is made, unless it is a discovery. -/
theorem registry_start (engine : Engine) (id : Nat) {job : Job}
    (other : ∀ descriptors, job ≠ .sync descriptors) :
    (engine.start id job).registry = engine.registry := by
  cases job with
  | sync descriptors => exact absurd rfl (other descriptors)
  | changed path =>
    simp only [start]
    split <;> simp [changeCache]
  | parseNamed name =>
    simp only [start]
    split <;> simp
  | stub =>
    simp only [start]
    split <;> simp
  | _ => simp [start]

/-- The registry stays, unless components are discovered. -/
theorem act_registry (engine : Engine) (event : Event) :
    (engine.act event).registry = engine.registry ∨
    ∃ descriptors, (engine.act event).registry = (engine.registry.register descriptors).1 := by
  cases event with
  | start id job =>
    cases job with
    | sync descriptors => exact .inr ⟨descriptors, registry_withDiff ..⟩
    | _ => exact .inl (registry_start engine id nofun)
  | step id index reply => exact .inl (registry_step engine id index reply)
  | _ => exact .inl rfl

/-- Known components stay distinct. -/
theorem distinct_act (distinct : Registry.Distinct engine.registry.list) (event : Event) :
    Registry.Distinct (engine.act event).registry.list := by
  rcases engine.act_registry event with same | ⟨descriptors, registered⟩
  · rwa [same]
  · rw [registered]
    exact Registry.register_distinct distinct descriptors

end Engine

end ComponentCatalog
