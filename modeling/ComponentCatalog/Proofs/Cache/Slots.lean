import ComponentCatalog.Cache.Progress

/-! # What the operations of the cache leave as it was

An operation on a path changes the slot of that path alone: paths with the same parts share a slot,
and all other slots stay. Each operation gets one lemma about the slots and one case analysis, so
that no later proof opens its definition.
-/

namespace ComponentCatalog

open Component

namespace Cache

variable (cache : Cache) (path other : Path)

@[simp] theorem slot?_tell (notice : Notice) : (cache.tell notice).slot? path = cache.slot? path := rfl

@[simp] theorem slot_tell (notice : Notice) : (cache.tell notice).slot path = cache.slot path := rfl

@[simp] theorem tasks_tell (notice : Notice) : (cache.tell notice).tasks = cache.tasks := rfl

@[simp] theorem nextTask_tell (notice : Notice) : (cache.tell notice).nextTask = cache.nextTask := rfl

@[simp] theorem revision_tell (notice : Notice) : (cache.tell notice).revision = cache.revision := rfl

@[simp] theorem tasks_setSlot (slot : Slot) : (cache.setSlot path slot).tasks = cache.tasks := rfl

@[simp] theorem nextTask_setSlot (slot : Slot) :
    (cache.setSlot path slot).nextTask = cache.nextTask := rfl

@[simp] theorem revision_setSlot (slot : Slot) :
    (cache.setSlot path slot).revision = cache.revision := rfl

/-- A slot that is set is found under every path with the same parts. -/
theorem slot?_setSlot (slot : Slot) :
    (cache.setSlot path slot).slot? other =
      if path.parts = other.parts then some slot else cache.slot? other :=
  Table.get?_set cache.slots path.parts other.parts slot

theorem slot?_congr {path other : Path} (same : path.parts = other.parts) :
    cache.slot? path = cache.slot? other := by
  simp only [slot?, same]

theorem slot_congr {path other : Path} (same : path.parts = other.parts) :
    cache.slot path = cache.slot other := by
  simp only [Cache.slot, slot?_congr cache same]

theorem slot_eq {path : Path} {slot : Slot} (present : cache.slot? path = some slot) :
    cache.slot path = slot := by
  simp [Cache.slot, present]

/-! ## Looking up -/

/-- The cache after an analysis was started: the slot has it on its way. -/
def launched (identity : Identity) (fingerprint : Fingerprint) (source : String) : Cache :=
  { cache.setSlot identity.path
      { cache.slot identity.path with inFlight? := some ⟨cache.nextTask, fingerprint, false⟩ } with
    tasks := cache.tasks.set cache.nextTask { identity, source, fingerprint }
    nextTask := cache.nextTask + 1 }

theorem slot?_launched (identity : Identity) (fingerprint : Fingerprint) (source : String) :
    (cache.launched identity fingerprint source).slot? other =
      if identity.path.parts = other.parts then
        some { cache.slot identity.path with inFlight? := some ⟨cache.nextTask, fingerprint, false⟩ }
      else cache.slot? other :=
  cache.slot?_setSlot identity.path other _

theorem tasks_launched (identity : Identity) (fingerprint : Fingerprint) (source : String)
    (task : Nat) :
    (cache.launched identity fingerprint source).tasks.get? task =
      if cache.nextTask = task then some { identity, source, fingerprint }
      else cache.tasks.get? task :=
  Table.get?_set cache.tasks cache.nextTask task _

/-- A hit is the last entry of the slot, for the component that was asked for. -/
theorem Slot.hit?_eq_some {slot : Slot} {identity : Identity}
    {fingerprint : Fingerprint} {entry : Entry} (hit : slot.hit? identity fingerprint = some entry) :
    slot.fingerprint? = some fingerprint ∧ slot.last? = some entry ∧
      entry.identity.same identity := by
  unfold Slot.hit? at hit
  split at hit
  · next fingerprinted =>
    obtain ⟨last, same⟩ := Option.filter_eq_some_iff.mp hit
    exact ⟨by simpa using fingerprinted, last, same⟩
  · cases hit

/-! ## Failing to read -/

/-- The slot after its source could not be read. -/
def Slot.unreadable (entry : Entry) : Slot := { last? := some entry }

/-- A source that cannot be read is told, and recorded only if no analysis is on its way. -/
theorem recordUnreadable_cases (identity : Identity) (fault : Files.Fault) :
    ((cache.slot identity.path).inFlight?.isSome ∧
      cache.recordUnreadable identity fault =
        cache.tell (.unreadable identity.name identity.path fault)) ∨
    ((cache.slot identity.path).inFlight? = none ∧
      cache.recordUnreadable identity fault =
        { (cache.tell (.unreadable identity.name identity.path fault)).setSlot identity.path
            (.unreadable (unreadableEntry identity fault)) with
          revision := cache.revision + 1 }) := by
  cases flight : (cache.slot identity.path).inFlight? with
  | some found =>
    exact .inl ⟨rfl, by simp only [recordUnreadable, slot_tell, flight, Option.isSome_some, ↓reduceIte]⟩
  | none =>
    refine .inr ⟨rfl, ?_⟩
    simp only [recordUnreadable, slot_tell, flight, Option.isSome_none, Bool.false_eq_true, ↓reduceIte]
    rfl

@[simp] theorem tasks_recordUnreadable (identity : Identity) (fault : Files.Fault) :
    (cache.recordUnreadable identity fault).tasks = cache.tasks := by
  rcases recordUnreadable_cases cache identity fault with ⟨_, eq⟩ | ⟨_, eq⟩ <;> rw [eq] <;> rfl

@[simp] theorem nextTask_recordUnreadable (identity : Identity) (fault : Files.Fault) :
    (cache.recordUnreadable identity fault).nextTask = cache.nextTask := by
  rcases recordUnreadable_cases cache identity fault with ⟨_, eq⟩ | ⟨_, eq⟩ <;> rw [eq] <;> rfl

theorem slot?_recordUnreadable (identity : Identity) (fault : Files.Fault) :
    (cache.recordUnreadable identity fault).slot? other =
      if identity.path.parts = other.parts ∧ (cache.slot identity.path).inFlight? = none then
        some (.unreadable (unreadableEntry identity fault))
      else cache.slot? other := by
  rcases recordUnreadable_cases cache identity fault with ⟨flight, eq⟩ | ⟨idle, eq⟩
  · have busy : (cache.slot identity.path).inFlight? ≠ none := Option.isSome_iff_ne_none.mp flight
    rw [eq, slot?_tell, if_neg (by simp [busy])]
  · rw [eq]
    simp only [idle, and_true]
    exact slot?_setSlot (cache.tell _) identity.path other _

/-! ## Forgetting -/

theorem slot?_invalidate :
    (cache.invalidate path).slot? other =
      if path.parts = other.parts then (cache.slot? other).map Slot.invalidate
      else cache.slot? other := by
  cases present : cache.slot? path with
  | some slot =>
    simp only [invalidate, present, slot?_setSlot]
    split
    · next same => rw [← slot?_congr cache same, present, Option.map_some]
    · rfl
  | none =>
    simp only [invalidate, present]
    split
    · next same => rw [← slot?_congr cache same, present, Option.map_none]
    · rfl

@[simp] theorem tasks_invalidate : (cache.invalidate path).tasks = cache.tasks := by
  unfold invalidate; split <;> rfl

@[simp] theorem nextTask_invalidate : (cache.invalidate path).nextTask = cache.nextTask := by
  unfold invalidate; split <;> rfl

@[simp] theorem revision_invalidate : (cache.invalidate path).revision = cache.revision := by
  unfold invalidate; split <;> rfl

theorem slot?_invalidateAll :
    cache.invalidateAll.slot? other = (cache.slot? other).map Slot.invalidate :=
  Table.get?_mapValues cache.slots Slot.invalidate other.parts

theorem slot?_remove :
    (cache.remove path).slot? other =
      if path.parts = other.parts then none else cache.slot? other := by
  cases present : cache.slot? path with
  | some slot =>
    simp only [remove, present]
    exact Table.get?_erase cache.slots path.parts other.parts
  | none =>
    simp only [remove, present]
    split
    · next same => rw [← slot?_congr cache same, present]
    · rfl

@[simp] theorem tasks_remove : (cache.remove path).tasks = cache.tasks := by
  unfold remove; split <;> rfl

@[simp] theorem nextTask_remove : (cache.remove path).nextTask = cache.nextTask := by
  unfold remove; split <;> rfl

/-- Nothing becomes of a slot that is not there. -/
theorem slot_invalidate :
    (cache.invalidate path).slot other =
      if path.parts = other.parts then (cache.slot other).invalidate else cache.slot other := by
  simp only [Cache.slot, slot?_invalidate]
  split
  · cases cache.slot? other <;> rfl
  · rfl

theorem slot_invalidateAll : cache.invalidateAll.slot other = (cache.slot other).invalidate := by
  simp only [Cache.slot, slot?_invalidateAll]
  cases cache.slot? other <;> rfl

theorem slot_remove :
    (cache.remove path).slot other = if path.parts = other.parts then {} else cache.slot other := by
  simp only [Cache.slot, slot?_remove]
  split <;> rfl

/-! ## Recording -/

/-- The slot after the analysis on its way came to an entry. -/
def Slot.recorded (flight : InFlight) (entry : Entry) : Slot :=
  ⟨if flight.invalidated then none else some flight.fingerprint, some entry, none⟩

/-- The slot after the analysis on its way came to no entry. -/
def Slot.landed (slot : Slot) : Slot := { slot with inFlight? := none }

/-- A slot waits for a task that is on its way to it. -/
def Awaits (task : Nat) : Prop :=
  ∃ slot flight, cache.slot? path = some slot ∧ slot.inFlight? = some flight ∧ flight.task = task

/-- A task counts only for the slot that waits for it; without an entry the slot only lands. -/
theorem finish_cases (task : Nat) (result? : Option Entry) :
    (¬ cache.Awaits path task ∧ cache.finish path task result? = cache) ∨
    (∃ slot flight, cache.slot? path = some slot ∧ slot.inFlight? = some flight ∧
      flight.task = task ∧
      ((∃ entry, result? = some entry ∧
        cache.finish path task result? =
          { cache.setSlot path (Slot.recorded flight entry) with revision := cache.revision + 1 }) ∨
      (result? = none ∧ cache.finish path task result? = cache.setSlot path slot.landed))) := by
  cases present : cache.slot? path with
  | none => exact .inl ⟨by simp [Awaits, present], by simp only [finish, present]⟩
  | some slot =>
    cases flying : slot.inFlight? with
    | none => exact .inl ⟨by simp [Awaits, present, flying], by simp only [finish, present, flying]⟩
    | some flight =>
      by_cases same : flight.task = task
      · refine .inr ⟨slot, flight, rfl, flying, same, ?_⟩
        cases result? with
        | some entry =>
          refine .inl ⟨entry, rfl, ?_⟩
          simp only [finish, present, flying, same, ↓reduceIte]
          rfl
        | none =>
          refine .inr ⟨rfl, ?_⟩
          simp only [finish, present, flying, same, ↓reduceIte]
          rfl
      · refine .inl ⟨by simp [Awaits, present, flying, same], ?_⟩
        simp only [finish, present, flying, same, ↓reduceIte]

@[simp] theorem tasks_finish (task : Nat) (result? : Option Entry) :
    (cache.finish path task result?).tasks = cache.tasks := by
  rcases finish_cases cache path task result? with ⟨_, eq⟩ | ⟨_, _, _, _, _, ⟨_, _, eq⟩ | ⟨_, eq⟩⟩ <;>
    rw [eq] <;> rfl

@[simp] theorem nextTask_finish (task : Nat) (result? : Option Entry) :
    (cache.finish path task result?).nextTask = cache.nextTask := by
  rcases finish_cases cache path task result? with ⟨_, eq⟩ | ⟨_, _, _, _, _, ⟨_, _, eq⟩ | ⟨_, eq⟩⟩ <;>
    rw [eq] <;> rfl

/-- A task leaves the slots of other paths as they are. -/
theorem slot?_finish_of_ne {path other : Path} (apart : path.parts ≠ other.parts) (task : Nat)
    (result? : Option Entry) : (cache.finish path task result?).slot? other = cache.slot? other := by
  rcases finish_cases cache path task result? with ⟨_, eq⟩ | ⟨_, _, _, _, _, ⟨_, _, eq⟩ | ⟨_, eq⟩⟩
  · rw [eq]
  · rw [eq]
    exact (slot?_setSlot cache path other _).trans (if_neg apart)
  · rw [eq, slot?_setSlot, if_neg apart]

end Cache

end ComponentCatalog
