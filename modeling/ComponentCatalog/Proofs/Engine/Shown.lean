import ComponentCatalog.Proofs.Engine.Effects
import Mathlib.Data.List.Induction

/-! # Where a published status comes from

A snapshot is taken component by component, while other calls go on. What it shows of a component is
what the slot showed when the snapshot came by: nothing if no analysis had come to an end, and pending
exactly if another one was on its way just then.
-/

namespace ComponentCatalog

open Component

namespace Cache

theorem shown?_eq_some {cache : Cache} {identity : Identity} {entry : SnapshotEntry}
    (shown : cache.shown? identity = some entry) :
    entry.identity = identity ∧ ∃ slot, cache.slot? identity.path = some slot ∧
      slot.last?.isSome ∧ entry.status = slot.status := by
  unfold shown? at shown
  obtain ⟨slot, present, shown⟩ := Option.bind_eq_some_iff.mp shown
  obtain ⟨last, ended, shown⟩ := Option.bind_eq_some_iff.mp shown
  cases shown
  exact ⟨rfl, slot, present, Option.isSome_of_eq_some ended, rfl⟩

theorem mem_of_mem_collect {cache : Cache} {before : Table String SnapshotEntry}
    {identity : Identity} {item : String × SnapshotEntry}
    (member : item ∈ cache.collect before identity) :
    item ∈ before ∨ cache.shown? identity = some item.2 := by
  unfold collect at member
  split at member
  · next entry shown =>
    rcases Table.mem_of_mem_set member with rfl | earlier
    · exact .inr shown
    · exact .inl earlier
  · exact .inl member

theorem Slot.status_eq_pending_iff (slot : Slot) :
    slot.status = .pending ↔ slot.inFlight?.isSome = true := by
  unfold Slot.status
  split
  · next flying => simp [flying]
  · next landed =>
    split <;> simp [landed]

theorem Slot.status_ne_unknown {slot : Slot} (ended : slot.last?.isSome) :
    slot.status ≠ .unknown := by
  unfold Slot.status
  split
  · simp
  · split
    · next none => simp [none] at ended
    · simp
    · simp
    · simp

end Cache

namespace Engine

open Cache

/-- A call is taking a snapshot. -/
def Collecting (engine : Engine) (id : Nat) : Prop :=
  ∃ pending revision rest shown,
    engine.calls.get? id = some (.publishing pending (.collecting revision rest shown))

/-- The snapshot that a call is taking comes by a component. -/
def ComesBy (engine : Engine) (id : Nat) (identity : Identity) : Prop :=
  ∃ pending revision rest shown,
    engine.calls.get? id = some (.publishing pending (.collecting revision (identity :: rest) shown))

/-- In a run, the snapshot that a call is taking came by a component and found an entry. The call has
been taking it since. -/
def Found (engine : Engine) (events before : List Event) (id : Nat) (entry : SnapshotEntry) : Prop :=
  ∃ index reply after, events = before ++ .step id index reply :: after ∧
    (engine.run before).ComesBy id entry.identity ∧
    (engine.run before).cache.shown? entry.identity = some entry ∧
    ∀ part, part <+: after → (engine.run (before ++ .step id index reply :: part)).Collecting id

/-- In a run, the published snapshot came by a component and found an entry: a call took it, from
then on until it had come by all components and published it. -/
def PublishedFrom (engine : Engine) (events before : List Event) (entry : SnapshotEntry) : Prop :=
  ∃ during id index reply after pending revision,
    events = during ++ .step id index reply :: after ∧
    engine.Found during before id entry ∧
    (engine.run during).calls.get? id = some (.publishing pending
      (.collecting revision [] (engine.run events).published.components)) ∧
    (engine.run (during ++ [.step id index reply])).published = (engine.run events).published

variable {engine : Engine} {events before : List Event} {id : Nat} {entry : SnapshotEntry}

theorem PublishedFrom.shown (from_ : engine.PublishedFrom events before entry) :
    (engine.run before).cache.shown? entry.identity = some entry := by
  obtain ⟨_, _, _, _, _, _, _, -, ⟨_, _, _, -, -, shown, -⟩, -⟩ := from_
  exact shown

/-- A call that goes on with its snapshot has found what it had found. -/
private theorem Found.concat (found : engine.Found events before id entry) {event : Event}
    (still : (engine.run (events ++ [event])).Collecting id) :
    engine.Found (events ++ [event]) before id entry := by
  obtain ⟨index, reply, after, rfl, comes, shows, since⟩ := found
  refine ⟨index, reply, after ++ [event], by simp, comes, shows, fun part inside => ?_⟩
  rcases List.prefix_concat_iff.mp inside with rfl | earlier
  · simpa using still
  · exact since part earlier

/-- While nothing is published, the published snapshot comes from where it came. -/
private theorem PublishedFrom.concat (from_ : engine.PublishedFrom events before entry)
    {event : Event}
    (same : (engine.run (events ++ [event])).published = (engine.run events).published) :
    engine.PublishedFrom (events ++ [event]) before entry := by
  obtain ⟨during, id, index, reply, after, pending, revision, rfl, found, through, published⟩ := from_
  exact ⟨during, id, index, reply, after ++ [event], pending, revision, by simp, found,
    same ▸ through, published.trans same.symm⟩

/-- Each entry of a snapshot that is being taken was found by the call that takes it. -/
theorem found_of_collecting (created : engine.Created) (events : List Event) {pending : Pending}
    {revision : Nat} {rest : List Identity} {shown : Table String SnapshotEntry}
    (now : (engine.run events).calls.get? id =
      some (.publishing pending (.collecting revision rest shown)))
    {item : String × SnapshotEntry} (member : item ∈ shown) :
    ∃ before, engine.Found events before id item.2 := by
  induction events using List.reverseRecOn generalizing pending revision rest shown with
  | nil => cases (created.calls id).symm.trans now
  | append_singleton events event ih =>
    have collecting : (engine.run (events ++ [event])).Collecting id := ⟨_, _, _, _, now⟩
    rw [run_concat] at now
    -- The last event left the snapshot as it was, began it, or came by one more component.
    rcases (act_effect _ event).collecting now with
      same | rfl | ⟨index, reply, identity, earlier, rfl, was, rfl⟩
    · obtain ⟨before, found⟩ := ih same member
      exact ⟨before, found.concat collecting⟩
    · cases member
    · rcases mem_of_mem_collect member with old | shows
      · obtain ⟨before, found⟩ := ih was old
        exact ⟨before, found.concat collecting⟩
      · obtain ⟨rfl, -⟩ := shown?_eq_some shows
        refine ⟨events, index, reply, [], rfl, ⟨_, _, _, _, was⟩, shows, fun part inside => ?_⟩
        rw [List.prefix_nil.mp inside]
        exact collecting

/-- Each published entry was found by the call that took the published snapshot. -/
theorem publishedFrom_of_mem (created : engine.Created) (events : List Event)
    {item : String × SnapshotEntry} (member : item ∈ (engine.run events).published.components) :
    ∃ before, engine.PublishedFrom events before item.2 := by
  induction events using List.reverseRecOn with
  | nil =>
    rw [run, List.foldl_nil, created.published] at member
    cases member
  | append_singleton events event ih =>
    have effect := act_effect (engine.run events) event
    rw [← run_concat] at effect
    rcases effect.published with same | ⟨id, index, reply, pending, revision, rfl, through⟩
    · obtain ⟨before, from_⟩ := ih (same ▸ member)
      exact ⟨before, from_.concat same⟩
    · obtain ⟨before, found⟩ := found_of_collecting created events through member
      exact ⟨before, events, id, index, reply, [], pending, revision, rfl, found, through, rfl⟩

/-- Whatever happens to an engine, no published component is unknown, and one is pending exactly if an
analysis of it was on its way when the published snapshot came by it. -/
theorem published_pending_iff (created : engine.Created) (events : List Event)
    {item : String × SnapshotEntry} (member : item ∈ (engine.run events).published.components) :
    item.2.status ≠ .unknown ∧
    ∃ before slot, engine.PublishedFrom events before item.2 ∧
      (engine.run before).cache.slot? item.2.identity.path = some slot ∧
      (item.2.status = .pending ↔ slot.inFlight?.isSome = true) := by
  obtain ⟨before, from_⟩ := publishedFrom_of_mem created events member
  obtain ⟨-, slot, present, ended, status⟩ := shown?_eq_some from_.shown
  rw [status]
  exact ⟨slot.status_ne_unknown ended, before, slot, from_, present, slot.status_eq_pending_iff⟩

/-- An engine without any components. -/
def bareEngine : Engine := .create {} [] [] .none (.ok ())

/-- While a call is to publish that a component could not be read, another one reads it, and begins to
analyze it. The snapshot is taken only then. -/
def reread : List Event :=
  [.start 0 (.sync [⟨"Card", ⟨"/Card.vue"⟩, false⟩]), .start 1 (.parse ⟨"Card", ⟨"/Card.vue"⟩, false⟩),
    .step 1 0 (.text (.error .missing)), .start 2 (.parse ⟨"Card", ⟨"/Card.vue"⟩, false⟩),
    .step 2 0 (.text (.ok "")), .step 2 0 .nothing, .step 1 0 .nothing, .step 1 0 .nothing,
    .step 1 0 .nothing]

private theorem created_bareEngine : bareEngine.Created := ⟨_, _, _, _, _, rfl⟩

private theorem reread_statuses :
    (bareEngine.run reread).published.components.map (fun item => item.2.status) = [.pending] := by
  decide +kernel

private theorem exists_reread_pending :
    ∃ item ∈ (bareEngine.run reread).published.components, item.2.status = .pending := by
  have member : Status.pending ∈ (bareEngine.run reread).published.components.map
      (fun item => item.2.status) := by simp [reread_statuses]
  exact List.mem_map.mp member

/-- The snapshot with the component that is analyzed again was taken while that was on its way. -/
theorem published_pending_iff_reread :
    ∃ item ∈ (bareEngine.run reread).published.components, item.2.status = .pending ∧
      item.2.status ≠ .unknown ∧
      ∃ before slot, bareEngine.PublishedFrom reread before item.2 ∧
        (bareEngine.run before).cache.slot? item.2.identity.path = some slot ∧
        (item.2.status = .pending ↔ slot.inFlight?.isSome = true) := by
  obtain ⟨item, member, pending⟩ := exists_reread_pending
  exact ⟨item, member, pending, published_pending_iff created_bareEngine reread member⟩

/-- A published component can be pending. -/
theorem pending_published :
    ¬ ∀ engine : Engine, engine.Created → ∀ events, ∀ item ∈ (engine.run events).published.components,
      item.2.status = .resolved ∨ item.2.status = .error ∨ item.2.status = .stale := by
  intro always
  obtain ⟨item, member, pending⟩ := exists_reread_pending
  have settled := always bareEngine created_bareEngine reread item member
  simp [pending] at settled

end Engine

end ComponentCatalog
