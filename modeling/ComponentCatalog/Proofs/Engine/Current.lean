import ComponentCatalog.Proofs.Engine.Changes
import ComponentCatalog.Proofs.Engine.Publisher
import ComponentCatalog.Proofs.Engine.Shown
import Mathlib.Data.List.Infix

/-! # What is published is current

A snapshot has the revision that was current when it was begun, and shows each component as it is when
the snapshot comes by, which is later. So a snapshot whose revision is beyond that of an entry shows
this entry or a later one, and a call that begins to publish behind the entry ends with such a
snapshot. `Numbered` orders the snapshots; `Caught` says what the later ones show.
-/

namespace ComponentCatalog

open Component

/-- One snapshot was published before another one, or is the same. -/
structure Snapshot.Precedes (old new : Snapshot) : Prop where
  generation : new = old ∨ old.generation < new.generation
  revision : old.revision ≤ new.revision

theorem Snapshot.Precedes.refl (snapshot : Snapshot) : snapshot.Precedes snapshot :=
  ⟨.inl rfl, Nat.le_refl _⟩

theorem Snapshot.Precedes.trans {first middle last : Snapshot} (left : first.Precedes middle)
    (right : middle.Precedes last) : first.Precedes last where
  generation := by
    rcases right.generation with rfl | later
    · exact left.generation
    · rcases left.generation with rfl | earlier
      · exact .inr later
      · exact .inr (Nat.lt_trans earlier later)
  revision := Nat.le_trans left.revision right.revision

namespace Cache

theorem shown?_isSome_iff {cache : Cache} {identity : Identity} :
    (cache.shown? identity).isSome ↔ cache.Shown identity.path := by
  unfold Cache.shown? Shown Cache.slot
  cases cache.slot? identity.path with
  | none => simp
  | some slot => cases last : slot.last? <;> simp [last]

theorem get?_collect_self {cache : Cache} {identity : Identity} {entry : SnapshotEntry}
    (shown : cache.shown? identity = some entry) (before : Table String SnapshotEntry) :
    (cache.collect before identity).get? identity.name = some entry := by
  simp only [collect, shown, Table.get?_set, ↓reduceIte]

/-- A snapshot that comes by a component leaves the others as they are. -/
theorem get?_collect_of_ne {identity : Identity} {name : String} (other : identity.name ≠ name)
    (cache : Cache) (before : Table String SnapshotEntry) :
    (cache.collect before identity).get? name = before.get? name := by
  unfold collect
  split
  · rw [Table.get?_set, if_neg other]
  · rfl

end Cache

namespace Engine

open Cache

variable {engine : Engine}

/-! ## Snapshots are numbered -/

/-- A snapshot that is being taken is of a revision between that of the published one and the current
one. -/
structure Numbered (engine : Engine) : Prop where
  sound : engine.Sound
  locked : engine.Locked
  distinct : Registry.Distinct engine.registry.list
  published : engine.published.revision ≤ engine.cache.revision
  collecting : ∀ id pending revision rest shown,
    engine.calls.get? id = some (.publishing pending (.collecting revision rest shown)) →
      engine.published.revision ≤ revision ∧ revision ≤ engine.cache.revision

theorem Created.numbered (created : engine.Created) : engine.Numbered where
  sound := by
    obtain ⟨_, _, _, _, _, rfl⟩ := created
    exact Sound.create ..
  locked := created.locked
  distinct := by
    obtain ⟨_, _, _, _, _, rfl⟩ := created
    exact .nil
  published := by
    rw [created.published]
    exact Nat.zero_le _
  collecting := by
    intro id _ _ _ _ now
    cases (created.calls id).symm.trans now

/-- Every event preserves it. -/
theorem Numbered.act (numbered : engine.Numbered) (event : Event) : (engine.act event).Numbered := by
  have sound := numbered.sound.act event
  have locked := numbered.locked.act event
  have distinct := distinct_act numbered.distinct event
  have grows := (engine.act_change event).revision_le numbered.sound.cache
  have effect := engine.act_effect event
  generalize engine.act event = next at *
  cases effect with
  | move moved how =>
    refine ⟨sound, locked, distinct, ?_, ?_⟩
    · rw [moved.published]
      exact Nat.le_trans numbered.published grows
    · intro other pending revision rest shown now
      rw [moved.published]
      have before : engine.calls.get? other =
          some (.publishing pending (.collecting revision rest shown)) := by
        rcases moved.was now with ⟨rfl, rfl⟩ | ⟨-, before⟩
        · exact how.collecting
        · exact before
      obtain ⟨newer, current⟩ := numbered.collecting other _ _ _ _ before
      exact ⟨newer, Nat.le_trans current grows⟩
  | turn _ _ =>
    refine ⟨sound, locked, distinct, numbered.published, fun other _ _ _ _ now => ?_⟩
    rw [calls_setCall] at now
    split at now
    · cases now
      exact ⟨numbered.published, Nat.le_refl _⟩
    · exact numbered.collecting other _ _ _ _ now
  | collect was =>
    refine ⟨sound, locked, distinct, numbered.published, fun other _ _ _ _ now => ?_⟩
    rw [calls_setCall] at now
    split at now
    · cases now
      exact numbered.collecting _ _ _ _ _ was
    · exact numbered.collecting other _ _ _ _ now
  | publish was =>
    have bounds := numbered.collecting _ _ _ _ _ was
    refine ⟨sound, locked, distinct, bounds.2, fun other _ _ _ _ now => ?_⟩
    rw [calls_setCall] at now
    split at now
    · cases now
    · next another => exact absurd (numbered.locked.unique was trivial now trivial) another

theorem Numbered.run (numbered : engine.Numbered) (events : List Event) :
    (engine.run events).Numbered :=
  (Follows.free events).preserves (fun _ event numbered _ => numbered.act event) numbered

/-- The revision never falls. -/
theorem Numbered.revision_le_run (numbered : engine.Numbered) (events : List Event) :
    engine.cache.revision ≤ (engine.run events).cache.revision := by
  induction events generalizing engine with
  | nil => exact Nat.le_refl _
  | cons event rest ih =>
    have grows := (engine.act_change event).revision_le numbered.sound.cache
    exact Nat.le_trans grows (ih (numbered.act event))

/-- What an event publishes comes behind what was published. -/
theorem Numbered.precedes_act (numbered : engine.Numbered) (event : Event) :
    engine.published.Precedes (engine.act event).published := by
  have effect := engine.act_effect event
  generalize engine.act event = next at effect
  cases effect with
  | move moved _ => rw [moved.published]; exact .refl _
  | turn _ _ => exact .refl _
  | collect _ => exact .refl _
  | publish was =>
    exact ⟨.inr (Nat.lt_succ_of_le numbered.locked.generation),
      (numbered.collecting _ _ _ _ _ was).1⟩

theorem Numbered.precedes_run (numbered : engine.Numbered) (events : List Event) :
    engine.published.Precedes (engine.run events).published := by
  induction events generalizing engine with
  | nil => exact .refl _
  | cons event rest ih => exact (numbered.precedes_act event).trans (ih (numbered.act event))

/-! ## What a snapshot shows -/

section

variable {identity : Identity} {since : Nat} {events more : List Event}

/-- At a moment of a run, the slot of a component showed an entry. -/
def ShownIn (engine : Engine) (identity : Identity) (events : List Event) (entry : SnapshotEntry) :
    Prop :=
  ∃ part, part <+: events ∧ (engine.run part).cache.shown? identity = some entry

/-- Under the name of a component stands what its slot showed at a moment of a run. -/
def Holds (engine : Engine) (identity : Identity) (events : List Event)
    (table : Table String SnapshotEntry) : Prop :=
  ∃ entry, table.get? identity.name = some entry ∧ engine.ShownIn identity events entry

private theorem Holds.mono {table : Table String SnapshotEntry}
    (holds : engine.Holds identity events table) : engine.Holds identity (events ++ more) table := by
  obtain ⟨entry, found, part, inside, shown⟩ := holds
  exact ⟨entry, found, part, inside.trans (List.prefix_append ..), shown⟩

/-- A snapshot that is being taken holds it, or is still to come by the component. -/
def Catches (engine : Engine) (identity : Identity) (events : List Event) (rest : List Identity)
    (shown : Table String SnapshotEntry) : Prop :=
  Registry.Distinct rest ∧ (identity ∈ rest ∨
    engine.Holds identity events shown ∧ ∀ other ∈ rest, other.name ≠ identity.name)

variable {rest : List Identity} {shown : Table String SnapshotEntry}

private theorem Catches.mono (catches : engine.Catches identity events rest shown) :
    engine.Catches identity (events ++ more) rest shown := by
  obtain ⟨distinct, coming | ⟨holds, others⟩⟩ := catches
  · exact ⟨distinct, .inl coming⟩
  · exact ⟨distinct, .inr ⟨holds.mono, others⟩⟩

/-- The snapshot comes by one more component. -/
private theorem Catches.collect {first : Identity}
    (catches : engine.Catches identity events (first :: rest) shown) {entry : SnapshotEntry}
    (shows : (engine.run events).cache.shown? identity = some entry) :
    engine.Catches identity events rest ((engine.run events).cache.collect shown first) := by
  obtain ⟨distinct, coming | ⟨⟨held, found, moment⟩, others⟩⟩ := catches
  · obtain ⟨apart, left⟩ := List.pairwise_cons.mp distinct
    refine ⟨left, ?_⟩
    rcases List.mem_cons.mp coming with rfl | later
    · refine .inr ⟨⟨entry, get?_collect_self shows shown, events, List.prefix_refl _, shows⟩, ?_⟩
      intro other member
      exact (apart other member).1.symm
    · exact .inl later
  · refine ⟨distinct.tail, .inr ⟨⟨held, ?_, moment⟩, fun other member => others other (.tail _ member)⟩⟩
    rw [get?_collect_of_ne (others first (.head _))]
    exact found

/-- Snapshots of a later revision than `since` hold what the slot of a component showed in a run, or
are still to come by it. -/
structure Caught (engine : Engine) (identity : Identity) (since : Nat) (events : List Event) :
    Prop where
  published : since < (engine.run events).published.revision →
    engine.Holds identity events (engine.run events).published.components
  collecting : ∀ id pending revision rest shown, (engine.run events).calls.get? id =
      some (.publishing pending (.collecting revision rest shown)) → since < revision →
    engine.Catches identity events rest shown

/-- While the component is known and its slot shows an entry, every event preserves it. -/
private theorem Caught.concat (caught : engine.Caught identity since events)
    (numbered : (engine.run events).Numbered)
    (known : identity ∈ (engine.run events).registry.list)
    (shows : ((engine.run events).cache.shown? identity).isSome) (event : Event) :
    engine.Caught identity since (events ++ [event]) := by
  obtain ⟨entry, shows⟩ := Option.isSome_iff_exists.mp shows
  have effect := act_effect (engine.run events) event
  have still : since < (engine.run events).published.revision →
      engine.Holds identity (events ++ [event]) (engine.run events).published.components :=
    fun later => (caught.published later).mono
  constructor
  · rw [run_concat]
    generalize (engine.run events).act event = next at effect
    intro later
    cases effect with
    | move moved _ =>
      rw [moved.published] at later ⊢
      exact still later
    | turn _ _ => exact still later
    | collect _ => exact still later
    | publish was =>
      obtain ⟨-, coming | ⟨holds, -⟩⟩ := caught.collecting _ _ _ _ _ was later
      · cases coming
      · exact holds.mono
  · rw [run_concat]
    generalize (engine.run events).act event = next at effect
    intro other pending revision rest shown now later
    cases effect with
    | move moved how =>
      rcases moved.was now with ⟨rfl, rfl⟩ | ⟨-, before⟩
      · exact (caught.collecting _ _ _ _ _ how.collecting later).mono
      · exact (caught.collecting _ _ _ _ _ before later).mono
    | turn _ _ =>
      rw [calls_setCall] at now
      split at now
      · cases now
        exact ⟨numbered.distinct, .inl known⟩
      · exact (caught.collecting _ _ _ _ _ now later).mono
    | collect was =>
      rw [calls_setCall] at now
      split at now
      · cases now
        exact ((caught.collecting _ _ _ _ _ was later).collect shows).mono
      · exact (caught.collecting _ _ _ _ _ now later).mono
    | publish _ =>
      rw [calls_setCall] at now
      split at now
      · cases now
      · exact (caught.collecting _ _ _ _ _ now later).mono

/-- In a run, a component stays registered and its slot stays in the cache. -/
def Stays (engine : Engine) (identity : Identity) (events : List Event) : Prop :=
  ∀ part, part <+: events → identity ∈ (engine.run part).registry.list ∧
    ((engine.run part).cache.slot? identity.path).isSome

private theorem Stays.before (stays : engine.Stays identity (events ++ more)) :
    engine.Stays identity events :=
  fun part inside => stays part (inside.trans (List.prefix_append ..))

/-- A slot that stays goes on showing an entry. -/
private theorem shown_run (shows : engine.cache.Shown identity.path)
    (stays : engine.Stays identity events) : (engine.run events).cache.Shown identity.path := by
  induction events using List.reverseRecOn with
  | nil => exact shows
  | append_singleton events event ih =>
    have there := (stays (events ++ [event]) (List.prefix_refl _)).2
    rw [run_concat] at there ⊢
    exact (act_change _ event).shown (ih stays.before) there

/-- In a run in which the component stays, snapshots catch what its slot shows. -/
private theorem caught_run (numbered : engine.Numbered)
    (shows : engine.cache.Shown identity.path) (stays : engine.Stays identity events)
    (published : engine.published.revision ≤ since)
    (collecting : ∀ id pending revision rest shown, engine.calls.get? id =
      some (.publishing pending (.collecting revision rest shown)) → revision ≤ since) :
    engine.Caught identity since events := by
  induction events using List.reverseRecOn with
  | nil =>
    refine ⟨fun later => absurd later (Nat.not_lt.mpr published), ?_⟩
    intro id pending revision rest shown now later
    exact absurd later (Nat.not_lt.mpr (collecting id pending revision rest shown now))
  | append_singleton events event ih =>
    have known := (stays events (List.prefix_append ..)).1
    have shows := shown?_isSome_iff.mpr (shown_run shows stays.before)
    exact (ih stays.before).concat (numbered.run events) known shows event

end

/-! ## What a call publishes -/

section

variable {bound id : Nat}

/-- How far a call is that waited to publish when a revision was the current one. -/
def Call.Reaches (bound : Nat) (published : Snapshot) : Call → Prop
  | .publishing _ .waiting => True
  | .publishing _ (.collecting revision _ _) => bound ≤ revision
  | .publishing _ (.writing _ _) | .finished _ => bound ≤ published.revision
  | _ => False

/-- A call is about to publish. -/
def Call.waits : Call → Bool
  | .publishing _ .waiting => true
  | _ => false

/-- A call publishes a snapshot of at least a revision, which was reached before. -/
structure Serves (engine : Engine) (bound id : Nat) : Prop where
  reached : bound ≤ engine.cache.revision
  call : ∀ call, engine.calls.get? id = some call → call.Reaches bound engine.published

theorem Serves.of_waits (waits : (engine.calls.get? id).any Call.waits) :
    engine.Serves engine.cache.revision id := by
  refine ⟨Nat.le_refl _, fun call there => ?_⟩
  rw [there, Option.any_some] at waits
  unfold Call.waits at waits
  split at waits
  · trivial
  · cases waits

theorem Serves.published (serves : engine.Serves bound id)
    (ended : (engine.result? id).isSome) : bound ≤ engine.published.revision := by
  obtain ⟨result, done⟩ := Option.isSome_iff_exists.mp ended
  obtain ⟨call, there, result⟩ := Option.bind_eq_some_iff.mp done
  unfold Call.result? at result
  split at result
  · exact serves.call _ there
  · cases result

private theorem Call.Reaches.mono {call : Call} {old new : Snapshot}
    (reaches : call.Reaches bound old) (grows : old.revision ≤ new.revision) :
    call.Reaches bound new := by
  cases call with
  | publishing pending publication =>
    cases publication with
    | writing _ _ => exact Nat.le_trans reaches grows
    | _ => exact reaches
  | finished _ => exact Nat.le_trans reaches grows
  | _ => exact reaches

private theorem serves_setCall {middle : Engine} {call : Call}
    (reached : bound ≤ middle.cache.revision) (reaches : call.Reaches bound middle.published) :
    (middle.setCall id call).Serves bound id := by
  refine ⟨reached, fun call' now => ?_⟩
  rw [calls_setCall, if_pos rfl] at now
  cases now
  exact reaches

private theorem serves_finish {middle : Engine} {result : Except Fault Answer}
    (reached : bound ≤ middle.cache.revision) (published : bound ≤ middle.published.revision) :
    (middle.finish id result).Serves bound id := by
  refine ⟨reached, fun call' now => ?_⟩
  rw [calls_finish, if_pos rfl] at now
  cases now
  exact published

/-- A step takes the call on. -/
private theorem Serves.step (serves : engine.Serves bound id) (index : Nat) (reply : Reply) :
    (engine.step id index reply).Serves bound id := by
  have spec := engine.step_spec id index reply
  generalize engine.step id index reply = next at spec
  cases spec with
  | rest => exact serves
  | reuse _ _ current =>
    rw [deliver_eq]
    exact serves_finish serves.reached (current.2 ▸ serves.reached)
  | turn _ _ _ => exact serves_setCall serves.reached serves.reached
  | collect now =>
    have reaches := serves.call _ now
    exact serves_setCall serves.reached reaches
  | publish now =>
    have reaches := serves.call _ now
    exact serves_setCall serves.reached reaches
  | write now _ =>
    have reaches := serves.call _ now
    exact serves_setCall serves.reached reaches
  | written now _ =>
    have reaches := serves.call _ now
    exact serves_setCall serves.reached reaches
  | failed now _ =>
    have reaches := serves.call _ now
    exact serves_finish serves.reached reaches
  | deliver now =>
    have reaches := serves.call _ now
    rw [deliver_eq]
    exact serves_finish serves.reached reaches
  | get now _ => exact (serves.call _ now).elim
  | forget now => exact (serves.call _ now).elim
  | forgotten now => exact (serves.call _ now).elim
  | removed now => exact (serves.call _ now).elim
  | stubThere now _ => exact (serves.call _ now).elim
  | stubMissing now _ => exact (serves.call _ now).elim
  | stubWrite now _ => exact (serves.call _ now).elim
  | stubWritten now _ => exact (serves.call _ now).elim
  | stubFailed now _ => exact (serves.call _ now).elim

/-- The call that an event is about. -/
def Event.call? : Event → Option Nat
  | .start id _ | .step id _ _ | .drop id => some id
  | _ => none

/-- An event about another call leaves a call where it is. -/
theorem calls_act_of_ne {event : Event} (elsewhere : event.call? ≠ some id) :
    (engine.act event).calls.get? id = engine.calls.get? id := by
  have effect := engine.act_effect event
  generalize engine.act event = next at effect
  cases effect with
  | @move _ _ other call? moved how =>
    rw [moved.calls]
    split
    · next same =>
      subst same
      cases how with
      | rest same _ => exact same
      | _ => exact absurd rfl elsewhere
    · rfl
  | _ =>
    rw [calls_setCall, if_neg]
    rintro rfl
    exact elsewhere rfl

/-- Unless the number is given to another call, every event preserves it. -/
private theorem Serves.act (serves : engine.Serves bound id) (numbered : engine.Numbered)
    {event : Event} (other : ∀ job, event ≠ .start id job) : (engine.act event).Serves bound id := by
  have reached := Nat.le_trans serves.reached
    ((engine.act_change event).revision_le numbered.sound.cache)
  by_cases about : event.call? = some id
  · cases event with
    | start place job =>
      cases about
      exact absurd rfl (other job)
    | step place index reply =>
      cases about
      exact serves.step index reply
    | drop place =>
      cases about
      refine ⟨reached, fun call now => ?_⟩
      rw [Engine.act, calls_drop, if_pos rfl] at now
      cases now
    | _ => cases about
  · refine ⟨reached, fun call now => ?_⟩
    rw [calls_act_of_ne about] at now
    exact (serves.call call now).mono (numbered.precedes_act event).revision

theorem Serves.run (serves : engine.Serves bound id) (numbered : engine.Numbered)
    {events : List Event} (other : ∀ event ∈ events, ∀ job, event ≠ .start id job) :
    (engine.run events).Serves bound id := by
  induction events generalizing engine with
  | nil => exact serves
  | cons event rest ih =>
    exact ih (serves.act numbered (other event (.head _))) (numbered.act event)
      fun later member => other later (.tail _ member)

end

/-! ## Both together -/

/-- An event records an outcome of a component: the revision rises, and behind the event the slot shows
an entry. -/
def Records (engine : Engine) (event : Event) (identity : Identity) : Prop :=
  engine.cache.revision < (engine.act event).cache.revision ∧
    (engine.act event).cache.Shown identity.path

/-- No step of a publication raises the revision. So what is published and what is being taken, when an
outcome is recorded, is of an older revision. -/
private theorem older_of_records (numbered : engine.Numbered) {event : Event} {identity : Identity}
    (records : engine.Records event identity) :
    (engine.act event).published.revision ≤ engine.cache.revision ∧
    ∀ id pending revision rest shown, (engine.act event).calls.get? id =
      some (.publishing pending (.collecting revision rest shown)) →
        revision ≤ engine.cache.revision := by
  have raised := records.1
  have effect := engine.act_effect event
  generalize engine.act event = next at effect raised
  cases effect with
  | move moved how =>
    refine ⟨moved.published ▸ numbered.published, fun id _ _ _ _ now => ?_⟩
    rcases moved.was now with ⟨rfl, rfl⟩ | ⟨-, before⟩
    · exact (numbered.collecting _ _ _ _ _ how.collecting).2
    · exact (numbered.collecting _ _ _ _ _ before).2
  | _ => exact absurd raised (Nat.lt_irrefl _)

/-- Snapshots are published in their order and never ahead of the cache. If an outcome was recorded of
a component that stays, then from the end of any call on that began to publish behind that, the
published snapshot shows this outcome or a later one. -/
theorem published_current (created : engine.Created) :
    (∀ events more,
      (engine.run events).published.Precedes (engine.run (events ++ more)).published ∧
      (engine.run events).published.revision ≤ (engine.run events).cache.revision) ∧
    ∀ before event identity, (engine.run before).Records event identity →
      ∀ wait during after id,
        let recorded := engine.run (before ++ [event])
        recorded.Stays identity (wait ++ during ++ after) →
        ((recorded.run wait).calls.get? id).any Call.waits →
        (∀ event ∈ during, ∀ job, event ≠ .start id job) →
        ((recorded.run (wait ++ during)).result? id).isSome →
        ∃ entry, (recorded.run (wait ++ during ++ after)).published.get? identity.name = some entry ∧
          entry.identity = identity ∧ recorded.ShownIn identity (wait ++ during ++ after) entry := by
  constructor
  · intro events more
    have numbered := created.numbered.run events
    rw [run_append]
    exact ⟨numbered.precedes_run more, numbered.published⟩
  · intro before event identity records wait during after id recorded stays waits other ended
    have earlier := created.numbered.run before
    have numbered : recorded.Numbered := created.numbered.run (before ++ [event])
    have now : recorded = (engine.run before).act event := run_concat engine before event
    obtain ⟨older, collecting⟩ := older_of_records earlier records
    rw [← now] at older collecting
    have shows : recorded.cache.Shown identity.path := now ▸ records.2
    have caught := caught_run numbered shows stays older collecting
    -- The call began to publish at a later revision than the outcome was recorded at.
    have risen : (engine.run before).cache.revision < (recorded.run wait).cache.revision := by
      have raised : (engine.run before).cache.revision < recorded.cache.revision := now ▸ records.1
      exact Nat.lt_of_lt_of_le raised (numbered.revision_le_run wait)
    have served : (recorded.run wait).cache.revision ≤
        (recorded.run (wait ++ during)).published.revision := by
      have serves := (Serves.of_waits waits).run (numbered.run wait) other
      rw [← run_append] at serves
      exact serves.published ended
    have kept : (recorded.run (wait ++ during)).published.revision ≤
        (recorded.run (wait ++ during ++ after)).published.revision := by
      rw [run_append recorded (wait ++ during) after]
      exact ((numbered.run (wait ++ during)).precedes_run after).revision
    obtain ⟨entry, found, shown⟩ := caught.published (by omega)
    obtain ⟨part, inside, shows⟩ := shown
    exact ⟨entry, found, (shown?_eq_some shows).1, part, inside, shows⟩

/-- A component is registered and analyzed. The snapshot of the registering call comes by it before its
outcome is recorded. -/
def overtaken : List Event :=
  [.start 0 (.sync [⟨"Card", ⟨"/Card.vue"⟩, false⟩]), .start 1 (.parse ⟨"Card", ⟨"/Card.vue"⟩, false⟩),
    .step 1 0 (.text (.ok "")), .step 1 0 .nothing, .step 1 0 .nothing,
    .step 1 0 (.answered (.failed (.parse "")) 0), .step 0 0 .nothing, .step 0 0 .nothing,
    .step 0 0 .nothing]

/-- The registering call publishes, and behind it the one that analyzed the component. -/
def inTurn : List Event :=
  [.step 0 0 .nothing, .step 0 0 .nothing, .step 1 0 .nothing, .step 1 0 .nothing, .step 1 0 .nothing,
    .step 1 0 .nothing]

/-- The call that analyzed the component publishes its outcome, which the snapshot before missed. -/
theorem published_current_overtaken :
    ∃ entry, ((bareEngine.run (overtaken ++ [.step 1 0 .nothing])).run
        ([.step 1 0 .nothing] ++ inTurn ++ [.invalidateAll])).published.get? "Card" = some entry ∧
      entry.identity = ⟨"Card", ⟨"/Card.vue"⟩, false⟩ ∧
      (bareEngine.run (overtaken ++ [.step 1 0 .nothing])).ShownIn ⟨"Card", ⟨"/Card.vue"⟩, false⟩
        ([.step 1 0 .nothing] ++ inTurn ++ [.invalidateAll]) entry := by
  have created : bareEngine.Created := ⟨_, _, _, _, _, rfl⟩
  have records : (bareEngine.run overtaken).Records (.step 1 0 .nothing)
      ⟨"Card", ⟨"/Card.vue"⟩, false⟩ := ⟨by decide +kernel, by unfold Shown; decide +kernel⟩
  have each : ∀ part ∈ ([.step 1 0 .nothing] ++ inTurn ++ [.invalidateAll] : List Event).inits,
      (⟨"Card", ⟨"/Card.vue"⟩, false⟩ : Identity) ∈
        ((bareEngine.run (overtaken ++ [.step 1 0 .nothing])).run part).registry.list ∧
      (((bareEngine.run (overtaken ++ [.step 1 0 .nothing])).run part).cache.slot?
        ⟨"/Card.vue"⟩).isSome := by decide +kernel
  refine (published_current created).2 overtaken (.step 1 0 .nothing) _ records
    [.step 1 0 .nothing] inTurn [.invalidateAll] 1 ?_ (by decide +kernel) ?_ (by decide +kernel)
  · exact fun part inside => each part ((List.mem_inits ..).mpr inside)
  · simp [inTurn]

end Engine

end ComponentCatalog
