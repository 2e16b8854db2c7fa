import ComponentCatalog.Proofs.Engine.Repeated

/-! # How published statuses go out of date

While the revision stays, entries stay, and the fingerprint for which an entry holds can only be taken
away. So what a snapshot of the present revision shows of a component is how the component stands, unless
it was pending then, or what held of it was invalidated since: neither is counted by the revision.
-/

namespace ComponentCatalog

open Component

namespace Engine

open Cache

/-! ## Slots while the revision stays -/

/-- An event takes away what holds at a path. -/
def Invalidates (path : Path) (engine : Engine) : Event → Prop
  | .invalidate other => other.parts = path.parts
  | .invalidateAll => True
  | .start _ (.changed other) => (engine.registry.get? other).isSome ∧ other.parts = path.parts
  | _ => False

/-- An event leaves what holds at a path. -/
def Retains (path : Path) (engine : Engine) (event : Event) : Prop := ¬ engine.Invalidates path event

/-- A slot keeps its entry, and the fingerprint for which it holds unless that was taken away. -/
structure Fades (taken : Prop) (slot next : Slot) : Prop where
  last : next.last? = slot.last?
  kept : ¬ taken → next.fingerprint? = slot.fingerprint?
  gone : taken → next.fingerprint? = none

variable {engine : Engine} {path : Path}

theorem Fades.rest (slot : Slot) : Fades False slot slot := ⟨rfl, fun _ => rfl, False.elim⟩

theorem Fades.of_slots {taken : Prop} (never : ¬ taken) {slot next : Slot}
    (same : next.last? = slot.last? ∧ next.fingerprint? = slot.fingerprint?) : Fades taken slot next :=
  ⟨same.1, fun _ => same.2, fun is => absurd is never⟩

theorem Fades.invalidate (path other : Path) (cache : Cache) :
    Fades (other.parts = path.parts) (cache.slot path) ((cache.invalidate other).slot path) := by
  rw [slot_invalidate]
  by_cases here : other.parts = path.parts
  · rw [if_pos here]
    exact ⟨rfl, fun apart => absurd here apart, fun _ => rfl⟩
  · rw [if_neg here]
    exact ⟨rfl, fun _ => rfl, fun is => absurd is here⟩

private theorem fades_step {id index : Nat} {reply : Reply}
    (same : (engine.step id index reply).cache.revision = engine.cache.revision) (path : Path) :
    Fades False (engine.cache.slot path) ((engine.step id index reply).cache.slot path) := by
  have spec := engine.step_spec id index reply
  generalize engine.step id index reply = next at spec same
  cases spec with
  | @get goal gets get _ _ =>
    rw [cache_withGets] at same ⊢
    exact .of_slots not_false ((get.step_transition ..).same_entry same path)
  | forget _ =>
    have kept := remove_of_same_revision same
    exact .of_slots not_false (by simp only [cache_setCall, changeCache, kept, and_self])
  | reuse _ _ _ =>
    rw [deliver_eq]
    exact .rest _
  | deliver _ =>
    rw [deliver_eq]
    exact .rest _
  | _ => exact .rest _

private theorem fades_start (id : Nat) (job : Job) (path : Path) :
    Fades (engine.Invalidates path (.start id job)) (engine.cache.slot path)
      ((engine.start id job).cache.slot path) := by
  have quiet : ∀ {job : Job}, (engine.start id job).cache.slots = engine.cache.slots →
      ¬ engine.Invalidates path (.start id job) →
      Fades (engine.Invalidates path (.start id job)) (engine.cache.slot path)
        ((engine.start id job).cache.slot path) := by
    intro job slots never
    exact .of_slots never (by simp only [Cache.slot, slot?, slots, and_self])
  cases job with
  | changed other =>
    simp only [Engine.start, Invalidates]
    split
    · next identity known =>
      rw [cache_withGets]
      simpa [known, changeCache] using Fades.invalidate path other engine.cache
    · next unknown =>
      refine .of_slots (fun is => ?_) ⟨rfl, rfl⟩
      simp [unknown] at is
  | sync descriptors =>
    refine quiet ?_ not_false
    simp only [Engine.start, cache_withDiff, foldl_tell]
  | parseNamed name =>
    refine quiet ?_ not_false
    simp only [Engine.start]
    split
    · rw [cache_withGets]
    · rfl
  | stub =>
    refine quiet ?_ not_false
    simp only [Engine.start]
    split <;> rfl
  | _ => exact quiet (by simp only [Engine.start, cache_withGets, cache_setCall]) not_false

/-- While the revision stays, every event leaves the entries, and takes away what it says. -/
theorem fades_act {event : Event}
    (same : (engine.act event).cache.revision = engine.cache.revision) (path : Path) :
    Fades (engine.Invalidates path event) (engine.cache.slot path)
      ((engine.act event).cache.slot path) := by
  cases event with
  | start id job => exact fades_start id job path
  | step id index reply => exact fades_step same path
  | drop id => exact .rest _
  | invalidate other => exact .invalidate path other engine.cache
  | invalidateAll =>
    rw [Engine.act, changeCache, slot_invalidateAll]
    exact ⟨rfl, fun never => absurd trivial never, fun _ => rfl⟩
  | takeNotices => exact .rest _

/-- While the revision stays, a slot keeps its entry, and what holds of it until that is invalidated. -/
theorem Numbered.fades_run (numbered : engine.Numbered) {events : List Event}
    (same : (engine.run events).cache.revision = engine.cache.revision) (path : Path) :
    Fades (¬ Follows Engine.act (Retains path) engine events) (engine.cache.slot path)
      ((engine.run events).cache.slot path) := by
  induction events generalizing engine with
  | nil => exact .of_slots (fun ends => ends trivial) ⟨rfl, rfl⟩
  | cons event rest ih =>
    have before := (engine.act_change event).revision_le numbered.sound.cache
    have behind := (numbered.act event).revision_le_run rest
    have stays : (engine.act event).cache.revision = engine.cache.revision :=
      Nat.le_antisymm (Nat.le_trans behind (Nat.le_of_eq same)) before
    have first := fades_act stays path
    have later := ih (numbered.act event) (same.trans stays.symm)
    refine ⟨later.last.trans first.last, fun spared => ?_, fun taken => ?_⟩
    · obtain ⟨spares, follows⟩ := not_not.mp spared
      exact (later.kept (not_not.mpr follows)).trans (first.kept spares)
    · by_cases follows : Follows Engine.act (Retains path) (engine.act event) rest
      · have invalidates : engine.Invalidates path event :=
          not_not.mp fun spares => taken ⟨spares, follows⟩
        exact (later.kept (not_not.mpr follows)).trans (first.gone invalidates)
      · exact later.gone follows

/-! ## Where the published snapshot was taken -/

/-- A call that goes on with its snapshot goes on with its revision. -/
private theorem Effect.revision_collecting {next : Engine} {event : Event} {id : Nat}
    {pending pending' : Pending} {revision revision' : Nat} {rest rest' : List Identity}
    {shown shown' : Table String SnapshotEntry} (effect : engine.Effect event next)
    (was : engine.calls.get? id = some (.publishing pending (.collecting revision rest shown)))
    (now : next.calls.get? id = some (.publishing pending' (.collecting revision' rest' shown'))) :
    revision' = revision := by
  cases effect with
  | move moved how =>
    rcases moved.was now with ⟨rfl, rfl⟩ | ⟨-, before⟩
    · cases was.symm.trans how.collecting
      rfl
    · cases was.symm.trans before
      rfl
  | turn waiting _ =>
    rw [calls_setCall] at now
    split at now
    · next here =>
      subst here
      cases was.symm.trans waiting
    · cases was.symm.trans now
      rfl
  | collect before =>
    rw [calls_setCall] at now
    split at now
    · next here =>
      subst here
      cases was.symm.trans before
      cases now
      rfl
    · cases was.symm.trans now
      rfl
  | publish _ =>
    rw [calls_setCall] at now
    split at now
    · cases now
    · cases was.symm.trans now
      rfl

/-- The revision of a snapshot was reached when it came by a component. -/
private theorem Found.revision_le {events before : List Event} {id : Nat} {entry : SnapshotEntry}
    (numbered : engine.Numbered) (found : engine.Found events before id entry) {pending : Pending}
    {revision : Nat} {rest : List Identity} {shown : Table String SnapshotEntry}
    (now : (engine.run events).calls.get? id =
      some (.publishing pending (.collecting revision rest shown))) :
    revision ≤ (engine.run before).cache.revision := by
  obtain ⟨index, reply, after, rfl, ⟨pending', revision', rest', shown', comes⟩, -, since⟩ := found
  have earlier := ((numbered.run before).collecting id _ _ _ _ comes).2
  have along : ∀ part, part <+: after → ∀ pending revision rest shown,
      (engine.run (before ++ .step id index reply :: part)).calls.get? id =
        some (.publishing pending (.collecting revision rest shown)) → revision = revision' := by
    intro part
    induction part using List.reverseRecOn with
    | nil =>
      intro _ pending revision rest shown now
      have effect := act_effect (engine.run before) (.step id index reply)
      rw [← run_concat] at effect
      exact effect.revision_collecting comes now
    | append_singleton part event ih =>
      intro inside pending revision rest shown now
      have inside' : part <+: after := (List.prefix_append ..).trans inside
      obtain ⟨_, middle, _, _, was⟩ := since part inside'
      have effect := act_effect (engine.run (before ++ .step id index reply :: part)) event
      rw [← run_concat, List.append_assoc, List.cons_append] at effect
      exact (effect.revision_collecting was now).trans (ih inside' _ _ _ _ was)
  exact (along after (List.prefix_refl _) _ _ _ _ now) ▸ earlier

/-- The revision of the published snapshot was reached when it came by a component. -/
theorem PublishedFrom.revision_le (numbered : engine.Numbered) {events before : List Event}
    {entry : SnapshotEntry} (from_ : engine.PublishedFrom events before entry) :
    (engine.run events).published.revision ≤ (engine.run before).cache.revision := by
  obtain ⟨during, id, index, reply, after, pending, revision, -, found, through, published⟩ := from_
  have taken : (engine.run (during ++ [.step id index reply])).published.revision = revision := by
    rw [run_concat]
    simp [Engine.act, Engine.step, through, stepCollect]
  rw [← published, taken]
  exact found.revision_le numbered through

/-- The run goes on behind where the published snapshot came by a component. -/
theorem PublishedFrom.exists_after {events before : List Event} {entry : SnapshotEntry}
    (from_ : engine.PublishedFrom events before entry) : ∃ after, events = before ++ after := by
  obtain ⟨_, id, index, reply, after, _, _, rfl, ⟨index', reply', between, rfl, -⟩, -⟩ := from_
  exact ⟨.step id index' reply' :: between ++ .step id index reply :: after, by simp⟩

/-- While the published snapshot is of the present revision, the slot of a component that it shows has
faded at most, since the snapshot came by. -/
theorem fades_of_published (created : engine.Created) {events : List Event}
    (current : (engine.run events).published.revision = (engine.run events).cache.revision)
    {item : String × SnapshotEntry} (member : item ∈ (engine.run events).published.components) :
    ∃ before after, events = before ++ after ∧ engine.PublishedFrom events before item.2 ∧
      Fades (¬ Follows act (Retains item.2.identity.path) (engine.run before) after)
        ((engine.run before).cache.slot item.2.identity.path)
        ((engine.run events).cache.slot item.2.identity.path) := by
  obtain ⟨before, from_⟩ := publishedFrom_of_mem created events member
  obtain ⟨after, rfl⟩ := from_.exists_after
  have numbered := created.numbered.run before
  have same : ((engine.run before).run after).cache.revision =
      (engine.run before).cache.revision := by
    refine Nat.le_antisymm ?_ (numbered.revision_le_run after)
    rw [← run_append, ← current]
    exact from_.revision_le created.numbered
  refine ⟨before, after, rfl, from_, ?_⟩
  rw [run_append]
  exact numbered.fades_run same _

/-! ## Statuses -/

/-- A component that is shown stands as it was shown, once nothing is on its way, unless it was pending
then, or what held of it was taken away since. -/
private theorem Fades.status_eq_iff {taken : Prop} {slot next : Slot} (fades : Fades taken slot next)
    (landed : next.inFlight? = none) (ended : slot.last?.isSome) :
    next.status = slot.status ↔
      slot.status ≠ .pending ∧ (slot.status = .stale ∨ ¬ taken) := by
  obtain ⟨last, there⟩ := Option.isSome_iff_exists.mp ended
  obtain ⟨fingerprint?, last?, inFlight?⟩ := slot
  obtain ⟨fingerprint?', last?', inFlight?'⟩ := next
  obtain ⟨rfl, kept, gone⟩ := fades
  obtain rfl : inFlight?' = none := landed
  obtain rfl : last?' = some last := there
  obtain ⟨identity, of?, outcome⟩ := last
  by_cases is : taken
  · obtain rfl : fingerprint?' = none := gone is
    cases inFlight? <;> cases fingerprint? <;> cases outcome <;> simp [Slot.status, is]
  · obtain rfl : fingerprint?' = fingerprint? := kept is
    cases inFlight? <;> cases fingerprint?' <;> cases outcome <;> simp [Slot.status, is]

/-- From the end of any call on that published, the published snapshot is of the revision that was the
present one when the call set about publishing, or of a later one. While it is of the present revision and
no analysis is on its way, a component stands as the snapshot shows it, unless it was pending when the
snapshot came by it, or what held of it was invalidated since. -/
theorem published_status_iff (created : engine.Created) :
    (∀ wait during id, ((engine.run wait).calls.get? id).any Call.waits →
      (∀ event ∈ during, ∀ job, event ≠ .start id job) →
      ((engine.run (wait ++ during)).result? id).isSome →
      let after := engine.run (wait ++ during)
      after.published.revision = after.cache.revision ∨
        (engine.run wait).cache.revision < after.cache.revision) ∧
    ∀ events, (engine.run events).published.revision = (engine.run events).cache.revision →
      (∀ path, ((engine.run events).cache.slot path).inFlight? = none) →
      ∀ item ∈ (engine.run events).published.components, ∃ before after, events = before ++ after ∧
        engine.PublishedFrom events before item.2 ∧
        ((engine.run events).cache.status item.2.identity.path = item.2.status ↔
          item.2.status ≠ .pending ∧ (item.2.status = .stale ∨
            Follows act (Retains item.2.identity.path) (engine.run before) after)) := by
  constructor
  · intro wait during id waits other ended after
    have numbered := created.numbered.run wait
    have serves := (Serves.of_waits waits).run numbered other
    rw [← run_append] at serves
    have reached := serves.published ended
    have bound := (created.numbered.run (wait ++ during)).published
    rcases Nat.lt_or_ge (engine.run wait).cache.revision after.cache.revision with later | same
    · exact .inr later
    · exact .inl (Nat.le_antisymm bound (Nat.le_trans same reached))
  · intro events current landed item member
    obtain ⟨before, after, rfl, from_, fades⟩ := fades_of_published created current member
    obtain ⟨-, slot, present, ended, status⟩ := shown?_eq_some from_.shown
    rw [slot_eq _ present] at fades
    refine ⟨before, after, rfl, from_, ?_⟩
    rw [status, Cache.status, fades.status_eq_iff (landed _) ended, not_not]

/-- Both components are got and published, and one of them is invalidated. The other one is parsed again,
and what is known of it is about to be published. -/
def reparsing : List Event :=
  pairing ++ .start 1 .parseAll :: pairGot ++
    [.invalidate ⟨"/Card.vue"⟩, .start 2 (.parse ⟨"Menu", ⟨"/Menu.vue"⟩, false⟩),
      .step 2 0 (.text (.ok "")), .step 2 0 .nothing]

/-- It is published. -/
def reparsed : List Event := reparsing ++ [.step 2 0 .nothing]

private theorem created_bareEngine' : bareEngine.Created := ⟨_, _, _, _, _, rfl⟩

private theorem landed_reparsed (path : Path) :
    ((bareEngine.run reparsed).cache.slot path).inFlight? = none := by
  have all : ∀ entry ∈ (bareEngine.run reparsed).cache.slots, entry.2.inFlight?.isNone := by
    decide +kernel
  cases present : (bareEngine.run reparsed).cache.slot? path with
  | none => simp [Cache.slot, present]
  | some slot =>
    rw [slot_eq _ present]
    exact Option.isNone_iff_eq_none.mp (all _ (Table.mem_of_get? present))

private theorem statuses_reparsed : (bareEngine.run reparsed).published.components.map (fun item =>
    (item.2.status, (bareEngine.run reparsed).cache.status item.2.identity.path)) =
      [(.error, .stale), (.resolved, .resolved)] := by decide +kernel

/-- The one that was invalidated does not stand as it is published, and the other one does. -/
theorem published_status_iff_reparsed :
    (bareEngine.run reparsed).published.components.map (fun item =>
      (item.2.status, (bareEngine.run reparsed).cache.status item.2.identity.path)) =
        [(.error, .stale), (.resolved, .resolved)] ∧
    ∀ item ∈ (bareEngine.run reparsed).published.components, ∃ before after,
      reparsed = before ++ after ∧ bareEngine.PublishedFrom reparsed before item.2 ∧
      ((bareEngine.run reparsed).cache.status item.2.identity.path = item.2.status ↔
        item.2.status ≠ .pending ∧ (item.2.status = .stale ∨
          Follows act (Retains item.2.identity.path) (bareEngine.run before) after)) :=
  ⟨statuses_reparsed, (published_status_iff created_bareEngine').2 reparsed (by decide +kernel)
    landed_reparsed⟩

/-- When a call has just published, a component can stand otherwise than it is published. -/
theorem published_unlike_status :
    ¬ ∀ engine : Engine, engine.Created → ∀ wait during id,
      ((engine.run wait).calls.get? id).any Call.waits →
      (∀ event ∈ during, ∀ job, event ≠ .start id job) →
      ((engine.run (wait ++ during)).result? id).any (·.toOption.isSome) →
      (engine.run (wait ++ during)).Idle →
      (∀ path, ((engine.run (wait ++ during)).cache.slot path).inFlight? = none) →
      ∀ item ∈ (engine.run (wait ++ during)).published.components,
        (engine.run (wait ++ during)).cache.status item.2.identity.path = item.2.status := by
  intro always
  have same := always bareEngine created_bareEngine' reparsing [.step 2 0 .nothing] 2
    (by decide +kernel) (by simp) (by decide +kernel) (idle_of_all (by decide +kernel))
    landed_reparsed
  have differs : (.error, .stale) ∈ (bareEngine.run reparsed).published.components.map (fun item =>
      (item.2.status, (bareEngine.run reparsed).cache.status item.2.identity.path)) := by
    rw [statuses_reparsed]
    exact List.mem_cons_self
  obtain ⟨item, member, pair⟩ := List.mem_map.mp differs
  obtain ⟨published, stands⟩ := Prod.mk.inj pair
  exact absurd ((stands.symm.trans (same item member)).trans published) (by decide)

end Engine

end ComponentCatalog
