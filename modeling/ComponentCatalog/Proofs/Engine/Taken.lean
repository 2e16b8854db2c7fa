import ComponentCatalog.Proofs.Engine.Current
import ComponentCatalog.Proofs.Engine.Snapshot

/-! # What a snapshot is taken of

Slots stand under paths, in no order that matters, and a snapshot has its components under their names.
The names of the registered components differ, so no entry takes the place of another: a snapshot shows
the registered components that an analysis of came to an end, all of them, in the order of the registry.
That order is kept while other calls go on, component by component.
-/

namespace ComponentCatalog

open Component

namespace Cache

/-- What a snapshot shows of a component is the status of its slot and the last outcome. -/
theorem shown?_eq_some_iff {cache : Cache} {identity : Identity} {entry : SnapshotEntry} :
    cache.shown? identity = some entry ↔
      ∃ slot last, cache.slot? identity.path = some slot ∧ slot.last? = some last ∧
        entry = ⟨identity, slot.status, last.outcome⟩ := by
  simp only [shown?, bind, Option.bind_eq_some_iff, pure, Option.some.injEq, exists_and_left,
    eq_comm (a := entry)]

/-- What a snapshot has under the name of a component. -/
def item? (cache : Cache) (identity : Identity) : Option (String × SnapshotEntry) :=
  (cache.shown? identity).map (identity.name, ·)

/-- A component whose name is new comes behind the others. -/
theorem collect_of_new (cache : Cache) {shown : Table String SnapshotEntry} {identity : Identity}
    (new : shown.get? identity.name = none) :
    cache.collect shown identity = shown ++ (cache.item? identity).toList := by
  unfold collect item?
  cases cache.shown? identity with
  | none => simp
  | some entry => simp [Table.set_of_new new]

/-- Components with different names come behind each other, and none takes the place of another. -/
theorem foldl_collect (cache : Cache) {identities : List Identity} {before : Table String SnapshotEntry}
    (distinct : (identities.map Identity.name).Nodup)
    (new : ∀ identity ∈ identities, before.get? identity.name = none) :
    identities.foldl cache.collect before = before ++ identities.filterMap cache.item? := by
  induction identities generalizing before with
  | nil => simp
  | cons first rest ih =>
    rw [List.map_cons, List.nodup_cons] at distinct
    have others : ∀ identity ∈ rest, (cache.collect before first).get? identity.name = none := by
      intro identity member
      have apart : first.name ≠ identity.name := fun same =>
        distinct.1 (same ▸ List.mem_map_of_mem member)
      rw [get?_collect_of_ne apart]
      exact new identity (.tail _ member)
    rw [List.foldl_cons, ih distinct.2 others, collect_of_new cache (new first (.head _)),
      List.filterMap_cons, List.append_assoc]
    cases cache.item? first <;> rfl

/-- The components that a snapshot shows. -/
theorem identities_filterMap (cache : Cache) (identities : List Identity) :
    (identities.filterMap cache.item?).map (·.2.identity) =
      identities.filter fun identity => (cache.slot identity.path).last?.isSome := by
  rw [← List.filterMap_eq_filter, List.map_filterMap]
  refine List.filterMap_congr fun identity _ => ?_
  have shows : (cache.shown? identity).isSome = (cache.slot identity.path).last?.isSome :=
    Bool.eq_iff_iff.mpr shown?_isSome_iff
  rw [Option.guard, ← shows, item?, Option.map_map]
  cases shown : cache.shown? identity with
  | none => rfl
  | some entry => simp [(shown?_eq_some shown).1]

end Cache

namespace Engine

open Cache

variable {engine : Engine}

/-- A call that has to come by the last components of its snapshot, and takes its steps undisturbed,
publishes what it has and what the cache shows of them. -/
theorem published_steps_collecting {id : Nat} {pending : Pending} {revision : Nat} {rest : List Identity}
    {shown : Table String SnapshotEntry} {replies : List (Nat × Reply)}
    (now : engine.calls.get? id = some (.publishing pending (.collecting revision rest shown)))
    (enough : replies.length = rest.length + 1) :
    (engine.steps id replies).published =
      ⟨engine.cache.generation + 1, revision, rest.foldl engine.cache.collect shown⟩ := by
  induction rest generalizing engine shown replies with
  | nil =>
    obtain ⟨reply, rfl⟩ := List.length_eq_one_iff.mp enough
    simp only [steps, List.foldl_cons, List.foldl_nil, step, now, stepCollect]
    rfl
  | cons identity rest ih =>
    obtain ⟨reply, replies, rfl⟩ := List.exists_cons_of_length_eq_add_one enough
    have stepped : engine.step id reply.1 reply.2 = engine.setCall id
        (.publishing pending (.collecting revision rest (engine.cache.collect shown identity))) := by
      simp only [step, now, stepCollect]
    rw [steps, List.foldl_cons, stepped]
    exact ih ((calls_setCall ..).trans (if_pos rfl)) (Nat.succ.inj enough)

private theorem exists_of_waits {id : Nat} (waits : (engine.calls.get? id).any Call.waits) :
    ∃ pending, engine.calls.get? id = some (.publishing pending .waiting) := by
  cases there : engine.calls.get? id with
  | none => simp [there] at waits
  | some call =>
    rw [there, Option.any_some] at waits
    unfold Call.waits at waits
    split at waits
    · exact ⟨_, rfl⟩
    · cases waits

/-- A call whose turn it is to publish, and that finds something changed, publishes what a snapshot shows
at that moment, if nothing disturbs it. -/
theorem published_steps_waiting {id : Nat} {replies : List (Nat × Reply)}
    (waits : (engine.calls.get? id).any Call.waits) (turn : engine.publisher? = none)
    (outdated : ¬ (engine.published.isStub = false ∧ engine.published.revision = engine.cache.revision))
    (enough : replies.length = engine.registry.list.length + 2) :
    (engine.steps id replies).published = engine.takeSnapshot.2 := by
  obtain ⟨pending, waits⟩ := exists_of_waits waits
  obtain ⟨reply, replies, rfl⟩ := List.exists_cons_of_length_eq_add_one enough
  have changed : (!engine.published.isStub && engine.published.revision == engine.cache.revision) =
      false := by simpa using outdated
  have stepped : engine.step id reply.1 reply.2 =
      { engine with publisher? := some id }.setCall id (.publishing pending
        (.collecting engine.cache.revision engine.registry.list [])) := by
    simp [step, waits, turn, stepTurn, changed]
  rw [steps, List.foldl_cons, stepped]
  exact published_steps_collecting ((calls_setCall ..).trans (if_pos rfl)) (Nat.succ.inj enough)

theorem components_takeSnapshot (distinct : (engine.registry.list.map Identity.name).Nodup) :
    engine.takeSnapshot.2.components = engine.registry.list.filterMap engine.cache.item? :=
  (foldl_collect engine.cache distinct fun _ _ => rfl).trans (List.nil_append _)

/-- The components that a snapshot shows, in their order. -/
theorem identities_takeSnapshot (distinct : (engine.registry.list.map Identity.name).Nodup) :
    engine.takeSnapshot.2.components.map (·.2.identity) =
      engine.registry.list.filter fun identity => (engine.cache.slot identity.path).last?.isSome := by
  rw [components_takeSnapshot distinct, identities_filterMap]

/-- What a snapshot shows, and under which name. -/
theorem mem_takeSnapshot (distinct : (engine.registry.list.map Identity.name).Nodup) {name : String}
    {entry : SnapshotEntry} :
    (name, entry) ∈ engine.takeSnapshot.2.components ↔
      ∃ identity ∈ engine.registry.list, ∃ slot last, engine.cache.slot? identity.path = some slot ∧
        slot.last? = some last ∧ name = identity.name ∧
        entry = ⟨identity, slot.status, last.outcome⟩ := by
  rw [components_takeSnapshot distinct, List.mem_filterMap]
  refine exists_congr fun identity => and_congr_right fun _ => ?_
  simp only [item?, Option.map_eq_some_iff, shown?_eq_some_iff, Prod.mk.injEq]
  constructor
  · rintro ⟨_, ⟨slot, last, there, ended, rfl⟩, rfl, rfl⟩
    exact ⟨slot, last, there, ended, rfl, rfl⟩
  · rintro ⟨slot, last, there, ended, rfl, rfl⟩
    exact ⟨_, ⟨slot, last, there, ended, rfl⟩, rfl, rfl⟩

/-- No two components of a snapshot share a name. -/
theorem nodup_takeSnapshot (distinct : (engine.registry.list.map Identity.name).Nodup) :
    engine.takeSnapshot.2.names.Nodup := by
  have keys : engine.takeSnapshot.2.names =
      (engine.takeSnapshot.2.components.map (·.2.identity)).map Identity.name := by
    rw [Snapshot.names, List.map_map]
    refine List.map_congr_left fun item member => ?_
    obtain ⟨_, -, _, _, -, -, name, entry⟩ := (mem_takeSnapshot distinct).mp member
    rw [Function.comp_apply, name, entry]
  rw [keys, identities_takeSnapshot distinct]
  exact (List.filter_sublist.map Identity.name).nodup distinct

/-! ## While other calls go on -/

/-- Some components are shown in the order in which they were known at a moment of a run, each under its
name, and the rest of them is still to come. -/
def KeepsOrder (engine : Engine) (events : List Event) (rest : List Identity)
    (shown : Table String SnapshotEntry) : Prop :=
  ∃ before taken, before <+: events ∧ (engine.run before).registry.list = taken ++ rest ∧
    (shown.map (·.2.identity)).Sublist taken ∧ ∀ item ∈ shown, item.1 = item.2.identity.name

private theorem KeepsOrder.concat {events : List Event} {rest : List Identity}
    {shown : Table String SnapshotEntry} (keeps : engine.KeepsOrder events rest shown) (event : Event) :
    engine.KeepsOrder (events ++ [event]) rest shown := by
  obtain ⟨before, taken, inside, list⟩ := keeps
  exact ⟨before, taken, inside.trans (List.prefix_append ..), list⟩

/-- The next component comes behind those that are shown, since none of them has its name. -/
private theorem KeepsOrder.collect (created : engine.Created) {events : List Event} {cache : Cache}
    {identity : Identity} {rest : List Identity} {shown : Table String SnapshotEntry}
    (keeps : engine.KeepsOrder events (identity :: rest) shown) :
    engine.KeepsOrder events rest (cache.collect shown identity) := by
  obtain ⟨before, taken, inside, list, sublist, own⟩ := keeps
  have distinct := (created.numbered.run before).distinct.names
  rw [list, List.map_append, List.map_cons] at distinct
  have new : shown.get? identity.name = none := by
    refine Option.eq_none_iff_forall_ne_some.mpr fun entry found => ?_
    have member := Table.mem_of_get? found
    have earlier : entry.identity ∈ taken := sublist.subset (List.mem_map_of_mem member)
    exact (List.nodup_append.mp distinct).2.2 _ (List.mem_map_of_mem earlier) _
      (List.mem_cons_self ..) (own _ member).symm
  refine ⟨before, taken ++ [identity], inside, by simp [list], ?_⟩
  rw [collect_of_new cache new]
  cases found : cache.item? identity with
  | none => exact ⟨by simpa using sublist.trans (List.sublist_append_left ..), by simpa using own⟩
  | some item =>
    obtain ⟨entry, shows, rfl⟩ := Option.map_eq_some_iff.mp found
    have known : entry.identity = identity := (shown?_eq_some shows).1
    rw [Option.toList_some, List.map_append]
    refine ⟨sublist.append (by simp [known]), List.forall_mem_append.mpr ⟨own, ?_⟩⟩
    exact List.forall_mem_singleton.mpr (congrArg Identity.name known).symm

/-- A snapshot that is being taken keeps the order that the registry had when it began. -/
theorem keepsOrder_of_collecting (created : engine.Created) (events : List Event) {id : Nat}
    {pending : Pending} {revision : Nat} {rest : List Identity} {shown : Table String SnapshotEntry}
    (now : (engine.run events).calls.get? id =
      some (.publishing pending (.collecting revision rest shown))) :
    engine.KeepsOrder events rest shown := by
  induction events using List.reverseRecOn generalizing id pending revision rest shown with
  | nil => cases (created.calls id).symm.trans now
  | append_singleton events event ih =>
    rw [run_concat] at now
    have effect := act_effect (engine.run events) event
    generalize (engine.run events).act event = next at effect now
    cases effect with
    | move moved how =>
      rcases moved.was now with ⟨rfl, rfl⟩ | ⟨-, was⟩
      · exact (ih how.collecting).concat event
      · exact (ih was).concat event
    | turn _ _ =>
      rw [calls_setCall] at now
      split at now
      · cases now
        exact ⟨events, [], List.prefix_append .., rfl, .slnil, by simp⟩
      · exact (ih now).concat _
    | collect was =>
      rw [calls_setCall] at now
      split at now
      · cases now
        exact ((ih was).collect created).concat _
      · exact (ih now).concat _
    | publish _ =>
      rw [calls_setCall] at now
      split at now
      · cases now
      · exact (ih now).concat _

/-- So does the one that is published. -/
theorem keepsOrder_published (created : engine.Created) (events : List Event) :
    engine.KeepsOrder events [] (engine.run events).published.components := by
  induction events using List.reverseRecOn with
  | nil =>
    rw [run, List.foldl_nil, created.published]
    exact ⟨[], _, List.prefix_rfl, (List.append_nil _).symm, List.nil_sublist _, by simp [Snapshot.stub]⟩
  | append_singleton events event ih =>
    have effect := act_effect (engine.run events) event
    rw [← run_concat] at effect
    rcases effect.published with same | ⟨id, index, reply, pending, revision, rfl, through⟩
    · rw [same]
      exact ih.concat event
    · exact (keepsOrder_of_collecting created events through).concat _

/-- Whatever happened to an engine, a snapshot of it shows, in the order of the registry, exactly the
components whose slots hold an outcome, each under its own name with the status of its slot and the last
outcome there. Two histories that leave the same components known and shown give the same order. What a
call publishes whose turn it is, if nobody disturbs it, is this snapshot; and whatever other calls do
meanwhile, what is published keeps the order that the registry had when the snapshot was begun. -/
theorem takeSnapshot_shows (created : engine.Created) (events : List Event) :
    let now := engine.run events
    let components := now.takeSnapshot.2.components
    components.map (·.2.identity) =
      now.registry.list.filter (fun identity => (now.cache.slot identity.path).last?.isSome) ∧
    (components.map Prod.fst).Nodup ∧
    (∀ name entry, (name, entry) ∈ components ↔
      ∃ identity ∈ now.registry.list, ∃ slot last, now.cache.slot? identity.path = some slot ∧
        slot.last? = some last ∧ name = identity.name ∧
        entry = ⟨identity, slot.status, last.outcome⟩) ∧
    (∀ other : Engine, other.Created → ∀ others, (other.run others).registry.list = now.registry.list →
      (∀ identity ∈ now.registry.list,
        (other.run others).cache.Shown identity.path ↔ now.cache.Shown identity.path) →
      (other.run others).takeSnapshot.2.components.map (·.2.identity) =
        components.map (·.2.identity)) ∧
    (∀ id replies, (now.calls.get? id).any Call.waits → now.publisher? = none →
      ¬ (now.published.isStub = false ∧ now.published.revision = now.cache.revision) →
      replies.length = now.registry.list.length + 2 →
      (now.steps id replies).published.components = components) ∧
    ∃ before, before <+: events ∧
      (now.published.components.map (·.2.identity)).Sublist (engine.run before).registry.list := by
  intro now components
  have distinct : (now.registry.list.map Identity.name).Nodup :=
    (created.numbered.run events).distinct.names
  refine ⟨identities_takeSnapshot distinct, nodup_takeSnapshot distinct,
    fun name entry => mem_takeSnapshot distinct, ?_, ?_, ?_⟩
  · intro other born others known alike
    rw [identities_takeSnapshot (born.numbered.run others).distinct.names, known]
    refine Eq.trans (List.filter_congr fun identity member => ?_) (identities_takeSnapshot distinct).symm
    exact Bool.eq_iff_iff.mpr (alike identity member)
  · intro id replies waits turn outdated enough
    exact congrArg Snapshot.components (published_steps_waiting waits turn outdated enough)
  · obtain ⟨before, taken, inside, list, sublist, -⟩ := keepsOrder_published created events
    rw [List.append_nil] at list
    exact ⟨before, inside, list ▸ sublist⟩

/-- Three components are registered. Two of them and one that is not registered cannot be read, in the
order of the paths that are given. -/
def unreadable (paths : List String) : List Event :=
  .start 0 (.sync [⟨"Card", ⟨"/Card.vue"⟩, false⟩, ⟨"Form", ⟨"/Form.vue"⟩, false⟩,
    ⟨"Menu", ⟨"/Menu.vue"⟩, false⟩]) :: (paths.zipIdx 1).flatMap fun (path, id) =>
      [.start id (.parse ⟨"Any", ⟨path⟩, false⟩), .step id 0 (.text (.error .missing))]

/-- The component that came to an end last is shown first, since it was registered first. The one that
was never read and the one that is not registered are not shown. -/
theorem takeSnapshot_shows_unreadable :
    let now := bareEngine.run (unreadable ["/Menu.vue", "/Lone.vue", "/Card.vue"])
    let other := bareEngine.run (unreadable ["/Card.vue", "/Menu.vue"])
    let components := now.takeSnapshot.2.components
    bareEngine.Created ∧
    components.map (·.2.identity) =
      now.registry.list.filter (fun identity => (now.cache.slot identity.path).last?.isSome) ∧
    components.map Prod.fst = ["Card", "Menu"] ∧
    other.takeSnapshot.2.components.map (·.2.identity) = components.map (·.2.identity) ∧
    (now.steps 1 (List.replicate 5 (0, .nothing))).published.components = components := by
  intro now other components
  have created : bareEngine.Created := ⟨_, _, _, _, _, rfl⟩
  obtain ⟨identities, -, -, order, publishes, -⟩ := takeSnapshot_shows created
    (unreadable ["/Menu.vue", "/Lone.vue", "/Card.vue"])
  have known : other.registry.list = now.registry.list := by decide +kernel
  have alike : (now.registry.list.all fun identity =>
      (other.cache.slot identity.path).last?.isSome == (now.cache.slot identity.path).last?.isSome) := by
    decide +kernel
  refine ⟨created, identities, by decide +kernel, order bareEngine created _ known ?_, ?_⟩
  · intro identity member
    exact Bool.eq_iff_iff.mp (beq_iff_eq.mp (List.all_eq_true.mp alike identity member))
  · exact publishes 1 _ (by decide +kernel) (by decide +kernel) (by decide +kernel) (by decide +kernel)

end Engine

end ComponentCatalog
