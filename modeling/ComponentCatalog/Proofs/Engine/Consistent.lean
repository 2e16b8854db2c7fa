import ComponentCatalog.Proofs.Engine.Faded

/-! # Records that agree with their statuses

The status of a record tells from the fingerprint of a slot whether its entry holds, and the metadata or
the failure come from the entry. Once all components were got both agree, except for those whose source
cannot be read: their failure is recorded without a fingerprint, as an entry that holds no longer.
-/

namespace ComponentCatalog

open Component

/-- A published record is resolved and has metadata and no failure, or it is in error and has a failure and
no metadata. -/
def Record.Consistent (record : Record) : Prop :=
  (record.toJson.get? "status" = some (.string Status.resolved.name) ∧
      (record.toJson.get? "meta").isSome ∧ record.toJson.get? "error" = none) ∨
    (record.toJson.get? "status" = some (.string Status.error.name) ∧
      (record.toJson.get? "error").isSome ∧ record.toJson.get? "meta" = none)

theorem Status.name_injective : Function.Injective Status.name := by
  intro status other same
  cases status <;> cases other <;> first | rfl | exact absurd same (by decide)

theorem Record.get?_status (record : Record) :
    record.toJson.get? "status" = some (.string record.status.name) := rfl

theorem Record.get?_meta (record : Record) :
    record.toJson.get? "meta" = match record.outcome with
      | .resolved metadata => some metadata.toJson
      | .failed _ => none := by
  unfold Record.toJson Outcome.entry
  cases record.outcome <;> rfl

theorem Record.get?_error (record : Record) :
    record.toJson.get? "error" = match record.outcome with
      | .resolved _ => none
      | .failed failure => some failure.toJson := by
  unfold Record.toJson Outcome.entry
  cases record.outcome <;> rfl

/-- Whether a record is consistent is a matter of its status and outcome. -/
theorem Record.consistent_iff (record : Record) :
    record.Consistent ↔ record.status = match record.outcome with
      | .resolved _ => .resolved
      | .failed _ => .error := by
  unfold Record.Consistent
  rw [get?_status, get?_meta, get?_error]
  cases record.outcome <;> simp [Status.name_injective.eq_iff]

namespace Engine

open Cache

/-! ## What a slot shows -/

/-- A component is shown consistently exactly if its entry holds and no analysis is on its way. -/
theorem consistent_iff_of_shown {cache : Cache} {identity : Identity} {entry : SnapshotEntry}
    (shown : cache.shown? identity = some entry) (rootDir : Path) (name : String) :
    (Record.ofEntry rootDir name entry).Consistent ↔
      (cache.slot identity.path).inFlight? = none ∧ (cache.slot identity.path).fingerprint?.isSome := by
  obtain ⟨slot, present, shown⟩ := Option.bind_eq_some_iff.mp shown
  obtain ⟨last, ended, shown⟩ := Option.bind_eq_some_iff.mp shown
  cases shown
  rw [slot_eq _ present, Record.consistent_iff]
  obtain ⟨fingerprint?, last?, inFlight?⟩ := slot
  obtain rfl : last? = some last := ended
  obtain ⟨_, _, outcome⟩ := last
  cases inFlight? <;> cases fingerprint? <;> cases outcome <;> simp [Record.ofEntry, Slot.status]

/-- A component that is shown, while no analysis is on its way, with an entry that holds no longer, is
shown as stale. -/
theorem status_eq_stale_of_shown {cache : Cache} {identity : Identity} {entry : SnapshotEntry}
    (shown : cache.shown? identity = some entry)
    (landed : (cache.slot identity.path).inFlight? = none)
    (gone : (cache.slot identity.path).fingerprint? = none) : entry.status = .stale := by
  obtain ⟨-, slot, present, ended, status⟩ := shown?_eq_some shown
  rw [slot_eq _ present] at landed gone
  obtain ⟨last, there⟩ := Option.isSome_iff_exists.mp ended
  rw [status, Slot.status, landed, there, gone]
  rfl

/-- What is shown of a component whose source could not be read. -/
theorem eq_of_shown_unreadable {cache : Cache} {identity : Identity} {entry : SnapshotEntry}
    (shown : cache.shown? identity = some entry) {last : Entry}
    (unread : cache.slot identity.path = .unreadable last) :
    entry = ⟨identity, .stale, last.outcome⟩ := by
  obtain ⟨slot, present, shown⟩ := Option.bind_eq_some_iff.mp shown
  obtain ⟨_, ended, shown⟩ := Option.bind_eq_some_iff.mp shown
  cases shown
  obtain rfl : slot = .unreadable last := (slot_eq _ present).symm.trans unread
  cases ended
  rfl

theorem mem_foldl_collect {cache : Cache} {identities : List Identity}
    {shown : Table String SnapshotEntry} {item : String × SnapshotEntry}
    (member : item ∈ identities.foldl cache.collect shown) :
    item ∈ shown ∨ ∃ identity ∈ identities, cache.shown? identity = some item.2 := by
  induction identities generalizing shown with
  | nil => exact .inl member
  | cons identity rest ih =>
    rcases ih member with collected | ⟨other, among, shows⟩
    · rcases mem_of_mem_collect collected with old | shows
      · exact .inl old
      · exact .inr ⟨identity, List.mem_cons_self, shows⟩
    · exact .inr ⟨other, List.mem_cons_of_mem _ among, shows⟩

variable {source : Path → Except Files.Fault String} {before engine : Engine}

/-- A slot that tells what its source is holds its entry exactly if that can be read. -/
theorem mirrors_holds_iff {cache : Cache} {identity : Identity}
    (mirrors : cache.Mirrors source identity) :
    (cache.slot identity.path).fingerprint?.isSome ↔ (source identity.path).isOk := by
  unfold Mirrors at mirrors
  split at mirrors
  · next text read =>
    obtain ⟨entry, hit⟩ := Option.isSome_iff_exists.mp mirrors
    obtain ⟨holds, -⟩ := Slot.hit?_eq_some hit
    simp [holds, read]
    rfl
  · next fault failed =>
    simp [mirrors, failed, Slot.unreadable]
    rfl

/-! ## Once all components were got -/

/-- A new snapshot shows a component consistently exactly if its source can be read, and as stale with the
failure otherwise. -/
private theorem Refreshed.consistent_iff (refreshed : before.Refreshed source engine)
    {item : String × SnapshotEntry}
    (member : item ∈ before.registry.list.foldl engine.cache.collect []) (rootDir : Path) :
    ((Record.ofEntry rootDir item.1 item.2).Consistent ↔ (source item.2.identity.path).isOk) ∧
      ∀ fault, source item.2.identity.path = .error fault → item.2.status = .stale ∧
        item.2.outcome = (unreadableEntry item.2.identity fault).outcome := by
  rcases mem_foldl_collect member with none | ⟨identity, known, shows⟩
  · cases none
  · have mirrors := refreshed.mirrors identity known
    obtain ⟨same, -⟩ := shown?_eq_some shows
    rw [consistent_iff_of_shown shows, same]
    refine ⟨?_, fun fault failed => ?_⟩
    · rw [← mirrors_holds_iff mirrors]
      exact and_iff_right (refreshed.landed _)
    · simp only [Mirrors, failed] at mirrors
      have eq := eq_of_shown_unreadable shows mirrors
      rw [eq]
      exact ⟨rfl, rfl⟩

/-- The snapshot that was published before will do only if all sources can be read. -/
private theorem Refreshed.readable (refreshed : before.Refreshed source engine)
    (numbered : before.Numbered) (still : before.StillCurrent engine) {identity : Identity}
    (known : identity ∈ before.registry.list) : (source identity.path).isOk := by
  by_contra unread
  have later := refreshed.unread identity known (by simpa using unread)
  have bound := numbered.published
  rw [still.2] at bound
  exact absurd later (Nat.not_lt_of_le bound)

/-- When all components were got, with no other call beside, and a new snapshot is published, then a record
is consistent exactly if its source can be read: otherwise it has the failure, and yet is stale. If the
snapshot of before is published still, then a record can be inconsistent only because it was pending when
that was taken, or because it is of no registered component, and stale. -/
theorem published_consistent_iff {before : Engine} (reached : before.Reached)
    (landed : ∀ path, (before.cache.slot path).inFlight? = none)
    {source : Path → Except Files.Fault String} {id : Nat} {events : List Event}
    (informed : Follows act (Informed source id) (before.start id .parseAll) events)
    {snapshot : Snapshot}
    (answered : ((before.start id .parseAll).run events).snapshot? id = some snapshot) :
    let after := (before.start id .parseAll).run events
    after.published = snapshot ∧ ∀ item ∈ snapshot.components,
      let record := Record.ofEntry after.rootDir item.1 item.2
      (snapshot ≠ before.published → (record.Consistent ↔ (source item.2.identity.path).isOk) ∧
        ∀ fault, source item.2.identity.path = .error fault → record.status = .stale ∧
          record.outcome = (unreadableEntry item.2.identity fault).outcome) ∧
      (snapshot = before.published → ¬ record.Consistent → record.status = .pending ∨
        record.status = .stale ∧
          ∀ identity ∈ after.registry.list, identity.path.parts ≠ item.2.identity.path.parts) := by
  intro after
  have numbered := reached.numbered
  obtain ⟨refreshed, concludes, published⟩ :=
    numbered.sound.refreshed_of_snapshot numbered.distinct landed informed answered
  refine ⟨published, fun item member => ⟨fun new => ?_, fun same inconsistent => ?_⟩⟩
  · have outdated : ¬ before.StillCurrent after := by
      intro still
      exact new (concludes.trans (if_pos still))
    rw [concludes, conclusion, if_neg outdated] at member
    exact refreshed.consistent_iff member _
  · have still : before.StillCurrent after := by
      by_contra outdated
      rw [concludes, conclusion, if_neg outdated] at same
      have bound := numbered.locked.generation
      rw [← same] at bound
      exact absurd bound (Nat.not_succ_le_self _)
    obtain ⟨created, past, first, -, rfl⟩ := reached
    -- The whole run has the published snapshot at its end, which is of the present revision.
    have whole : created.run (past ++ .start id .parseAll :: events) = after := run_append ..
    have current : (created.run (past ++ .start id .parseAll :: events)).published.revision =
        (created.run (past ++ .start id .parseAll :: events)).cache.revision := by
      rw [whole, published, same]
      exact still.2
    have shown : item ∈
        (created.run (past ++ .start id .parseAll :: events)).published.components := by
      rw [whole, published]
      exact member
    obtain ⟨earlier, later, -, from_, fades⟩ := fades_of_published first current shown
    rw [whole] at fades
    by_cases flying : ((created.run earlier).cache.slot item.2.identity.path).inFlight? = none
    · have gone : ((created.run earlier).cache.slot item.2.identity.path).fingerprint? = none := by
        by_contra there
        exact inconsistent ((consistent_iff_of_shown from_.shown ..).mpr
          ⟨flying, Option.isSome_iff_ne_none.mpr there⟩)
      refine .inr ⟨status_eq_stale_of_shown from_.shown flying gone, fun identity known parts => ?_⟩
      have known' : identity ∈ (created.run past).registry.list :=
        registry_informed informed ▸ known
      have holds := (mirrors_holds_iff (refreshed.mirrors identity known')).mpr
        (refreshed.readable numbered still known')
      -- What did not hold then cannot hold now.
      have faded : (after.cache.slot item.2.identity.path).fingerprint? = none :=
        (em _).elim fades.gone fun kept => (fades.kept kept).trans gone
      rw [slot_congr _ parts, faded] at holds
      cases holds
    · obtain ⟨-, slot, present, -, status⟩ := shown?_eq_some from_.shown
      refine .inl (status.trans ((Slot.status_eq_pending_iff slot).mpr ?_))
      rw [← slot_eq _ present]
      exact Option.isSome_iff_ne_none.mpr flying

/-- One component has no source, and the other one cannot be parsed. -/
def halfOutside : Outside :=
  ⟨fun path => if path.text = "/Card.vue" then .error .missing else .ok "",
    fun _ => .failed (.parse "odd")⟩

/-- Both components are got, and published. -/
def halfGot : List Event :=
  ((pairUnder pair.setup).served halfOutside 1
    [0, 1, 1, 1, 1, 1, 1, 1, 1, 1, 1, 0, 0, 0, 0, 0]).map Site.Change.event

private theorem informed_halfGot :
    Follows act (Informed halfOutside.source 1) (pair.start 1 .parseAll) halfGot :=
  Site.follows_events (Site.follows_served halfOutside True 1 (pairUnder pair.setup) _)

private theorem statuses_halfGot :
    (((pair.start 1 .parseAll).run halfGot).snapshot? 1).map (fun snapshot =>
      snapshot.components.map fun item => (item.2.identity.path.text, item.2.status)) =
        some [("/Card.vue", .stale), ("/Menu.vue", .error)] := by decide +kernel

/-- The one without a source is stale, and inconsistent, while the other one is in error. -/
theorem published_consistent_iff_half :
    ∃ snapshot, ((pair.start 1 .parseAll).run halfGot).snapshot? 1 = some snapshot ∧
      snapshot.components.map (fun item => (item.2.identity.path.text, item.2.status)) =
        [("/Card.vue", .stale), ("/Menu.vue", .error)] ∧
      ∀ item ∈ snapshot.components, (Record.ofEntry pair.rootDir item.1 item.2).Consistent ↔
        (halfOutside.source item.2.identity.path).isOk := by
  obtain ⟨snapshot, answered, statuses⟩ := Option.map_eq_some_iff.mp statuses_halfGot
  have all := published_consistent_iff reached_pair landed_pair informed_halfGot answered
  refine ⟨snapshot, answered, statuses, fun item member => ?_⟩
  have fresh : snapshot ≠ pair.published := by
    -- Nothing was published before.
    have none : pair.published.components = [] := List.isEmpty_iff.mp (by decide +kernel)
    rintro rfl
    rw [none] at member
    cases member
  have root : ((pair.start 1 .parseAll).run halfGot).rootDir = pair.rootDir := by decide +kernel
  rw [← root]
  exact ((all.2 item member).1 fresh).1

/-- When all components were got, a published record can be inconsistent. -/
theorem published_inconsistent :
    ¬ ∀ before : Engine, before.Reached → before.Idle →
      (∀ path, (before.cache.slot path).inFlight? = none) → ∀ source id events snapshot,
      Follows act (Informed source id) (before.start id .parseAll) events →
      ((before.start id .parseAll).run events).snapshot? id = some snapshot →
      ∀ item ∈ snapshot.components, (Record.ofEntry before.rootDir item.1 item.2).Consistent := by
  intro always
  obtain ⟨snapshot, answered, statuses⟩ := Option.map_eq_some_iff.mp statuses_halfGot
  have consistent := always pair reached_pair idle_pair landed_pair halfOutside.source 1 halfGot
    snapshot informed_halfGot answered
  have stale : ("/Card.vue", .stale) ∈
      snapshot.components.map fun item => (item.2.identity.path.text, item.2.status) := by
    rw [statuses]
    exact List.mem_cons_self
  obtain ⟨item, member, same⟩ := List.mem_map.mp stale
  have status : item.2.status = .stale := congrArg Prod.snd same
  have agrees := (Record.consistent_iff _).mp (consistent item member)
  simp only [Record.ofEntry, status] at agrees
  split at agrees <;> cases agrees

end Engine

end ComponentCatalog
