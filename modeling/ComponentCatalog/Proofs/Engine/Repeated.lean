import ComponentCatalog.Proofs.Engine.Recomputed
import ComponentCatalog.Proofs.Engine.Refreshed

/-! # Getting all components again

When all components were got and nothing changed since, getting them again finds an entry for each source
that can be read, and starts no analysis. That a source cannot be read is recorded anew, though, and
counts as a change. So the call ends with the same snapshot exactly if all sources can be read, and
publishes a new one otherwise.
-/

namespace ComponentCatalog

open Component

namespace Engine

open Cache

/-! ## Entries that are at hand -/

/-- An entry is at hand for each component whose source can be read. -/
def Stocked (source : Path → Except Files.Fault String) (engine : Engine) : Prop :=
  ∀ identity ∈ engine.registry.list, ∀ text, source identity.path = .ok text →
    ((engine.cache.slot identity.path).hit? identity (.compute identity.path text)).isSome

/-- A call whose entry is at hand, if its source can be read, goes on to take it. -/
def Takes (source : Path → Except Files.Fault String) (old cache : Cache) (get : Get) : Prop :=
  match get.stage with
  | .reading => cache.slot get.identity.path = old.slot get.identity.path
  | .looking text => source get.identity.path = .ok text ∧
      cache.slot get.identity.path = old.slot get.identity.path
  | .done (.ok _) => True
  | _ => False

/-- All components are being got, and nothing but unreadable sources counts as a change. -/
structure Taking (source : Path → Except Files.Fault String) (before : Engine) (cache : Cache)
    (gets : List Get) : Prop where
  tasks : cache.tasks = before.cache.tasks
  nextTask : cache.nextTask = before.cache.nextTask
  analyses : cache.analyses = before.cache.analyses
  takes : ∀ get ∈ gets, Takes source before.cache cache get
  revision : (∀ identity ∈ before.registry.list, (source identity.path).isOk) →
    cache.revision = before.cache.revision

variable {source : Path → Except Files.Fault String} {before engine : Engine}

theorem Taking.begin (source : Path → Except Files.Fault String) (before : Engine) :
    before.Taking source before.cache (before.registry.list.map fun identity => { identity }) := by
  refine ⟨rfl, rfl, rfl, fun get member => ?_, fun _ => rfl⟩
  obtain ⟨identity, -, rfl⟩ := List.mem_map.mp member
  rfl

private theorem analyses_recordUnreadable (cache : Cache) (identity : Identity) (fault : Files.Fault) :
    (cache.recordUnreadable identity fault).analyses = cache.analyses := by
  rcases recordUnreadable_cases cache identity fault with ⟨-, eq⟩ | ⟨-, eq⟩ <;> rw [eq] <;> rfl

/-- A step for a component that finds its entry at hand. -/
private theorem takes_step {setup : Setup} {cache cache' : Cache} {get : Get} {reply : Reply}
    {stage : Get.Stage} (step : Get.Transition setup cache get reply cache' stage)
    (stocked : before.Stocked source) (known : get.identity ∈ before.registry.list)
    (alone : get.Alone cache) (reads : get.Reads source reply)
    (takes : Takes source before.cache cache get) :
    Takes source before.cache cache' { get with stage } ∧ cache'.tasks = cache.tasks ∧
      cache'.nextTask = cache.nextTask ∧ cache'.analyses = cache.analyses ∧
      ((source get.identity.path).isOk → cache'.revision = cache.revision) := by
  have quiet : ∀ {text : String} {task : Nat} {joined : Bool},
      get.stage ≠ .waiting text task joined := by
    intro text task joined waiting
    simp only [Takes, waiting] at takes
  cases step with
  | rest => exact ⟨takes, rfl, rfl, rfl, fun _ => rfl⟩
  | read reading replied =>
    simp only [Takes, reading] at takes
    exact ⟨⟨(reads reading _ replied).symm, takes⟩, rfl, rfl, rfl, fun _ => rfl⟩
  | @unreadable fault reading replied =>
    refine ⟨trivial, tasks_recordUnreadable .., nextTask_recordUnreadable ..,
      analyses_recordUnreadable .., fun readable => ?_⟩
    rw [← reads reading _ replied] at readable
    cases readable
  | hit _ _ _ => exact ⟨trivial, rfl, rfl, rfl, fun _ => rfl⟩
  | @start text looking _ miss =>
    simp only [Takes, looking] at takes
    have there := stocked get.identity known text takes.1
    rw [← takes.2] at there
    rw [Get.fingerprint] at miss
    simp [miss] at there
  | join looking flying =>
    rw [alone.flight, Get.flight?, looking] at flying
    cases flying
  | take waiting _ _ => exact absurd waiting quiet
  | work waiting _ _ _ _ _ => exact absurd waiting quiet
  | record waiting _ _ => exact absurd waiting quiet

/-- Each step for one of the entries keeps it. -/
theorem Taking.kept (stocked : before.Stocked source)
    (distinct : Registry.Distinct before.registry.list) : Kept source before (before.Taking source) where
  step := by
    intro engine front back get reply beside reads taking
    have step := get.step_transition engine.setup engine.cache reply
    have mine := beside.alone get (by simp)
    have known : get.identity ∈ before.registry.list := by
      rw [← beside.identities]
      exact List.mem_map_of_mem (by simp)
    obtain ⟨takes, tasks, nextTask, analyses, revision⟩ :=
      takes_step step stocked known mine reads (taking.takes get (by simp))
    refine ⟨tasks.trans taking.tasks, nextTask.trans taking.nextTask,
      analyses.trans taking.analyses, ?_, ?_⟩
    · intro other member
      rcases mem_split_iff.mp member with rfl | among
      · rw [get.step_snd]
        exact takes
      · have same := (step.frame beside.sound mine (beside.apart distinct other among).2).1
        have before := taking.takes other (mem_split_iff.mpr (.inr among))
        simpa only [Takes, same] using before
    · intro readable
      exact (revision (readable _ known)).trans (taking.revision readable)
  quiet := fun _ _ taking =>
    ⟨taking.tasks, taking.nextTask, taking.analyses, taking.takes, taking.revision⟩

/-! ## What happens in between -/

/-- Registry, slots and revision are as they were. -/
structure Undisturbed (before engine : Engine) : Prop where
  registry : engine.registry.list = before.registry.list
  slots : ∀ path, engine.cache.slot path = before.cache.slot path
  revision : engine.cache.revision = before.cache.revision

/-- No call takes a snapshot. -/
def Untaken (engine : Engine) : Prop :=
  ∀ id pending revision rest shown,
    engine.calls.get? id ≠ some (.publishing pending (.collecting revision rest shown))

/-- While the revision of the published snapshot is the present one, nothing is published. -/
private theorem UpToDate.act (current : engine.UpToDate) (untaken : engine.Untaken) (event : Event) :
    (engine.act event).published = engine.published ∧ (engine.act event).Untaken := by
  have effect := engine.act_effect event
  generalize after : engine.act event = next at effect
  cases effect with
  | move moved how =>
    refine ⟨moved.published, fun id pending revision rest shown now => ?_⟩
    rcases moved.was now with ⟨rfl, rfl⟩ | ⟨-, before⟩
    · exact untaken _ _ _ _ _ how.collecting
    · exact untaken _ _ _ _ _ before
  | @turn id index reply pending now free =>
    -- The published snapshot will do, so the call does not get as far as this.
    have ends : engine.step id index reply = engine.deliver id pending engine.published := by
      simp [Engine.step, now, free, stepTurn, current.1, current.2]
    have ended := congrArg (fun engine : Engine => engine.calls.get? id) (ends.symm.trans after)
    simp [deliver_eq, calls_finish, calls_setCall] at ended
  | collect now => exact absurd now (untaken _ _ _ _ _)
  | publish now => exact absurd now (untaken _ _ _ _ _)

/-- As long as the revision stays, so does the published snapshot. -/
theorem UpToDate.published_run (current : engine.UpToDate) (untaken : engine.Untaken)
    (numbered : engine.Numbered) {events : List Event}
    (same : (engine.run events).cache.revision = engine.cache.revision) :
    (engine.run events).published = engine.published := by
  induction events generalizing engine with
  | nil => rfl
  | cons event rest ih =>
    obtain ⟨published, untaken'⟩ := UpToDate.act current untaken event
    have numbered' := numbered.act event
    have before := (engine.act_change event).revision_le numbered.sound.cache
    have behind := numbered'.revision_le_run rest
    have stays : (engine.act event).cache.revision = engine.cache.revision :=
      Nat.le_antisymm (Nat.le_trans behind (Nat.le_of_eq same)) before
    have current' : (engine.act event).UpToDate := by
      rw [UpToDate, published, stays]
      exact current
    exact (ih current' untaken' numbered' (same.trans stays.symm)).trans published

/-- When every call has ended, none takes a snapshot. -/
theorem Idle.untaken (idle : engine.Idle) : engine.Untaken := by
  intro id pending revision rest shown now
  obtain ⟨result, ended⟩ := idle id _ now
  cases ended

/-! ## The second call -/

/-- A call with a result leaves an engine idle in which every other call had ended. -/
private theorem idle_of_result? {id : Nat} {events : List Event} (idle : before.Idle)
    (informed : Follows Engine.act (Informed source id) (before.start id .parseAll) events)
    (answered : (((before.start id .parseAll).run events).result? id).isSome) :
    ((before.start id .parseAll).run events).Idle := by
  intro other call now
  by_cases apart : id = other
  · subst apart
    rw [result?, now, Option.bind_some] at answered
    cases call with
    | finished result => exact ⟨result, rfl⟩
    | _ => cases answered
  · refine idle other call ?_
    have same : ((before.start id .parseAll).run events).calls.get? other =
        (before.start id .parseAll).calls.get? other := by
      refine informed.preserves (P := fun engine => engine.calls.get? other =
        (before.start id .parseAll).calls.get? other) ?_ rfl
      rintro _ _ same ⟨index, reply, -, rfl, -⟩
      refine (calls_act_of_ne ?_).trans same
      rintro ⟨⟩
      exact apart rfl
    have first : (before.act (.start id .parseAll)).calls.get? other = before.calls.get? other := by
      refine calls_act_of_ne ?_
      rintro ⟨⟩
      exact apart rfl
    exact (same.trans first).symm.trans now

/-- With an entry at hand for each source that can be read, all components are got without an analysis. -/
private theorem Stocked.repeats (stocked : engine.Stocked source) (numbered : engine.Numbered)
    (landed : ∀ path, (engine.cache.slot path).inFlight? = none) (free : engine.publisher? = none)
    (current : engine.UpToDate) (id : Nat) {steps : List Event}
    (informed : Follows act (Informed source id) (engine.start id .parseAll) steps) :
    steps.length ≤ (engine.start id .parseAll).left id ∧
    let after := (engine.start id .parseAll).run steps
    after.cache.tasks = engine.cache.tasks ∧ after.cache.nextTask = engine.cache.nextTask ∧
      after.cache.analyses = engine.cache.analyses ∧
      ((after.result? id = none ∧ ∃ event, after.Informed source id event) ∨
        (∀ identity ∈ engine.registry.list, (source identity.path).isOk) ∧
          after.snapshot? id = some engine.published ∧ after.published = engine.published ∨
        (∃ identity ∈ engine.registry.list, (source identity.path).isOk = false) ∧
          (after.result? id).isSome ∧
          engine.published.generation < after.published.generation) := by
  have distinct := numbered.distinct
  have bound := (numbered.sound.fetches landed id).bounded distinct informed
  have kept := (Refreshing.kept distinct).and (Taking.kept stocked distinct)
  have runs := (numbered.sound.runs landed ⟨.begin landed, .begin source engine⟩ id).run kept distinct
    informed
  refine ⟨Nat.le_trans (Nat.le_add_right ..) bound, ?_⟩
  intro after
  obtain ⟨gets, -, taking⟩ := runs.holds
  refine ⟨taking.tasks, taking.nextTask, taking.analyses, ?_⟩
  by_cases answered : (after.result? id).isSome
  · refine .inr ?_
    rcases runs.of_result answered with ⟨got, published, ends⟩ | ⟨missed, -⟩
    · have refreshed := (got.mono fun _ _ both => both.1).refreshed landed
      by_cases readable : ∀ identity ∈ engine.registry.list, (source identity.path).isOk
      · have still : engine.StillCurrent after :=
          ⟨current.1, current.2.trans (taking.revision readable).symm⟩
        have same : engine.conclusion after = engine.published := if_pos still
        rw [same] at published ends
        exact .inl ⟨readable, ends.resolve_right fun late => late.2 still, published⟩
      · simp only [not_forall, Bool.not_eq_true] at readable
        obtain ⟨identity, known, unread⟩ := readable
        have outdated : ¬ engine.StillCurrent after := by
          intro still
          have later := refreshed.unread identity known unread
          exact absurd (still.2.symm.trans current.2) (Nat.ne_of_gt later)
        have new : engine.conclusion after = _ := if_neg outdated
        refine .inr ⟨⟨identity, known, unread⟩, answered, ?_⟩
        rw [published, new]
        exact Nat.lt_succ_of_le numbered.locked.generation
    · obtain ⟨gets, -, ⟨get, member, reason, stage⟩, -, taking⟩ := missed
      have takes := taking.takes get member
      simp only [Takes, stage] at takes
  · have going : after.result? id = none := by simpa using answered
    obtain ⟨index, need, needs⟩ := runs.fetches.exists_need free going
    obtain ⟨reply, fits, reads⟩ := Need.exists_reply source need
    exact .inl ⟨going, _, index, reply, need, rfl, needs, fits, reads⟩

/-- All components were got, and nothing changed since. Then getting them again comes to a result, with the
same sources and in whatever order, and starts no analysis. If all sources can be read, it answers with the
same snapshot, and nothing is published. Otherwise a new snapshot is published. -/
theorem parseAll_repeated {before : Engine} (reached : before.Reached) (idle : before.Idle)
    (landed : ∀ path, (before.cache.slot path).inFlight? = none)
    {source : Path → Except Files.Fault String} {id : Nat} {events between : List Event}
    (informed : Follows act (Informed source id) (before.start id .parseAll) events)
    {snapshot : Snapshot}
    (answered : ((before.start id .parseAll).run events).snapshot? id = some snapshot)
    (follows : Follows act NewNumbers ((before.start id .parseAll).run events) between)
    (idle' : (((before.start id .parseAll).run events).run between).Idle)
    (undisturbed : ((before.start id .parseAll).run events).Undisturbed
      (((before.start id .parseAll).run events).run between)) (id' : Nat) :
    let engine := ((before.start id .parseAll).run events).run between
    ∃ bound, ∀ steps, Follows act (Informed source id') (engine.start id' .parseAll) steps →
      steps.length ≤ bound ∧
      let after := (engine.start id' .parseAll).run steps
      after.cache.tasks = engine.cache.tasks ∧ after.cache.nextTask = engine.cache.nextTask ∧
        after.cache.analyses = engine.cache.analyses ∧
        ((after.result? id' = none ∧ ∃ event, after.Informed source id' event) ∨
          (∀ identity ∈ engine.registry.list, (source identity.path).isOk) ∧
            after.snapshot? id' = some snapshot ∧ after.published = snapshot ∨
          (∃ identity ∈ engine.registry.list, (source identity.path).isOk = false) ∧
            (after.result? id').isSome ∧ snapshot.generation < after.published.generation) := by
  intro engine
  have first := (reached.numbered.act (.start id .parseAll)).run events
  obtain ⟨refreshed, concludes, published⟩ :=
    reached.numbered.sound.refreshed_of_snapshot reached.numbered.distinct landed informed answered
  have current : ((before.start id .parseAll).run events).UpToDate := by
    rw [UpToDate, published, concludes]
    exact conclusion_current ..
  have untaken := (idle_of_result? idle informed (isSome_result?_of_snapshot? answered)).untaken
  have same : engine.published = snapshot :=
    (current.published_run untaken first undisturbed.revision).trans published
  have attended : engine.Attended := by
    have begun : (before.act (.start id .parseAll)).Attended :=
      reached.attended.act _ fun other job begins => by simp [reached.publisher_of_idle idle]
    have ended : ((before.start id .parseAll).run events).Attended := by
      refine informed.preserves (P := Attended) ?_ begun
      rintro _ _ attended ⟨index, reply, -, rfl, -⟩
      exact attended.act _ (by simp)
    refine follows.preserves (P := Attended) (fun now event attended new => ?_) ended
    refine attended.act event fun other job begins => ?_
    subst begins
    exact attended.free fun call there => by cases new.symm.trans there
  have stocked : engine.Stocked source := by
    intro identity known text read
    rw [undisturbed.registry, registry_informed informed] at known
    have mirrors := refreshed.mirrors identity known
    simp only [Mirrors, read] at mirrors
    rw [undisturbed.slots]
    exact mirrors
  have current' : engine.UpToDate := by
    rw [UpToDate, same, ← published, undisturbed.revision]
    exact current
  have landed' : ∀ path, (engine.cache.slot path).inFlight? = none := fun path =>
    (congrArg Slot.inFlight? (undisturbed.slots path)).trans (refreshed.landed path)
  refine ⟨(engine.start id' .parseAll).left id', fun steps informed' => ?_⟩
  have repeats := Stocked.repeats stocked (first.run between) landed'
    (attended.publisher_of_idle idle') current' id' informed'
  rwa [same] at repeats

/-- One component cannot be parsed, and the other one has nothing to describe. -/
def tellingOutside : Outside :=
  ⟨fun _ => .ok "", fun request =>
    if request.path.text = "/Card.vue" then .failed (.parse "odd") else .described (.object [])⟩

/-- Both components are got, by turns, and published. -/
def pairGot : List Event :=
  ((pairUnder pair.setup).served tellingOutside 1
    [0, 1, 0, 1, 0, 1, 0, 1, 0, 1, 0, 1, 0, 0, 0, 0, 0]).map Site.Change.event

/-- What was told is taken, and the call is dropped. -/
def afterPairGot : List Event := [.takeNotices, .drop 1]

/-- Both components are about to be got again. -/
def pairGotSite : Site :=
  ⟨(((pair.start 1 .parseAll).run pairGot).run afterPairGot).start 2 .parseAll, fun _ => none⟩

/-- Both components are got again. -/
def pairAgain : List Event :=
  (pairGotSite.served tellingOutside 2 [1, 1, 0, 0, 0]).map Site.Change.event

/-- The second call answers with the snapshot of the first one, and asks no analyzer. -/
theorem parseAll_repeated_pair :
    let engine := ((pair.start 1 .parseAll).run pairGot).run afterPairGot
    let after := (engine.start 2 .parseAll).run pairAgain
    ∃ snapshot, ((pair.start 1 .parseAll).run pairGot).snapshot? 1 = some snapshot ∧
      after.cache.analyses = engine.cache.analyses ∧ after.snapshot? 2 = some snapshot ∧
      after.published = snapshot := by
  intro engine after
  obtain ⟨snapshot, answered⟩ : ∃ snapshot,
      ((pair.start 1 .parseAll).run pairGot).snapshot? 1 = some snapshot :=
    Option.isSome_iff_exists.mp (by decide +kernel)
  have follows : Follows act NewNumbers ((pair.start 1 .parseAll).run pairGot) afterPairGot :=
    ⟨trivial, trivial, trivial⟩
  have undisturbed : ((pair.start 1 .parseAll).run pairGot).Undisturbed engine :=
    ⟨rfl, fun _ => rfl, rfl⟩
  obtain ⟨bound, runs⟩ := parseAll_repeated reached_pair idle_pair landed_pair
    (Site.follows_events (Site.follows_served tellingOutside True 1 (pairUnder pair.setup) _))
    answered follows (idle_of_all (by decide +kernel)) undisturbed 2
  obtain ⟨-, -, -, analyses, going | same | unread⟩ := runs pairAgain
    (Site.follows_events (Site.follows_served tellingOutside True 2 pairGotSite _))
  · have ended : (after.result? 2).isSome := by decide +kernel
    exact absurd going.1 (Option.isSome_iff_ne_none.mp ended)
  · exact ⟨snapshot, answered, analyses, same.2⟩
  · obtain ⟨⟨_, _, unread⟩, -⟩ := unread
    cases unread

/-- No source is there. -/
def barrenOutside : Outside := ⟨fun _ => .error .missing, fun _ => .late⟩

/-- Both components are got, and published. -/
def barrenGot : List Event :=
  ((pairUnder pair.setup).served barrenOutside 1 [0, 1, 0, 0, 0, 0, 0]).map Site.Change.event

/-- Both components are about to be got again. -/
def barrenSite : Site := ⟨((pair.start 1 .parseAll).run barrenGot).start 2 .parseAll, fun _ => none⟩

/-- Both components are got again. -/
def barrenAgain : List Event :=
  (barrenSite.served barrenOutside 2 [0, 1, 0, 0, 0, 0, 0]).map Site.Change.event

/-- When all components are got twice in a row, a new snapshot can be published. -/
theorem parseAll_renews_unread :
    ¬ ∀ before : Engine, before.Reached → before.Idle →
      (∀ path, (before.cache.slot path).inFlight? = none) → ∀ source id events snapshot,
      Follows act (Informed source id) (before.start id .parseAll) events →
      ((before.start id .parseAll).run events).snapshot? id = some snapshot → ∀ id' steps,
      Follows act (Informed source id')
        (((before.start id .parseAll).run events).start id' .parseAll) steps →
      (((((before.start id .parseAll).run events).start id' .parseAll).run steps).result? id').isSome →
      ((((before.start id .parseAll).run events).start id' .parseAll).run steps).published =
        snapshot := by
  intro always
  obtain ⟨snapshot, answered, generation⟩ : ∃ snapshot,
      ((pair.start 1 .parseAll).run barrenGot).snapshot? 1 = some snapshot ∧
        snapshot.generation = 2 := by
    have second : (((pair.start 1 .parseAll).run barrenGot).snapshot? 1).map Snapshot.generation =
        some 2 := by decide +kernel
    exact Option.map_eq_some_iff.mp second
  have same := always pair reached_pair idle_pair landed_pair barrenOutside.source 1 barrenGot snapshot
    (Site.follows_events (Site.follows_served barrenOutside True 1 (pairUnder pair.setup) _))
    answered 2 barrenAgain
    (Site.follows_events (Site.follows_served barrenOutside True 2 barrenSite _)) (by decide +kernel)
  have third : ((((pair.start 1 .parseAll).run barrenGot).start 2 .parseAll).run
      barrenAgain).published.generation = 3 := by decide +kernel
  rw [same, generation] at third
  exact absurd third (by decide)

end Engine

end ComponentCatalog
