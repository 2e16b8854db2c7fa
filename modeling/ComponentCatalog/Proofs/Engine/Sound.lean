import ComponentCatalog.Proofs.Cache.Sound
import ComponentCatalog.Proofs.Engine.Steps
import ComponentCatalog.Proofs.Run

/-! # What holds in every engine

From outside an engine is driven by events: calls are made, take steps and are dropped, entries are
invalidated, and what is told is taken. Whatever the order, the cache stays sound, and every entry
that is being got waits for a task of its own path.
-/

namespace ComponentCatalog

open Component Cache

/-- What is told changes nothing else. -/
theorem Cache.foldl_tell (cache : Cache) (notices : List Notice) :
    notices.foldl Cache.tell cache = { cache with notices := cache.notices ++ notices } := by
  induction notices generalizing cache with
  | nil => simp
  | cons notice rest ih => simp [ih, Cache.tell]

namespace Engine

/-- What can happen to an engine. -/
inductive Event where
  | start (id : Nat) (job : Job)
  | step (id index : Nat) (reply : Reply)
  | drop (id : Nat)
  | invalidate (path : Path)
  | invalidateAll
  | takeNotices

/-- The engine after an event. -/
def act (engine : Engine) : Event → Engine
  | .start id job => engine.start id job
  | .step id index reply => engine.step id index reply
  | .drop id => engine.drop id
  | .invalidate path => engine.changeCache (·.invalidate path)
  | .invalidateAll => engine.changeCache Cache.invalidateAll
  | .takeNotices => engine.takeNotices.1

/-! ## What ending and moving on leave -/

section

variable (engine : Engine) (id other : Nat)

@[simp] theorem cache_setCall (call : Call) : (engine.setCall id call).cache = engine.cache := rfl

@[simp] theorem registry_setCall (call : Call) :
    (engine.setCall id call).registry = engine.registry := rfl

@[simp] theorem published_setCall (call : Call) :
    (engine.setCall id call).published = engine.published := rfl

@[simp] theorem cache_finish (result : Except Fault Answer) :
    (engine.finish id result).cache = engine.cache := rfl

@[simp] theorem registry_finish (result : Except Fault Answer) :
    (engine.finish id result).registry = engine.registry := rfl

@[simp] theorem published_finish (result : Except Fault Answer) :
    (engine.finish id result).published = engine.published := rfl

theorem calls_setCall (call : Call) :
    (engine.setCall id call).calls.get? other =
      if id = other then some call else engine.calls.get? other :=
  Table.get?_set engine.calls id other call

theorem calls_finish (result : Except Fault Answer) :
    (engine.finish id result).calls.get? other =
      if id = other then some (.finished result) else engine.calls.get? other :=
  Table.get?_set engine.calls id other _

theorem calls_drop :
    (engine.drop id).calls.get? other =
      if id = other then none else engine.calls.get? other :=
  Table.get?_erase engine.calls id other

/-- A call that is delivered ends, and the rest is told. -/
theorem deliver_eq (pending : Pending) (snapshot : Snapshot) :
    engine.deliver id pending snapshot =
      { engine with cache := { engine.cache with
          notices := engine.cache.notices ++ pending.notices engine } }.finish id
        (pending.answer snapshot) := by
  simp only [deliver, foldl_tell]

/-! ## What becomes of entries that were got -/

private theorem mapM_result_none {gets : List Get} (none : gets.mapM Get.result? = none) :
    ∃ get ∈ gets, get.result? = Option.none := by
  induction gets with
  | nil => cases none
  | cons get rest ih =>
    cases first : get.result? with
    | none => exact ⟨get, List.mem_cons_self, first⟩
    | some result =>
      rw [List.mapM_cons, first] at none
      cases others : rest.mapM Get.result? with
      | none =>
        obtain ⟨later, member, pending⟩ := ih others
        exact ⟨later, List.mem_cons_of_mem _ member, pending⟩
      | some results => simp [others] at none

private theorem mapM_result_some {gets : List Get} {results : List (Except String Entry)}
    (some_ : gets.mapM Get.result? = some results) :
    gets.map Get.stage = results.map Get.Stage.done := by
  induction gets generalizing results with
  | nil =>
    cases some_
    rfl
  | cons get rest ih =>
    rw [List.mapM_cons] at some_
    obtain ⟨result, first, some_⟩ := Option.bind_eq_some_iff.mp some_
    obtain ⟨later, others, some_⟩ := Option.bind_eq_some_iff.mp some_
    cases some_
    have stage : get.stage = .done result := by
      unfold Get.result? at first
      split at first
      · next done => rw [done, Option.some.inj first]
      · cases first
    simp [stage, ih others]

private theorem entriesOf_ok {results : List (Except String Entry)} {entries : List Entry}
    (ok : entriesOf results = .ok entries) : results = entries.map Except.ok := by
  induction results generalizing entries with
  | nil =>
    cases ok
    rfl
  | cons result rest ih =>
    unfold entriesOf at ok ih
    cases result with
    | error reason => cases ok
    | ok entry =>
      rw [List.mapM_cons] at ok
      cases others : rest.mapM id with
      | error reason => simp [others, bind, Except.bind] at ok
      | ok later =>
        simp only [id, others, bind, Except.bind, pure, Except.pure, Except.ok.injEq] at ok
        subst ok
        simp [ih others]

/-- Entries that are being got: some is not there yet, or the analyzer was missing, or all are. -/
theorem withGets_cases (goal : Goal) (gets : List Get) :
    ((∃ get ∈ gets, get.result? = none) ∧
      engine.withGets id goal gets = engine.setCall id (.getting goal gets)) ∨
    ((∃ results : List (Except String Entry), gets.map Get.stage = results.map Get.Stage.done) ∧
      ∃ reason, engine.withGets id goal gets =
        engine.finish id (.error (.unavailable reason))) ∨
    (∃ entries : List Entry, gets.map Get.stage = entries.map (fun entry => Get.Stage.done (.ok entry)) ∧
      engine.withGets id goal gets = engine.withEntries id entries goal) := by
  cases results : gets.mapM Get.result? with
  | none => exact .inl ⟨mapM_result_none results, by simp only [withGets, results]⟩
  | some found =>
    have done := mapM_result_some results
    cases entries : entriesOf found with
    | error reason =>
      exact .inr (.inl ⟨⟨found, done⟩, reason, by simp only [withGets, results, entries]⟩)
    | ok got =>
      refine .inr (.inr ⟨got, ?_, by simp only [withGets, results, entries]⟩)
      rw [done, entriesOf_ok entries, List.map_map]
      rfl

/-- The entries that a call got are published, or given back. -/
inductive AfterEntries (engine : Engine) (id : Nat) : Goal → List Entry → Engine → Prop
  /-- There are no entries to go on with. -/
  | rest {goal : Goal} (kind : ∀ before, goal ≠ .all before) : AfterEntries engine id goal [] engine
  | publish {goal : Goal} {entries : List Entry} {pending : Pending}
      (kind : ∀ before, goal = .all before → pending = .all before entries.length (failures entries)) :
      AfterEntries engine id goal entries (engine.setCall id (.publishing pending .waiting))
  | plain {entries : List Entry} :
      AfterEntries engine id .plain entries (engine.finish id (.ok (.entry entries.head?)))

theorem withEntries_spec (entries : List Entry) (goal : Goal) :
    AfterEntries engine id goal entries (engine.withEntries id entries goal) := by
  cases goal with
  | metadata name =>
    cases entries with
    | nil => exact .rest (by simp)
    | cons entry rest => exact .publish (by simp)
  | all before =>
    refine .publish fun other same => ?_
    cases same
    rfl
  | published =>
    cases entries with
    | nil => exact .rest (by simp)
    | cons entry rest => exact .publish (by simp)
  | plain => exact .plain

end

/-! ## Soundness -/

/-- The cache is sound, and each entry that is being got waits for a task of its own path. -/
structure Sound (engine : Engine) : Prop where
  cache : engine.cache.Sound
  gets : ∀ id goal gets, engine.calls.get? id = some (.getting goal gets) →
    ∀ get ∈ gets, get.Sound engine.cache

/-- A call is sound if what it gets is. -/
def Call.Sound (cache : Cache) (call : Call) : Prop :=
  ∀ goal gets, call = .getting goal gets → ∀ get ∈ gets, Get.Sound cache get

variable {engine : Engine}

theorem Sound.of_grows {next : Engine} (sound : engine.Sound) (after : next.cache.Sound)
    (grows : engine.cache.Extends next.cache) (calls : next.calls = engine.calls) : next.Sound :=
  ⟨after, fun id goal gets now get member =>
    (sound.gets id goal gets (calls ▸ now) get member).mono grows⟩

/-- What neither slots, analyses nor calls show is free. -/
theorem Sound.of_same {next : Engine} (sound : engine.Sound)
    (slots : next.cache.slots = engine.cache.slots) (tasks : next.cache.tasks = engine.cache.tasks)
    (nextTask : next.cache.nextTask = engine.cache.nextTask)
    (revision : next.cache.revision = engine.cache.revision) (calls : next.calls = engine.calls) :
    next.Sound :=
  sound.of_grows (sound.cache.of_eq slots tasks nextTask)
    (.of_tasks_eq tasks (Nat.le_of_eq nextTask.symm) (Nat.le_of_eq revision.symm)) calls

theorem Sound.setCall (sound : engine.Sound) (id : Nat) {call : Call}
    (fits : call.Sound engine.cache) : (engine.setCall id call).Sound := by
  refine ⟨sound.cache, fun other goal gets now => ?_⟩
  rw [calls_setCall] at now
  split at now
  · exact fits goal gets (Option.some.inj now)
  · exact sound.gets other goal gets now

theorem Sound.finish (sound : engine.Sound) (id : Nat) (result : Except Fault Answer) :
    (engine.finish id result).Sound := by
  refine ⟨sound.cache, fun other goal gets now => ?_⟩
  rw [calls_finish] at now
  split at now
  · cases now
  · exact sound.gets other goal gets now

theorem Sound.withGets (sound : engine.Sound) (id : Nat) (goal : Goal) {gets : List Get}
    (fits : ∀ get ∈ gets, get.Sound engine.cache) : (engine.withGets id goal gets).Sound := by
  rcases engine.withGets_cases id goal gets with
    ⟨-, eq⟩ | ⟨-, reason, eq⟩ | ⟨entries, -, eq⟩ <;> rw [eq]
  · refine sound.setCall id fun _ _ same => ?_
    cases same
    exact fits
  · exact sound.finish id _
  · generalize after : engine.withEntries id entries goal = next
    cases after ▸ engine.withEntries_spec id entries goal with
    | rest _ => exact sound
    | publish _ => exact sound.setCall id (by rintro _ _ ⟨⟩)
    | plain => exact sound.finish id _

theorem Sound.deliver (sound : engine.Sound) (id : Nat) (pending : Pending) (snapshot : Snapshot) :
    (engine.deliver id pending snapshot).Sound := by
  rw [deliver_eq]
  refine Sound.finish ?_ id _
  exact sound.of_same rfl rfl rfl rfl rfl

private theorem Sound.withDiff (sound : engine.Sound) (id : Nat) (diff : Diff) :
    (engine.withDiff id diff).Sound := by
  unfold Engine.withDiff
  split
  · exact sound.finish id _
  · exact sound.setCall id (by rintro _ _ ⟨⟩)

private theorem new_gets_sound (cache : Cache) (identities : List Identity) :
    ∀ get ∈ identities.map (fun identity => ({ identity } : Get)), Get.Sound cache get := by
  intro get member
  obtain ⟨identity, -, rfl⟩ := List.mem_map.mp member
  exact ⟨by simp⟩

theorem Sound.start (sound : engine.Sound) (id : Nat) (job : Job) : (engine.start id job).Sound := by
  cases job with
  | sync descriptors =>
    simp only [Engine.start, foldl_tell]
    refine Sound.withDiff ?_ id _
    exact sound.of_same rfl rfl rfl rfl rfl
  | parse identity => exact sound.withGets id _ (new_gets_sound _ [identity])
  | parseNamed name =>
    simp only [Engine.start]
    split
    · next identity _ => exact sound.withGets id _ (new_gets_sound _ [identity])
    · exact sound.finish id _
  | parseAll => exact sound.withGets id _ (new_gets_sound _ engine.registry.list)
  | changed path =>
    simp only [Engine.start]
    split
    · next identity _ =>
      have invalidated : (engine.changeCache (·.invalidate path)).Sound :=
        sound.of_grows (sound.cache.invalidate path) (.invalidate engine.cache path) rfl
      exact invalidated.withGets id _ (new_gets_sound _ [identity])
    · exact sound.finish id _
  | get identity => exact sound.withGets id _ (new_gets_sound _ [identity])
  | forget path => exact sound.setCall id (by rintro _ _ ⟨⟩)
  | stub =>
    simp only [Engine.start]
    split
    · exact sound.setCall id (by rintro _ _ ⟨⟩)
    · exact sound.finish id _

/-- A get takes a step while the others wait. -/
theorem gets_set_sound {cache cache' : Cache} {gets : List Get} {index : Nat} {get : Get}
    (each : ∀ get ∈ gets, get.Sound cache) (grows : cache.Extends cache') (fits : get.Sound cache') :
    ∀ other ∈ gets.set index get, other.Sound cache' := by
  intro other member
  rcases List.mem_or_eq_of_mem_set member with before | rfl
  · exact (each other before).mono grows
  · exact fits

private theorem Sound.stepped (sound : engine.Sound) {id : Nat} {goal : Goal} {gets : List Get}
    {get : Get} {index : Nat} (reply : Reply)
    (now : engine.calls.get? id = some (.getting goal gets)) (this : gets[index]? = some get) :
    (({ engine with cache := (get.step engine.setup engine.cache reply).1 } : Engine).withGets id goal
      (gets.set index (get.step engine.setup engine.cache reply).2)).Sound := by
  have step := get.step_transition engine.setup engine.cache reply
  have each := sound.gets id goal gets now
  have grows := step.grows sound.cache
  have fits := step.get_sound sound.cache (each get (List.mem_of_getElem? this))
  rw [← get.identity_step engine.setup engine.cache reply] at fits
  have after : Sound { engine with cache := (get.step engine.setup engine.cache reply).1 } :=
    sound.of_grows (step.sound sound.cache) grows rfl
  exact after.withGets id goal (gets_set_sound each grows fits)

theorem Sound.step (sound : engine.Sound) (id index : Nat) (reply : Reply) :
    (engine.step id index reply).Sound := by
  have spec := engine.step_spec id index reply
  generalize engine.step id index reply = next at spec
  cases spec with
  | rest => exact sound
  | get now this => exact sound.stepped reply now this
  | forget now =>
    refine Sound.setCall ?_ id (by rintro _ _ ⟨⟩)
    exact sound.of_grows (sound.cache.remove _) (.remove ..) rfl
  | turn _ _ _ =>
    refine Sound.setCall ?_ id (by rintro _ _ ⟨⟩)
    exact sound.of_same rfl rfl rfl rfl rfl
  | publish _ =>
    refine Sound.setCall ?_ id (by rintro _ _ ⟨⟩)
    exact sound.of_same rfl rfl rfl rfl rfl
  | reuse _ _ _ => exact sound.deliver id _ _
  | deliver _ => exact sound.deliver id _ _
  | removed _ => exact sound.finish id _
  | failed _ _ => exact sound.finish id _
  | stubThere _ _ => exact sound.finish id _
  | stubWritten _ _ => exact sound.finish id _
  | stubFailed _ _ => exact sound.finish id _
  | _ => exact sound.setCall id (by rintro _ _ ⟨⟩)

/-- Every event preserves it. -/
theorem Sound.act (sound : engine.Sound) (event : Event) : (engine.act event).Sound := by
  cases event with
  | start id job => exact sound.start id job
  | step id index reply => exact sound.step id index reply
  | drop id =>
    refine ⟨sound.cache, fun other goal gets now => ?_⟩
    have kept := calls_drop engine id other
    split at kept
    · cases now.symm.trans kept
    · exact sound.gets other goal gets (kept ▸ now)
  | invalidate path =>
    exact sound.of_grows (sound.cache.invalidate path) (.invalidate engine.cache path) rfl
  | invalidateAll =>
    exact sound.of_grows sound.cache.invalidateAll
      (.of_tasks_eq rfl (Nat.le_refl _) (Nat.le_refl _)) rfl
  | takeNotices => exact sound.of_same rfl rfl rfl rfl rfl

theorem Sound.create (options : Options) (exclude : List Exclude) (pipeline : Pipeline)
    (plan : StorePlan) (made : Except Files.Fault Unit) :
    (Engine.create options exclude pipeline plan made).Sound :=
  ⟨Cache.Sound.empty.of_eq rfl rfl rfl, by rintro _ _ _ ⟨⟩⟩

end Engine

end ComponentCatalog
