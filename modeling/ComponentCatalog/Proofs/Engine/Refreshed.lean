import ComponentCatalog.Proofs.Cache.Launches
import ComponentCatalog.Proofs.Component.Registry
import ComponentCatalog.Proofs.Engine.Course

/-! # What getting all components leaves in the cache

Each component is got alone on its path. A call that is alone on its path leaves a slot that tells what its
source is: an entry is at hand for the text, or the last one is that the source cannot be read. Each time that
it cannot be read, a new entry says so, and counts as a change. So behind the call nothing is on its way, and
the revision is a later one if some source cannot be read.
-/

namespace ComponentCatalog

open Component

/-! ## Slots that tell what the sources are -/

namespace Cache

/-- The slot of a component tells what its source is. -/
def Mirrors (source : Path → Except Files.Fault String) (cache : Cache) (identity : Identity) : Prop :=
  match source identity.path with
  | .ok text =>
    ((cache.slot identity.path).hit? identity (.compute identity.path text)).isSome
  | .error fault => cache.slot identity.path = .unreadable (unreadableEntry identity fault)

namespace Get

/-- What a call read is the source as it is, and once it has an entry its slot tells the source. If that
cannot be read, the revision is beyond a first one. -/
def Abreast (source : Path → Except Files.Fault String) (first : Nat) (cache : Cache) (get : Get) : Prop :=
  match get.stage with
  | .reading => True
  | .looking text => source get.identity.path = .ok text
  | .waiting text task _ => source get.identity.path = .ok text ∧
      ∀ analysis entry, cache.tasks.get? task = some analysis → analysis.stage = .recorded (.ok entry) →
        cache.Mirrors source get.identity
  | .done (.ok _) => cache.Mirrors source get.identity ∧
      ((source get.identity.path).isOk = false → first < cache.revision)
  | .done (.error _) => True

variable {setup : Setup} {source : Path → Except Files.Fault String} {first : Nat}
  {cache cache' : Cache} {get other : Get} {reply : Reply} {stage : Get.Stage}

/-- What a slot tells depends on the slot alone. -/
theorem mirrors_congr {identity : Identity} (same : cache'.slot identity.path = cache.slot identity.path) :
    cache'.Mirrors source identity ↔ cache.Mirrors source identity := by
  simp only [Mirrors, same]

/-- An entry that is recorded is at hand for the text that was analyzed. -/
private theorem Alone.mirrors_recorded (alone : get.Alone cache) (sound : cache.Sound) {text : String}
    {task : Nat} {joined : Bool} {analysis : Analysis} {entry : Entry}
    (waiting : get.stage = .waiting text task joined) (read : source get.identity.path = .ok text)
    (present : cache.tasks.get? task = some analysis) (found : analysis.stage = .found (.ok entry)) :
    (cache.recorded task analysis (.ok entry)).Mirrors source get.identity := by
  obtain ⟨-, at_, there⟩ := alone.own _ _ _ waiting
  cases present.symm.trans there
  obtain ⟨outcome, rfl⟩ := (sound.analyses there).found entry (Analysis.result?_of_found found)
  have flying := alone.flight.trans <| flight?_of_open waiting there fun result recorded => by
    cases found.symm.trans recorded
  have slot := (recorded_of_flight ⟨get.identity, text, get.fingerprint text, at_⟩ flying rfl
    (.ok (Analysis.entry ⟨get.identity, text, get.fingerprint text, at_⟩ outcome))).1
  simp only [Mirrors, read]
  rw [slot]
  simp [Slot.settled, Slot.recorded, Slot.hit?, Analysis.entry, get.identity.same_refl, fingerprint]

/-- A step of a call that is alone keeps it abreast of its source. -/
theorem Transition.abreast_self (step : Transition setup cache get reply cache' stage)
    (sound : cache.Sound) (alone : get.Alone cache) (reads : get.Reads source reply)
    (later : first ≤ cache.revision) (abreast : get.Abreast source first cache) :
    Get.Abreast source first cache' { get with stage } := by
  cases step with
  | rest => exact abreast
  | read reading replied => exact (reads reading _ replied).symm
  | @unreadable fault reading replied =>
    have failed : source get.identity.path = .error fault := (reads reading _ replied).symm
    have idle : (cache.slot get.identity.path).inFlight? = none := by
      rw [alone.flight, flight?, reading]
    rcases recordUnreadable_cases cache get.identity fault with ⟨busy, -⟩ | ⟨-, eq⟩
    · simp [idle] at busy
    · refine ⟨?_, fun _ => ?_⟩
      · simp only [Mirrors, failed]
        exact slot_eq _ ((slot?_recordUnreadable ..).trans (if_pos ⟨rfl, idle⟩))
      · rw [eq]
        exact Nat.lt_succ_of_le later
  | @hit text entry looking _ hit =>
    simp only [Abreast, looking] at abreast
    refine ⟨?_, fun unread => ?_⟩
    · simp only [Mirrors, abreast]
      exact Option.isSome_of_eq_some hit
    · rw [abreast] at unread
      cases unread
  | start looking _ _ =>
    simp only [Abreast, looking] at abreast
    refine ⟨abreast, fun analysis entry there recorded => ?_⟩
    rw [tasks_launched, if_pos rfl] at there
    cases there
    cases recorded
  | join looking flying =>
    rw [alone.flight, flight?, looking] at flying
    cases flying
  | @take text task joined analysis result waiting present recorded =>
    obtain ⟨rfl, -⟩ := alone.own _ _ _ waiting
    simp only [Abreast, waiting] at abreast
    cases result with
    | error reason => trivial
    | ok entry =>
      refine ⟨abreast.2 analysis entry present recorded, fun unread => ?_⟩
      rw [abreast.1] at unread
      cases unread
  | work waiting present going opened _ _ =>
    simp only [Abreast, waiting] at abreast ⊢
    refine ⟨abreast.1, fun analysis entry there recorded => ?_⟩
    rw [Table.get?_set, if_pos rfl] at there
    cases there
    exact absurd recorded (opened _)
  | @record text task joined analysis result waiting present found =>
    simp only [Abreast, waiting] at abreast ⊢
    refine ⟨abreast.1, fun later entry there recorded => ?_⟩
    rw [tasks_recorded, if_pos rfl] at there
    cases there
    cases recorded
    exact alone.mirrors_recorded sound waiting abreast.1 present found

/-- A call on another path stays abreast of its source. -/
theorem Transition.abreast_other (step : Transition setup cache get reply cache' stage)
    (sound : cache.Sound) (alone : get.Alone cache)
    (apart : get.identity.path.parts ≠ other.identity.path.parts) (beside : other.Alone cache)
    (abreast : other.Abreast source first cache) : other.Abreast source first cache' := by
  have mirrors : cache'.Mirrors source other.identity ↔ cache.Mirrors source other.identity :=
    mirrors_congr (step.frame sound alone apart).1
  have grows := (step.grows sound).revision
  unfold Abreast at abreast ⊢
  cases waits : other.stage with
  | reading => trivial
  | looking text => simpa only [waits] using abreast
  | waiting text task joined =>
    simp only [waits] at abreast ⊢
    rw [step.waited sound alone apart beside waits, mirrors]
    exact abreast
  | done result =>
    simp only [waits] at abreast ⊢
    cases result with
    | error reason => trivial
    | ok entry =>
      exact ⟨mirrors.mpr abreast.1, fun unread => Nat.lt_of_lt_of_le (abreast.2 unread) grows⟩

end Get

end Cache

/-! ## All components -/

namespace Engine

open Cache

/-- All components are being got, each abreast of its source; other slots are as they were. -/
structure Refreshing (source : Path → Except Files.Fault String) (before : Engine) (cache : Cache)
    (gets : List Get) : Prop where
  revision : before.cache.revision ≤ cache.revision
  abreast : ∀ get ∈ gets, get.Abreast source before.cache.revision cache
  alone : ∀ get ∈ gets, get.Alone cache
  others : ∀ path, (∀ get ∈ gets, get.identity.path.parts ≠ path.parts) →
    cache.slot path = before.cache.slot path

/-- All components were got: their slots tell what their sources are. -/
structure Refreshed (source : Path → Except Files.Fault String) (before engine : Engine) : Prop where
  mirrors : ∀ identity ∈ before.registry.list, engine.cache.Mirrors source identity
  landed : ∀ path, (engine.cache.slot path).inFlight? = none
  revision : before.cache.revision ≤ engine.cache.revision
  unread : ∀ identity ∈ before.registry.list, (source identity.path).isOk = false →
    before.cache.revision < engine.cache.revision

variable {source : Path → Except Files.Fault String} {before engine : Engine}

theorem Refreshing.begin (landed : ∀ path, (before.cache.slot path).inFlight? = none) :
    before.Refreshing source before.cache (before.registry.list.map fun identity => { identity }) where
  revision := Nat.le_refl _
  abreast := by
    intro get member
    obtain ⟨identity, -, rfl⟩ := List.mem_map.mp member
    trivial
  alone := by
    intro get member
    obtain ⟨identity, -, rfl⟩ := List.mem_map.mp member
    exact .begin (landed _)
  others := fun _ _ => rfl

/-- Each step for one of the entries keeps it. -/
theorem Refreshing.kept (distinct : Registry.Distinct before.registry.list) :
    Kept source before (before.Refreshing source) where
  step := by
    intro engine front back get reply beside reads refreshing
    have step := get.step_transition engine.setup engine.cache reply
    have mine := beside.alone get (by simp)
    have there : ∀ {other : Get}, other ∈ front ++ back → other ∈ front ++ get :: back :=
      fun among => mem_split_iff.mpr (.inr among)
    refine ⟨Nat.le_trans refreshing.revision (step.grows beside.sound).revision, ?_,
      (beside.step distinct reply).alone, ?_⟩
    · intro other member
      rcases mem_split_iff.mp member with rfl | among
      · rw [get.step_snd]
        exact step.abreast_self beside.sound mine reads refreshing.revision
          (refreshing.abreast get (by simp))
      · exact step.abreast_other beside.sound mine (beside.apart distinct other among).2
          (beside.alone other (there among)) (refreshing.abreast other (there among))
    · intro path apart
      have own : get.identity.path.parts ≠ path.parts := by
        rw [← get.identity_step engine.setup engine.cache reply]
        exact apart _ (by simp)
      rw [(step.frame beside.sound mine own).1]
      refine refreshing.others path fun other member => ?_
      rcases mem_split_iff.mp member with rfl | among
      · exact own
      · exact apart other (mem_split_iff.mpr (.inr among))
  quiet := fun _ _ refreshing =>
    ⟨refreshing.revision, refreshing.abreast,
      fun get member => ⟨(refreshing.alone get member).flight, (refreshing.alone get member).own⟩,
      refreshing.others⟩

/-- Once all entries are there, the slots tell what the sources are. -/
theorem Got.refreshed (got : before.Got (before.Refreshing source) engine)
    (landed : ∀ path, (before.cache.slot path).inFlight? = none) :
    before.Refreshed source engine := by
  obtain ⟨gets, identities, done, refreshing⟩ := got
  have each : ∀ identity ∈ before.registry.list,
      engine.cache.Mirrors source identity ∧
        ((source identity.path).isOk = false → before.cache.revision < engine.cache.revision) := by
    intro identity member
    rw [← identities] at member
    obtain ⟨get, among, rfl⟩ := List.mem_map.mp member
    obtain ⟨entry, stage⟩ := done get among
    have abreast := refreshing.abreast get among
    simpa only [Get.Abreast, stage] using abreast
  refine ⟨fun identity member => (each identity member).1, fun path => ?_, refreshing.revision,
    fun identity member => (each identity member).2⟩
  by_cases own : ∃ get ∈ gets, get.identity.path.parts = path.parts
  · obtain ⟨get, among, parts⟩ := own
    obtain ⟨entry, stage⟩ := done get among
    rw [← slot_congr engine.cache parts, (refreshing.alone get among).flight, Get.flight?, stage]
  · rw [refreshing.others path fun get among parts => own ⟨get, among, parts⟩]
    exact landed path

/-- While a call gets all components, the registry stays. -/
theorem registry_informed {id : Nat} {events : List Event}
    (informed : Follows act (Informed source id) (before.start id .parseAll) events) :
    ((before.start id .parseAll).run events).registry = before.registry := by
  have begun : (before.start id .parseAll).registry = before.registry := registry_start before id nofun
  refine informed.preserves (P := fun engine => engine.registry = before.registry) ?_ begun
  rintro engine _ same ⟨index, reply, -, rfl, -⟩
  exact (registry_step engine id index reply).trans same

/-- A call that answered with a snapshot has a result. -/
theorem isSome_result?_of_snapshot? {id : Nat} {snapshot : Snapshot}
    (answered : engine.snapshot? id = some snapshot) : (engine.result? id).isSome := by
  unfold snapshot? at answered
  split at answered
  · next result => simp [result]
  · cases answered

/-- A call that answered with a snapshot got all components, and ends with the snapshot that was settled. -/
theorem Sound.refreshed_of_snapshot {id : Nat} {events : List Event} {snapshot : Snapshot}
    (sound : before.Sound) (distinct : Registry.Distinct before.registry.list)
    (landed : ∀ path, (before.cache.slot path).inFlight? = none)
    (informed : Follows Engine.act (Informed source id) (before.start id .parseAll) events)
    (answered : ((before.start id .parseAll).run events).snapshot? id = some snapshot) :
    before.Refreshed source ((before.start id .parseAll).run events) ∧
      snapshot = before.conclusion ((before.start id .parseAll).run events) ∧
      ((before.start id .parseAll).run events).published = snapshot := by
  have runs := (sound.runs landed (.begin landed) id).run (Refreshing.kept distinct) distinct informed
  rcases runs.of_result (isSome_result?_of_snapshot? answered) with ⟨got, published, there | ⟨none, -⟩⟩ | ⟨-, none⟩
  · cases answered.symm.trans there
    exact ⟨got.refreshed landed, rfl, published⟩
  · cases answered.symm.trans none
  · cases answered.symm.trans none

end Engine

end ComponentCatalog
