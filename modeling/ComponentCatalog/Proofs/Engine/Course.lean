import ComponentCatalog.Proofs.Cache.Launches
import ComponentCatalog.Proofs.Engine.Ending
import ComponentCatalog.Proofs.Engine.Snapshot

/-! # The course of a call that gets all components

The call first gets the entries, and then publishes. What each step for one of the entries keeps holds
until all of them are there, and goes on to hold, since publishing leaves slots and analyses as they are.
Behind the entries it is settled with which snapshot the call ends: the published one, if the revision is
still its own, or else a new one of the slots as they are.
-/

namespace ComponentCatalog

open Component

namespace Engine

open Cache

/-! ## What is kept -/

/-- What each step for one of the entries keeps, and every change that leaves slots and analyses. -/
structure Kept (source : Path → Except Files.Fault String) (before : Engine)
    (P : Cache → List Get → Prop) : Prop where
  step : ∀ {engine : Engine} {front back : List Get} {get : Get} {reply : Reply},
    before.Beside engine (front ++ get :: back) → get.Reads source reply →
    P engine.cache (front ++ get :: back) →
    P (get.step engine.setup engine.cache reply).1
      (front ++ (get.step engine.setup engine.cache reply).2 :: back)
  quiet : ∀ {cache : Cache} {gets : List Get} (generation : Nat) (notices : List Notice),
    P cache gets → P { cache with generation, notices } gets

/-- All entries are there. -/
def Got (P : Cache → List Get → Prop) (before engine : Engine) : Prop :=
  ∃ gets : List Get, gets.map Get.identity = before.registry.list ∧
    (∀ get ∈ gets, ∃ entry, get.stage = .done (.ok entry)) ∧ P engine.cache gets

/-- There was no analyzer for one of the components. -/
def Missed (P : Cache → List Get → Prop) (before engine : Engine) : Prop :=
  ∃ gets : List Get, gets.map Get.identity = before.registry.list ∧
    (∃ get ∈ gets, ∃ reason, get.stage = .done (.error reason)) ∧ P engine.cache gets

/-- The snapshot that was published before is of the present revision. -/
def StillCurrent (before engine : Engine) : Prop :=
  before.published.isStub = false ∧ before.published.revision = engine.cache.revision

instance (before engine : Engine) : Decidable (before.StillCurrent engine) :=
  inferInstanceAs (Decidable (_ ∧ _))

/-- The snapshot with which a call ends that got all components, given the engine before it. -/
def conclusion (before engine : Engine) : Snapshot :=
  if before.StillCurrent engine then before.published
  else ⟨before.cache.generation + 1, engine.cache.revision,
    before.registry.list.foldl engine.cache.collect []⟩

/-- How far a call is that gets all components. -/
def Call.Course (P : Cache → List Get → Prop) (before engine : Engine) : Call → Prop
  | .getting _ gets => P engine.cache gets
  | .publishing pending publication =>
    (∃ analyses components failed, pending = .all analyses components failed) ∧
    before.Got P engine ∧ engine.registry = before.registry ∧
    match publication with
    | .waiting => engine.published = before.published ∧
        engine.cache.generation = before.cache.generation
    | .collecting revision rest shown => ¬ before.StillCurrent engine ∧
        engine.cache.generation = before.cache.generation ∧ revision = engine.cache.revision ∧
        ∃ done, before.registry.list = done ++ rest ∧ shown = done.foldl engine.cache.collect []
    | .writing snapshot _ => ¬ before.StillCurrent engine ∧ snapshot = before.conclusion engine ∧
        engine.published = before.conclusion engine
  | .finished (.ok answer) =>
    before.Got P engine ∧ answer = .snapshot (before.conclusion engine) ∧
      engine.published = before.conclusion engine
  | .finished (.error _) =>
    before.Got P engine ∧ ¬ before.StillCurrent engine ∧
        engine.published = before.conclusion engine ∨
      before.Missed P engine ∧ engine.published = before.published
  | _ => False

/-- A call gets all components that were registered before, and something is kept. -/
structure Runs (P : Cache → List Get → Prop) (before : Engine) (id : Nat) (engine : Engine) : Prop where
  fetches : before.Fetches id engine
  course : ∃ call, engine.calls.get? id = some call ∧ call.Course P before engine

variable {source : Path → Except Files.Fault String} {before engine : Engine} {id : Nat}
  {P Q : Cache → List Get → Prop} {gets : List Get}

theorem Kept.and (left : Kept source before P) (right : Kept source before Q) :
    Kept source before fun cache gets => P cache gets ∧ Q cache gets where
  step := fun beside reads both => ⟨left.step beside reads both.1, right.step beside reads both.2⟩
  quiet := fun generation notices both =>
    ⟨left.quiet generation notices both.1, right.quiet generation notices both.2⟩

theorem Got.mono (got : before.Got P engine)
    (weakens : ∀ cache gets, P cache gets → Q cache gets) : before.Got Q engine := by
  obtain ⟨gets, identities, done, holds⟩ := got
  exact ⟨gets, identities, done, weakens _ _ holds⟩

/-- The call ends with a snapshot of the present revision. -/
theorem conclusion_current (before engine : Engine) :
    (before.conclusion engine).isStub = false ∧
      (before.conclusion engine).revision = engine.cache.revision := by
  unfold conclusion
  split
  · next current => exact current
  · exact ⟨rfl, rfl⟩

/-- What is told and how many snapshots were taken does not matter. -/
private theorem Kept.got (kept : Kept source before P) (got : before.Got P engine) {next : Engine}
    (cache : ∃ generation notices, next.cache = { engine.cache with generation, notices }) :
    before.Got P next := by
  obtain ⟨generation, notices, same⟩ := cache
  obtain ⟨gets, identities, there, holds⟩ := got
  exact ⟨gets, identities, there, same ▸ kept.quiet generation notices holds⟩

private theorem course_setCall {call : Call}
    (course : call.Course P before (engine.setCall id call)) :
    ∃ call', (engine.setCall id call).calls.get? id = some call' ∧
      call'.Course P before (engine.setCall id call) :=
  ⟨call, (calls_setCall ..).trans (if_pos rfl), course⟩

private theorem course_finish {result : Except Fault Answer}
    (course : (Call.finished result).Course P before (engine.finish id result)) :
    ∃ call, (engine.finish id result).calls.get? id = some call ∧
      call.Course P before (engine.finish id result) :=
  ⟨.finished result, (calls_finish ..).trans (if_pos rfl), course⟩

/-- The call ends with the published snapshot. -/
private theorem course_deliver (kept : Kept source before P) (got : before.Got P engine)
    {pending : Pending}
    (all : ∃ analyses components failed, pending = .all analyses components failed)
    {snapshot : Snapshot} (concludes : snapshot = before.conclusion engine)
    (published : engine.published = before.conclusion engine) :
    ∃ call, (engine.deliver id pending snapshot).calls.get? id = some call ∧
      call.Course P before (engine.deliver id pending snapshot) := by
  obtain ⟨_, _, _, rfl⟩ := all
  rw [deliver_eq]
  refine course_finish ⟨kept.got got ⟨_, _, rfl⟩, ?_, published⟩
  rw [concludes]
  rfl

/-- The call goes on getting, or sets about publishing what it got. -/
private theorem course_withGets (beside : before.Beside engine gets) (holds : P engine.cache gets)
    {goal : Goal} (all : ∃ analyses, goal = .all analyses) :
    ∃ call, (engine.withGets id goal gets).calls.get? id = some call ∧
      call.Course P before (engine.withGets id goal gets) := by
  obtain ⟨analyses, rfl⟩ := all
  by_cases open_ : ∃ get ∈ gets, get.result? = none
  · obtain ⟨get, member, missing⟩ := open_
    rw [withGets_of_open engine id _ member missing]
    exact course_setCall holds
  · obtain ⟨results, done⟩ := exists_results fun get member missing => open_ ⟨get, member, missing⟩
    have stage : ∀ {get : Get} {result : Except String Entry}, get.result? = some result →
        get.stage = .done result := by
      intro get result there
      unfold Get.result? at there
      split at there
      · next done => rw [done, Option.some.inj there]
      · cases there
    rw [withGets_of_results engine id _ done]
    rcases entriesOf_cases results with ⟨entries, rfl, all⟩ | ⟨front, reason, rest, rfl, first⟩
    · rw [all]
      refine course_setCall ⟨⟨_, _, _, rfl⟩, ⟨gets, beside.identities, fun get member => ?_, holds⟩,
        beside.still.registry, beside.still.published, beside.still.generation⟩
      have there := List.mem_map_of_mem (f := Get.result?) member
      rw [done, List.map_map] at there
      obtain ⟨entry, -, same⟩ := List.mem_map.mp there
      exact ⟨entry, stage same.symm⟩
    · rw [first]
      refine course_finish (.inr ⟨⟨gets, beside.identities, ?_, holds⟩, beside.still.published⟩)
      have there : some (Except.error reason) ∈ gets.map Get.result? := by rw [done]; simp
      obtain ⟨get, member, same⟩ := List.mem_map.mp there
      exact ⟨get, member, reason, stage same⟩

/-- The call begins when nothing is on its way. -/
theorem Sound.runs (sound : engine.Sound)
    (landed : ∀ path, (engine.cache.slot path).inFlight? = none)
    (holds : P engine.cache (engine.registry.list.map fun identity => { identity })) (id : Nat) :
    engine.Runs P id (engine.start id .parseAll) :=
  ⟨sound.fetches landed id, course_withGets (.begin sound landed) holds ⟨_, rfl⟩⟩

/-- A step that publishes takes the call on. -/
private theorem course_publish (kept : Kept source before P) {call : Call} {index : Nat} {reply : Reply}
    (there : engine.calls.get? id = some call) (course : call.Course P before engine)
    (notGetting : ∀ goal gets, call ≠ .getting goal gets) :
    ∃ call', (engine.step id index reply).calls.get? id = some call' ∧
      call'.Course P before (engine.step id index reply) := by
  have spec := engine.step_spec id index reply
  generalize engine.step id index reply = next at spec
  have same : ∀ {call' : Call}, engine.calls.get? id = some call' → call'.Course P before engine :=
    fun now => Option.some.inj (there.symm.trans now) ▸ course
  cases spec with
  | rest => exact ⟨call, there, course⟩
  | get now _ => exact absurd (Option.some.inj (there.symm.trans now)) (notGetting _ _)
  | reuse now _ current =>
    obtain ⟨all, got, -, published, -⟩ := same now
    have concludes : engine.published = before.conclusion engine := by
      rw [conclusion, if_pos ⟨published ▸ current.1, published ▸ current.2⟩]
      exact published
    exact course_deliver kept got all concludes concludes
  | turn now _ outdated =>
    obtain ⟨all, got, registry, published, generation⟩ := same now
    refine course_setCall ⟨all, kept.got got ⟨_, _, rfl⟩, registry, ?_, generation, rfl, [],
      registry.symm ▸ rfl, rfl⟩
    exact fun current => outdated ⟨published ▸ current.1, published ▸ current.2⟩
  | @collect _ _ identity _ _ now =>
    obtain ⟨all, got, registry, outdated, generation, rfl, done, list, rfl⟩ := same now
    refine course_setCall ⟨all, kept.got got ⟨_, _, rfl⟩, registry, outdated, generation, rfl,
      done ++ [identity], by simp [list], ?_⟩
    simp only [List.foldl_append, List.foldl_cons, List.foldl_nil]
    rfl
  | publish now =>
    obtain ⟨all, got, registry, outdated, generation, rfl, done, list, rfl⟩ := same now
    rw [List.append_nil] at list
    have concludes : before.conclusion engine =
        ⟨engine.cache.generation + 1, engine.cache.revision,
          done.foldl engine.cache.collect []⟩ := by
      rw [conclusion, if_neg outdated, list, generation]
    exact course_setCall ⟨all, kept.got got ⟨_, _, rfl⟩, registry, outdated, concludes.symm,
      concludes.symm⟩
  | write now _ =>
    obtain ⟨all, got, registry, outdated, snapshot, published⟩ := same now
    exact course_setCall ⟨all, kept.got got ⟨_, _, rfl⟩, registry, outdated, snapshot, published⟩
  | written now _ =>
    obtain ⟨all, got, registry, outdated, snapshot, published⟩ := same now
    exact course_setCall ⟨all, kept.got got ⟨_, _, rfl⟩, registry, outdated, snapshot, published⟩
  | failed now _ =>
    obtain ⟨-, got, -, outdated, -, published⟩ := same now
    exact course_finish (.inl ⟨kept.got got ⟨_, _, rfl⟩, outdated, published⟩)
  | deliver now =>
    obtain ⟨all, got, -, -, snapshot, published⟩ := same now
    exact course_deliver kept got all snapshot published
  | forget now => exact (same now).elim
  | forgotten now => exact (same now).elim
  | removed now => exact (same now).elim
  | stubThere now _ => exact (same now).elim
  | stubMissing now _ => exact (same now).elim
  | stubWrite now _ => exact (same now).elim
  | stubWritten now _ => exact (same now).elim
  | stubFailed now _ => exact (same now).elim

/-- Each step takes the call on, and keeps what is kept. -/
theorem Runs.act (runs : before.Runs P id engine) (kept : Kept source before P)
    (distinct : Registry.Distinct before.registry.list) {event : Event}
    (informed : engine.Informed source id event) : before.Runs P id (engine.act event) := by
  obtain ⟨index, reply, need, rfl, needs, -, reads⟩ := informed
  refine ⟨runs.fetches.step distinct index reply, ?_⟩
  obtain ⟨call, there, phase⟩ := runs.fetches
  obtain ⟨_, there', course⟩ := runs.course
  cases there.symm.trans there'
  rw [Engine.act]
  by_cases getting : ∃ goal gets, call = .getting goal gets
  · obtain ⟨goal, gets, rfl⟩ := getting
    obtain ⟨all, beside, -⟩ := phase
    simp only [need?, there] at needs
    obtain ⟨get, this, own⟩ := Option.bind_eq_some_iff.mp needs
    have informed : get.Reads source reply := by
      intro reading result replied
      have path : need = .readText get.identity.path := by
        simpa [Get.need?, reading] using own.symm
      exact Reply.text.inj (replied.symm.trans (reads _ path))
    obtain ⟨front, back, rfl, set⟩ := exists_split this
    simp only [Engine.step, there, stepGet, this, set]
    exact course_withGets (beside.step distinct reply) (kept.step beside informed course) all
  · exact course_publish kept there course fun goal gets same => getting ⟨goal, gets, same⟩

/-- What the steps of the call come to. -/
theorem Runs.run (runs : before.Runs P id engine) (kept : Kept source before P)
    (distinct : Registry.Distinct before.registry.list) {events : List Event}
    (informed : Follows Engine.act (Informed source id) engine events) :
    before.Runs P id (engine.run events) :=
  informed.preserves (fun _ _ runs told => Runs.act runs kept distinct told) runs

/-- What is kept holds at any time. -/
theorem Runs.holds (runs : before.Runs P id engine) : ∃ gets, P engine.cache gets := by
  obtain ⟨call, -, course⟩ := runs.course
  cases call with
  | getting goal gets => exact ⟨gets, course⟩
  | publishing pending publication =>
    obtain ⟨-, ⟨gets, -, -, holds⟩, -⟩ := course
    exact ⟨gets, holds⟩
  | finished result =>
    cases result with
    | ok answer =>
      obtain ⟨⟨gets, -, -, holds⟩, -⟩ := course
      exact ⟨gets, holds⟩
    | error fault =>
      rcases course with ⟨⟨gets, -, -, holds⟩, -⟩ | ⟨⟨gets, -, -, holds⟩, -⟩ <;> exact ⟨gets, holds⟩
  | _ => exact course.elim

/-- With a result, either all entries are there, and a snapshot that will do is published, with which the
call ends unless a new one could not be written. Or there was no analyzer for some component. -/
theorem Runs.of_result (runs : before.Runs P id engine) (answered : (engine.result? id).isSome) :
    before.Got P engine ∧ engine.published = before.conclusion engine ∧
        (engine.snapshot? id = some (before.conclusion engine) ∨
          engine.snapshot? id = none ∧ ¬ before.StillCurrent engine) ∨
      before.Missed P engine ∧ engine.snapshot? id = none := by
  obtain ⟨call, there, course⟩ := runs.course
  rw [result?, there, Option.bind_some] at answered
  simp only [snapshot?, result?, there, Option.bind_some]
  cases call with
  | finished result =>
    cases result with
    | error fault =>
      rcases course with ⟨got, outdated, published⟩ | ⟨missed, -⟩
      · exact .inl ⟨got, published, .inr ⟨rfl, outdated⟩⟩
      · exact .inr ⟨missed, rfl⟩
    | ok answer =>
      obtain ⟨got, rfl, published⟩ := course
      exact .inl ⟨got, published, .inl rfl⟩
  | _ => cases answered

end Engine

end ComponentCatalog
