import ComponentCatalog.Proofs.Engine.Fate
import ComponentCatalog.Proofs.Engine.Serial

/-! # A call that is made alone

A call that is made when every other one has ended, and is told what it needs, comes to its fate: whatever
the order of its steps and whatever becomes of stored files on the way, it can go on until it has its
result, that is the one which was settled at its beginning, and so is how the engine stands then. What it
stores is what was found.
-/

namespace ComponentCatalog

open Component

namespace Engine

open Cache

/-! ## Between calls -/

/-- Every call has ended, and nobody publishes. -/
structure Resting (engine : Engine) : Prop where
  orderly : ∃ id call, engine.Orderly id call
  idle : engine.Idle
  free : engine.publisher? = none

theorem Resting.create (options : Options) (exclude : List Exclude) (pipeline : Pipeline)
    (plan : StorePlan) (made : Except Files.Fault Unit) :
    (Engine.create options exclude pipeline plan made).Resting :=
  ⟨⟨_, _, .create options exclude pipeline plan made⟩, by rintro _ _ ⟨⟩, rfl⟩

/-- A published file. -/
def IsOutput (path : Path) : Prop := ∃ dir, path ∈ outputFiles dir

/-- The components of which a call gets the entries. -/
def Job.gets (registry : Registry) : Job → List Identity
  | .parse identity | .get identity => [identity]
  | .parseNamed name => (registry.findByName? name).toList
  | .parseAll => registry.list
  | .changed path => (registry.get? path).toList
  | .sync _ | .forget _ | .stub => []

/-- How far a call is that is alone. -/
def Call.Sole (outside : Outside) (known : Identity → Prop) (engine : Engine) (id : Nat) : Call → Prop
  | .getting _ gets => engine.publisher? = none ∧ Gets outside engine gets ∧
      (∀ get ∈ gets, known get.identity) ∧ ∃ get ∈ gets, get.result? = none
  | .publishing _ (.collecting ..) => engine.publisher? = some id
  | .publishing _ (.writing _ artifacts) => engine.publisher? = some id ∧
      ∀ artifact ∈ artifacts, IsOutput artifact.file
  | .lookingForStub artifact | .writingStub artifact => engine.publisher? = none ∧
      IsOutput artifact.file
  | .forgetting .. | .publishing _ .waiting | .finished _ => engine.publisher? = none

/-- The call with a number is alone. -/
structure Sole (outside : Outside) (known : Identity → Prop) (id : Nat) (engine : Engine) : Prop where
  call : ∃ call, engine.calls.get? id = some call ∧ call.Sole outside known engine id
  orderly : ∃ call, engine.Orderly id call

variable {outside : Outside} {known : Identity → Prop} {engine : Engine} {id : Nat} {gets : List Get}

private theorem sole_setCall {call : Call} (sole : call.Sole outside known (engine.setCall id call) id) :
    ∃ call', (engine.setCall id call).calls.get? id = some call' ∧
      call'.Sole outside known (engine.setCall id call) id :=
  ⟨call, (calls_setCall ..).trans (if_pos rfl), sole⟩

private theorem sole_finish (free : engine.publisher? = none ∨ engine.publisher? = some id)
    (result : Except Fault Answer) :
    ∃ call, (engine.finish id result).calls.get? id = some call ∧
      call.Sole outside known (engine.finish id result) id := by
  refine ⟨.finished result, (calls_finish ..).trans (if_pos rfl), ?_⟩
  change (if engine.publisher? == some id then none else engine.publisher?) = none
  rcases free with free | own
  · rw [free]
    rfl
  · rw [own, if_pos (beq_self_eq_true _)]

private theorem sole_deliver (free : engine.publisher? = none ∨ engine.publisher? = some id)
    (pending : Pending) (snapshot : Snapshot) :
    ∃ call, (engine.deliver id pending snapshot).calls.get? id = some call ∧
      call.Sole outside known (engine.deliver id pending snapshot) id := by
  rw [deliver_eq]
  refine sole_finish ?_ _
  exact free

private theorem sole_withGets (gets_ : Gets outside engine gets)
    (among : ∀ get ∈ gets, known get.identity) (free : engine.publisher? = none) (goal : Goal)
    (nonempty : gets = [] → ∃ before, goal = .all before) :
    ∃ call, (engine.withGets id goal gets).calls.get? id = some call ∧
      call.Sole outside known (engine.withGets id goal gets) id := by
  rcases engine.withGets_cases id goal gets with
    ⟨missing, eq⟩ | ⟨-, reason, eq⟩ | ⟨entries, done, eq⟩ <;> rw [eq]
  · exact sole_setCall ⟨free,
      ⟨gets_.sound, gets_.distinct, gets_.alone, gets_.faithful, gets_.storesIn⟩, among, missing⟩
  · exact sole_finish (.inl free) _
  · generalize after : engine.withEntries id entries goal = next
    cases after ▸ engine.withEntries_spec id entries goal with
    | rest kind =>
      obtain ⟨before, all⟩ := nonempty (List.map_eq_nil_iff.mp done)
      exact absurd all (kind before)
    | publish _ => exact sole_setCall free
    | plain => exact sole_finish (.inl free) _

/-! ## The beginning -/

private theorem Gets.begin {identities : List Identity} (sound : engine.cache.Sound)
    (landed : ∀ path, (engine.cache.slot path).inFlight? = none)
    (distinct : (identities.map fun identity => identity.path.parts).Nodup) :
    Gets outside engine (identities.map fun identity => { identity }) := by
  refine ⟨sound, by simpa [List.map_map, Function.comp_def] using distinct, ?_, ?_, ?_⟩ <;>
    intro get member <;> obtain ⟨identity, -, rfl⟩ := List.mem_map.mp member
  · exact .begin (landed _)
  · exact .begin ..
  · rintro _ _ _ _ ⟨⟩

private theorem sole_begin_gets (resting : engine.Resting) (goal : Goal) (identities : List Identity)
    (distinct : (identities.map fun identity => identity.path.parts).Nodup)
    (among : ∀ identity ∈ identities, known identity)
    (nonempty : identities = [] → ∃ before, goal = .all before) :
    ∃ call, (engine.withGets id goal (identities.map fun identity => { identity })).calls.get? id =
        some call ∧
      call.Sole outside known (engine.withGets id goal (identities.map fun identity => { identity })) id := by
  obtain ⟨_, _, orderly⟩ := resting.orderly
  have ended := orderly.idle resting.idle id (.ok .nothing)
  refine sole_withGets (.begin orderly.sound.cache (ended.landed (by simp)) distinct) ?_ resting.free goal
    (nonempty ∘ List.map_eq_nil_iff.mp)
  intro get member
  obtain ⟨identity, there, rfl⟩ := List.mem_map.mp member
  exact among identity there

private theorem Resting.invalidate (resting : engine.Resting) (path : Path) :
    (engine.changeCache (·.invalidate path)).Resting := by
  obtain ⟨_, _, orderly⟩ := resting.orderly
  exact ⟨orderly.act (.invalidate path) resting.idle, resting.idle, resting.free⟩

theorem Resting.act_invalidate (resting : engine.Resting) (path : Path) :
    (engine.act (.invalidate path)).Resting := resting.invalidate path

theorem Resting.act_invalidateAll (resting : engine.Resting) : (engine.act .invalidateAll).Resting := by
  obtain ⟨_, _, orderly⟩ := resting.orderly
  exact ⟨orderly.act .invalidateAll resting.idle, resting.idle, resting.free⟩

theorem Resting.takeSnapshot (resting : engine.Resting) : engine.takeSnapshot.1.Resting := by
  obtain ⟨_, _, orderly⟩ := resting.orderly
  have ended := orderly.idle resting.idle 0 (.ok .nothing)
  refine ⟨⟨0, .finished (.ok .nothing), ?_⟩, resting.idle, resting.free⟩
  exact ⟨ended.sound.of_same rfl rfl rfl rfl rfl, ended.distinct, ended.revision, ended.calls, ended.present,
    ended.flights, trivial, ended.members⟩

/-- A call that is made between calls is alone. -/
theorem Resting.sole (resting : engine.Resting) (id : Nat) (job : Job)
    (among : ∀ identity ∈ job.gets engine.registry, known identity) :
    (engine.start id job).Sole outside known id := by
  obtain ⟨_, _, orderly⟩ := resting.orderly
  refine ⟨?_, (orderly.idle resting.idle id (.ok .nothing)).start job⟩
  have free := resting.free
  have single : ∀ {engine : Engine} (goal : Goal) (identity : Identity), engine.Resting →
      known identity → ∃ call, (engine.withGets id goal [{ identity }]).calls.get? id = some call ∧
        call.Sole outside known (engine.withGets id goal [{ identity }]) id :=
    fun goal identity resting knows =>
      sole_begin_gets resting goal [identity] (by simp) (by simpa using knows) (by simp)
  cases job with
  | sync descriptors =>
    simp only [start, withDiff]
    split
    · refine sole_finish (.inl ?_) _
      exact free
    · exact sole_setCall free
  | parse identity => exact single _ identity resting (among identity (by simp [Job.gets]))
  | parseNamed name =>
    simp only [start]
    split
    · next identity found =>
      exact single _ identity resting (among identity (by simp [Job.gets, found]))
    · exact sole_finish (.inl free) _
  | parseAll =>
    refine sole_begin_gets resting _ _ (List.pairwise_map.mpr (orderly.distinct.imp And.right)) among ?_
    exact fun _ => ⟨_, rfl⟩
  | changed path =>
    simp only [start]
    split
    · next identity found =>
      exact single _ identity (resting.invalidate path) (among identity (by simp [Job.gets, found]))
    · exact sole_finish (.inl free) _
  | get identity => exact single _ identity resting (among identity (by simp [Job.gets]))
  | forget path => exact sole_setCall free
  | stub =>
    simp only [start]
    split
    · next dir _ => exact sole_setCall ⟨free, dir, by simp [Artifact.stub, outputFiles]⟩
    · exact sole_finish (.inl free) _

/-! ## Steps -/

variable {index : Nat} {need : Need} {reply : Reply} {held : Path → Option ByteArray} {output : Output}

/-- What is published goes to published files. -/
private theorem isOutput_of_mem_artifacts {snapshot : Snapshot} {artifact : Artifact}
    (member : artifact ∈ engine.artifacts snapshot) : IsOutput artifact.file := by
  unfold artifacts at member
  split at member
  · next dir _ =>
    refine ⟨dir, ?_⟩
    simp only [Artifact.ofRecords, List.mem_cons, List.not_mem_nil, or_false] at member
    rcases member with rfl | rfl <;> simp [outputFiles]
  · cases member

private theorem sole_stepped {goal : Goal} {get : Get} (own : Gets outside engine gets)
    (among : ∀ get ∈ gets, known get.identity) (free : engine.publisher? = none)
    (trusts : ∀ identity source, known identity → outside.source identity.path = .ok source →
      engine.setup.Trusts outside.answer held identity source)
    (this : gets[index]? = some get) (needs : get.need? engine.setup engine.cache = some need)
    (tells : outside.Tells held need reply) :
    let next := { engine with cache := (get.step engine.setup engine.cache reply).1 }.withGets id goal
      (gets.set index (get.step engine.setup engine.cache reply).2)
    ∃ call, next.calls.get? id = some call ∧ call.Sole outside known next id := by
  obtain ⟨front, back, rfl, set⟩ := exists_split this
  simp only [set]
  refine sole_withGets ?_ ?_ ?_ goal ?_
  · refine own.step needs tells fun source read => ?_
    have faithful := own.faithful get (by simp)
    exact trusts _ _ (among get (by simp)) (faithful.read source read)
  · intro other member
    rcases mem_split_iff.mp member with rfl | beside
    · rw [Get.identity_step]
      exact among get (by simp)
    · exact among other (mem_split_iff.mpr (.inr beside))
  · exact free
  · simp

/-- Each step of a call that is told what it needs takes it on. -/
theorem Sole.step {call : Call} (sole : engine.Sole outside known id)
    (now : engine.calls.get? id = some call)
    (trusts : ∀ identity source, known identity → outside.source identity.path = .ok source →
      engine.setup.Trusts outside.answer held identity source)
    (needs : engine.need? id index = some need) (told : call.Told outside output held need reply) :
    (engine.step id index reply).Sole outside known id := by
  obtain ⟨⟨_, now', phase⟩, _, orderly⟩ := sole
  cases now.symm.trans now'
  refine ⟨?_, orderly.step id index reply⟩
  have spec := engine.step_spec id index reply
  generalize engine.step id index reply = next at spec
  cases spec with
  | rest => exact ⟨call, now, phase⟩
  | @get goal gets get there this =>
    cases now.symm.trans there
    obtain ⟨free, own, among, -⟩ := phase
    simp only [need?, there, this, Option.bind_some] at needs
    exact sole_stepped own among free trusts this needs told
  | forget there =>
    cases now.symm.trans there
    exact sole_setCall phase
  | forgotten there =>
    cases now.symm.trans there
    exact sole_setCall phase
  | removed there =>
    cases now.symm.trans there
    exact sole_finish (.inl phase) _
  | reuse there _ _ =>
    cases now.symm.trans there
    exact sole_deliver (.inl phase) _ _
  | turn there _ _ => exact sole_setCall rfl
  | collect there =>
    cases now.symm.trans there
    exact sole_setCall phase
  | publish there =>
    cases now.symm.trans there
    exact sole_setCall ⟨phase, fun _ => isOutput_of_mem_artifacts⟩
  | @write pending snapshot artifact next rest there going =>
    cases now.symm.trans there
    have file : next.file = artifact.file := congrArg Prod.fst (Artifact.output_of_going going)
    refine sole_setCall ⟨phase.1, ?_⟩
    simp only [List.forall_mem_cons, file]
    exact List.forall_mem_cons.mp phase.2
  | written there _ =>
    cases now.symm.trans there
    exact sole_setCall ⟨phase.1, (List.forall_mem_cons.mp phase.2).2⟩
  | failed there _ =>
    cases now.symm.trans there
    exact sole_finish (.inr phase.1) _
  | deliver there =>
    cases now.symm.trans there
    exact sole_deliver (.inr phase.1) _ _
  | stubThere there _ =>
    cases now.symm.trans there
    exact sole_finish (.inl phase.1) _
  | stubMissing there _ =>
    cases now.symm.trans there
    exact sole_setCall phase
  | @stubWrite artifact next there going =>
    cases now.symm.trans there
    have file : next.file = artifact.file := congrArg Prod.fst (Artifact.output_of_going going)
    refine sole_setCall ⟨phase.1, ?_⟩
    rw [file]
    exact phase.2
  | stubWritten there _ =>
    cases now.symm.trans there
    exact sole_finish (.inl phase.1) _
  | stubFailed there _ =>
    cases now.symm.trans there
    exact sole_finish (.inl phase.1) _

private theorem setup_withGets (engine : Engine) (id : Nat) (goal : Goal) (gets : List Get) :
    (engine.withGets id goal gets).setup = engine.setup := by
  rcases engine.withGets_cases id goal gets with
    ⟨-, eq⟩ | ⟨-, reason, eq⟩ | ⟨entries, -, eq⟩ <;> rw [eq]
  · rfl
  · rfl
  · generalize after : engine.withEntries id entries goal = next
    cases after ▸ engine.withEntries_spec id entries goal <;> rfl

theorem setup_start (engine : Engine) (id : Nat) (job : Job) :
    (engine.start id job).setup = engine.setup := by
  cases job with
  | sync descriptors =>
    simp only [start, withDiff]
    split <;> rfl
  | changed path =>
    simp only [start]
    split
    · exact setup_withGets ..
    · rfl
  | parseNamed name =>
    simp only [start]
    split
    · exact setup_withGets ..
    · rfl
  | stub =>
    simp only [start]
    split <;> rfl
  | forget path => rfl
  | _ => exact setup_withGets ..

theorem setup_step (engine : Engine) (id index : Nat) (reply : Reply) :
    (engine.step id index reply).setup = engine.setup := by
  have spec := engine.step_spec id index reply
  generalize engine.step id index reply = next at spec
  cases spec with
  | get _ _ => rw [setup_withGets]
  | reuse _ _ _ => rw [deliver_eq]; rfl
  | deliver _ => rw [deliver_eq]; rfl
  | _ => rfl

/-- How many steps are left of a call, at most. -/
def Call.toGo (engine : Engine) : Call → Nat
  | .forgetting paths _ => paths.length + engine.registry.list.length + 10
  | .lookingForStub artifact => artifact.left + 1
  | .writingStub artifact => artifact.left
  | call => call.left engine

/-- How many steps are left of the call with a number, at most. -/
def toGo (engine : Engine) (id : Nat) : Nat := ((engine.calls.get? id).map (Call.toGo engine)).getD 0

private theorem toGo_of_call {call : Call} (now : engine.calls.get? id = some call) :
    engine.toGo id = call.toGo engine := by
  simp only [toGo, now, Option.map_some, Option.getD_some]

private theorem toGo_setCall (engine : Engine) (id : Nat) (call : Call) :
    (engine.setCall id call).toGo id = call.toGo (engine.setCall id call) :=
  toGo_of_call ((calls_setCall ..).trans (if_pos rfl))

private theorem toGo_finish (engine : Engine) (id : Nat) (result : Except Fault Answer) :
    (engine.finish id result).toGo id = 0 :=
  toGo_of_call ((calls_finish ..).trans (if_pos rfl))

/-- A call that gets, publishes or has ended has the steps left that it would have if it got all components. -/
private theorem toGo_eq_left (kind : ∀ call, engine.calls.get? id = some call →
      call.toGo engine = call.left engine) : engine.toGo id = engine.left id := by
  cases now : engine.calls.get? id with
  | none => simp only [toGo, left, now, Option.map_none]
  | some call => rw [toGo_of_call now, left_of_call now, kind call now]

private theorem toGo_of_setCall {call : Call}
    (kind : call.toGo (engine.setCall id call) = call.left (engine.setCall id call)) :
    (engine.setCall id call).toGo id = (engine.setCall id call).left id := by
  refine toGo_eq_left fun other now => ?_
  rw [calls_setCall, if_pos rfl] at now
  cases now
  exact kind

private theorem toGo_of_finish (engine : Engine) (id : Nat) (result : Except Fault Answer) :
    (engine.finish id result).toGo id = (engine.finish id result).left id := by
  refine toGo_eq_left fun other now => ?_
  rw [calls_finish, if_pos rfl] at now
  cases now
  rfl

private theorem toGo_of_withGets (engine : Engine) (id : Nat) (goal : Goal)
    (nonempty : gets = [] → ∃ before, goal = .all before) :
    (engine.withGets id goal gets).toGo id = (engine.withGets id goal gets).left id := by
  rcases engine.withGets_cases id goal gets with ⟨-, eq⟩ | ⟨-, reason, eq⟩ | ⟨entries, done, eq⟩ <;> rw [eq]
  · exact toGo_of_setCall rfl
  · exact toGo_of_finish ..
  · generalize after : engine.withEntries id entries goal = next
    cases after ▸ engine.withEntries_spec id entries goal with
    | rest kind =>
      obtain ⟨before, all⟩ := nonempty (List.map_eq_nil_iff.mp done)
      exact absurd all (kind before)
    | publish _ => exact toGo_of_setCall rfl
    | plain => exact toGo_of_finish ..

private theorem toGo_of_publishing {pending : Pending} {publication : Publication}
    (now : engine.calls.get? id = some (.publishing pending publication)) :
    (engine.step id index reply).toGo id = (engine.step id index reply).left id := by
  have spec := engine.step_spec id index reply
  generalize engine.step id index reply = next at spec
  cases spec with
  | rest =>
    refine toGo_eq_left fun call there => ?_
    cases now.symm.trans there
    rfl
  | reuse _ _ _ =>
    rw [deliver_eq]
    exact toGo_of_finish ..
  | deliver _ =>
    rw [deliver_eq]
    exact toGo_of_finish ..
  | failed _ _ => exact toGo_of_finish ..
  | turn _ _ _ => exact toGo_of_setCall rfl
  | collect _ => exact toGo_of_setCall rfl
  | publish _ => exact toGo_of_setCall rfl
  | write _ _ => exact toGo_of_setCall rfl
  | written _ _ => exact toGo_of_setCall rfl
  | get there _ => cases now.symm.trans there
  | forget there => cases now.symm.trans there
  | forgotten there => cases now.symm.trans there
  | removed there => cases now.symm.trans there
  | stubThere there _ => cases now.symm.trans there
  | stubMissing there _ => cases now.symm.trans there
  | stubWrite there _ => cases now.symm.trans there
  | stubWritten there _ => cases now.symm.trans there
  | stubFailed there _ => cases now.symm.trans there

/-- Each step leaves less to do. -/
theorem Sole.toGo_step (sole : engine.Sole outside known id)
    (needs : engine.need? id index = some need) (fits : need.Fits reply) :
    (engine.step id index reply).toGo id < engine.toGo id := by
  obtain ⟨⟨call, now, phase⟩, -⟩ := sole
  rw [toGo_of_call now]
  cases call with
  | getting goal gets =>
    obtain ⟨-, own, -⟩ := phase
    simp only [need?, now] at needs
    obtain ⟨get, this, mine⟩ := Option.bind_eq_some_iff.mp needs
    obtain ⟨front, back, rfl, set⟩ := exists_split this
    have less := left_step_among own.sound own.alone own.apart (own.storesIn get (by simp)) mine fits
    simp only [Engine.step, now, stepGet, this, set]
    rw [toGo_of_withGets _ _ _ (by simp)]
    refine Nat.lt_of_le_of_lt (left_withGets _ _ _ _ (by simp)) ?_
    simpa [Call.toGo, Call.left] using less
  | forgetting paths diff? =>
    simp only [Engine.step, now]
    cases paths with
    | cons path rest => simp [stepForget, toGo_setCall, Call.toGo, changeCache]
    | nil =>
      cases diff? with
      | some diff => simp [stepForget, toGo_setCall, Call.toGo, Call.left, Publication.left]
      | none => simp [stepForget, toGo_finish, Call.toGo]
  | publishing pending publication =>
    rw [toGo_of_publishing now]
    exact Nat.lt_of_lt_of_eq (left_publishing now needs fits) (left_of_call now)
  | lookingForStub artifact =>
    simp only [need?, now, Option.some.injEq] at needs
    subst needs
    simp only [Engine.step, now]
    cases reply with
    | there yes => cases yes <;> simp [toGo_setCall, toGo_finish, Call.toGo]
    | _ => cases fits
  | writingStub artifact =>
    simp only [need?, now, Option.some.injEq] at needs
    subst needs
    simp only [Engine.step, now, stepStub]
    split
    · next going =>
      rw [toGo_setCall]
      exact Artifact.left_step fits going
    · rw [toGo_finish]
      exact artifact.left_pos
    · rw [toGo_finish]
      exact artifact.left_pos
  | finished result => simp [need?, now] at needs

/-- While the call has no result, it can take a step. -/
theorem Sole.exists_need (sole : engine.Sole outside known id) (going : engine.result? id = none) :
    ∃ index need, engine.need? id index = some need := by
  obtain ⟨⟨call, now, phase⟩, -⟩ := sole
  simp only [need?, now]
  cases call with
  | getting goal gets =>
    obtain ⟨-, own, -, get, member, missing⟩ := phase
    obtain ⟨index, this⟩ := List.getElem?_of_mem member
    obtain ⟨need, needs⟩ := Get.exists_need engine.setup (own.alone get member) missing
    exact ⟨index, need, by simp [this, needs]⟩
  | forgetting paths diff? => cases paths <;> simp
  | publishing pending publication =>
    cases publication with
    | waiting =>
      have free : engine.publisher? = none := phase
      simp [free]
    | collecting revision rest shown => simp
    | writing snapshot artifacts => cases artifacts <;> simp
  | finished result =>
    rw [result?, now] at going
    cases going
  | _ => simp

end Engine

end ComponentCatalog
