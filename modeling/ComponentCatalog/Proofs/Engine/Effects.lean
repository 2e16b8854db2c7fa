import ComponentCatalog.Proofs.Engine.Sound

/-! # What an event does to calls and to what is published

An event moves one call on at most. Most calls that it comes to are calm: they neither publish nor
write files. `Move` tells the other ones apart, each with the call before and behind it, and `Effect`
adds the three steps by which a snapshot is published: what these few keep, every event keeps.
-/

namespace ComponentCatalog

open Component Cache

/-- Getting an entry takes no snapshot. -/
theorem Cache.Get.Transition.generation {setup : Setup} {cache cache' : Cache} {get : Get}
    {reply : Reply} {stage : Get.Stage} (step : Get.Transition setup cache get reply cache' stage) :
    cache'.generation = cache.generation := by
  cases step with
  | unreadable _ _ =>
    rcases recordUnreadable_cases cache get.identity _ with ⟨_, eq⟩ | ⟨_, eq⟩ <;> rw [eq] <;> rfl
  | @record _ task _ analysis result _ _ _ =>
    rcases finish_cases cache analysis.identity.path task result.toOption with
      ⟨_, eq⟩ | ⟨_, _, _, _, _, ⟨_, _, eq⟩ | ⟨_, eq⟩⟩ <;> simp only [Cache.recorded, eq] <;> rfl
  | _ => rfl

theorem Cache.generation_invalidate (cache : Cache) (path : Path) :
    (cache.invalidate path).generation = cache.generation := by
  unfold Cache.invalidate
  split <;> rfl

theorem Cache.generation_remove (cache : Cache) (path : Path) :
    (cache.remove path).generation = cache.generation := by
  unfold Cache.remove
  split <;> rfl

namespace Engine

/-- A call that takes no snapshot and writes no file. -/
def Call.Calm : Call → Prop
  | .getting .. | .forgetting .. | .publishing _ .waiting | .finished _ => True
  | _ => False

/-- A call that takes a snapshot or writes its files. -/
def Call.Publishes : Call → Prop
  | .publishing _ (.collecting ..) | .publishing _ (.writing ..) => True
  | _ => False

theorem Call.Calm.not_publishes {call : Call} (calm : call.Calm) : ¬ call.Publishes := by
  cases call with
  | publishing pending publication =>
    cases publication with
    | waiting => exact id
    | collecting _ _ _ => cases calm
    | writing _ _ => cases calm
  | _ => exact id

/-- The file that a call is writing. -/
def Call.artifact? : Call → Option Artifact
  | .publishing _ (.writing _ (artifact :: _)) => some artifact
  | .writingStub artifact => some artifact
  | _ => none

/-- The file that a call looks for or writes, if it is to write the module without components. -/
def Call.stub? : Call → Option Artifact
  | .lookingForStub artifact | .writingStub artifact => some artifact
  | _ => none

/-- The file whose writing an event takes on or breaks off. -/
def touched? (engine : Engine) : Event → Option Artifact
  | .step id _ _ | .drop id => (engine.calls.get? id).bind Call.artifact?
  | _ => none

theorem Call.Calm.artifact? {call : Call} (calm : call.Calm) : call.artifact? = none := by
  cases call with
  | publishing pending publication =>
    cases publication with
    | waiting => rfl
    | collecting _ _ _ => cases calm
    | writing _ _ => cases calm
  | writingStub artifact => cases calm
  | _ => rfl

theorem Call.Calm.stub? {call : Call} (calm : call.Calm) : call.stub? = none := by
  cases call <;> first | rfl | cases calm

theorem Call.Publishes.stub? {call : Call} (publishes : call.Publishes) : call.stub? = none := by
  cases call <;> first | rfl | cases publishes

/-- A call that answered with a snapshot. -/
def Call.Showed (call : Call) : Prop :=
  ∃ snapshot, call = .finished (.ok (.snapshot snapshot))

/-- One call moved on, was made or was dropped, and nothing was published. No other call publishes
now, and if this one published it goes on or lets others. -/
structure Moved (engine next : Engine) (id : Nat) (call? : Option Call) : Prop where
  calls : ∀ other, next.calls.get? other =
    if id = other then call? else engine.calls.get? other
  published : next.published = engine.published
  generation : next.cache.generation = engine.cache.generation
  publisher : next.publisher? = engine.publisher? ∨
    engine.publisher? = some id ∧ next.publisher? = none ∧
      ∀ call, call? = some call → ¬ call.Publishes
  rootDir : next.rootDir = engine.rootDir
  outputDir : next.outputDir? = engine.outputDir?

/-- Two engines have the same calls and publish the same. -/
structure Alike (engine next : Engine) : Prop where
  calls : next.calls = engine.calls
  published : next.published = engine.published
  generation : next.cache.generation = engine.cache.generation
  publisher : next.publisher? = engine.publisher?
  rootDir : next.rootDir = engine.rootDir
  outputDir : next.outputDir? = engine.outputDir?

variable {engine middle next : Engine} {id index : Nat} {reply : Reply}

/-! ## Calls that move on -/

theorem Alike.refl (engine : Engine) : engine.Alike engine := ⟨rfl, rfl, rfl, rfl, rfl, rfl⟩

theorem Alike.changeCache (engine : Engine) (change : Cache → Cache)
    (generation : (change engine.cache).generation = engine.cache.generation) :
    engine.Alike (engine.changeCache change) := ⟨rfl, rfl, generation, rfl, rfl, rfl⟩

namespace Moved

theorem of_alike (alike : engine.Alike next) (id : Nat) :
    engine.Moved next id (engine.calls.get? id) where
  calls := by
    intro other
    rw [alike.calls]
    split
    · next same => rw [same]
    · rfl
  published := alike.published
  generation := alike.generation
  publisher := .inl alike.publisher
  rootDir := alike.rootDir
  outputDir := alike.outputDir

/-- Before the call moved, other parts of the engine changed. -/
theorem behind {call? : Option Call} (moved : middle.Moved next id call?)
    (alike : engine.Alike middle) : engine.Moved next id call? where
  calls := alike.calls ▸ moved.calls
  published := moved.published.trans alike.published
  generation := moved.generation.trans alike.generation
  publisher := alike.publisher ▸ moved.publisher
  rootDir := moved.rootDir.trans alike.rootDir
  outputDir := moved.outputDir.trans alike.outputDir

/-- A call behind the move is the one that moved, or it stood there before. -/
theorem was {call? : Option Call} {call : Call} {other : Nat} (moved : engine.Moved next id call?)
    (now : next.calls.get? other = some call) :
    id = other ∧ call? = some call ∨ id ≠ other ∧ engine.calls.get? other = some call := by
  rw [moved.calls] at now
  split at now
  · next same => exact .inl ⟨same, now⟩
  · next another => exact .inr ⟨another, now⟩

theorem setCall (engine : Engine) (id : Nat) (call : Call) :
    engine.Moved (engine.setCall id call) id (some call) :=
  ⟨fun _ => calls_setCall .., rfl, rfl, .inl rfl, rfl, rfl⟩

theorem finish (engine : Engine) (id : Nat) (result : Except Fault Answer) :
    engine.Moved (engine.finish id result) id (some (.finished result)) where
  calls := fun _ => calls_finish ..
  published := rfl
  generation := rfl
  publisher := by
    by_cases mine : engine.publisher? = some id
    · refine .inr ⟨mine, by simp [Engine.finish, Engine.setCall, mine], ?_⟩
      rintro _ ⟨⟩
      exact Call.Calm.not_publishes trivial
    · exact .inl (by simp [Engine.finish, Engine.setCall, mine])
  rootDir := rfl
  outputDir := rfl

theorem deliver (engine : Engine) (id : Nat) (pending : Pending) (snapshot : Snapshot) :
    engine.Moved (engine.deliver id pending snapshot) id
      (some (.finished (pending.answer snapshot))) := by
  rw [deliver_eq]
  exact (Moved.finish ..).behind ⟨rfl, rfl, rfl, rfl, rfl, rfl⟩

theorem drop (engine : Engine) (id : Nat) : engine.Moved (engine.drop id) id none where
  calls := fun _ => calls_drop ..
  published := rfl
  generation := rfl
  publisher := by
    by_cases mine : engine.publisher? = some id
    · exact .inr ⟨mine, by simp [Engine.drop, mine], by rintro _ ⟨⟩⟩
    · exact .inl (by simp [Engine.drop, mine])
  rootDir := rfl
  outputDir := rfl

end Moved

/-- A call moved on and is calm, and answered no snapshot unless it did before. -/
def Calmly (engine next : Engine) (id : Nat) : Prop :=
  ∃ call?, engine.Moved next id call? ∧
    (call? = engine.calls.get? id ∨ ∃ call, call? = some call ∧ call.Calm ∧ ¬ call.Showed)

namespace Calmly

theorem setCall (engine : Engine) (id : Nat) {call : Call} (calm : call.Calm)
    (open_ : ¬ call.Showed) : engine.Calmly (engine.setCall id call) id :=
  ⟨_, .setCall .., .inr ⟨_, rfl, calm, open_⟩⟩

theorem finish (engine : Engine) (id : Nat) {result : Except Fault Answer}
    (open_ : ¬ (Call.finished result).Showed) : engine.Calmly (engine.finish id result) id :=
  ⟨_, .finish .., .inr ⟨_, rfl, trivial, open_⟩⟩

theorem behind (calmly : middle.Calmly next id) (alike : engine.Alike middle) :
    engine.Calmly next id := by
  obtain ⟨call?, moved, after⟩ := calmly
  exact ⟨call?, moved.behind alike, alike.calls ▸ after⟩

theorem withGets (engine : Engine) (id : Nat) (goal : Goal) (gets : List Get) :
    engine.Calmly (engine.withGets id goal gets) id := by
  rcases engine.withGets_cases id goal gets with
    ⟨-, eq⟩ | ⟨-, reason, eq⟩ | ⟨entries, -, eq⟩ <;> rw [eq]
  · exact .setCall engine id trivial (by rintro ⟨_, ⟨⟩⟩)
  · exact .finish engine id (by rintro ⟨_, ⟨⟩⟩)
  · generalize after : engine.withEntries id entries goal = next
    cases after ▸ engine.withEntries_spec id entries goal with
    | rest _ => exact ⟨_, .of_alike (.refl engine) id, .inl rfl⟩
    | publish _ => exact .setCall engine id trivial (by rintro ⟨_, ⟨⟩⟩)
    | plain => exact .finish engine id (by rintro ⟨_, ⟨⟩⟩)

theorem withDiff (engine : Engine) (id : Nat) (diff : Diff) :
    engine.Calmly (engine.withDiff id diff) id := by
  unfold Engine.withDiff
  split
  · exact .finish engine id (by rintro ⟨_, ⟨⟩⟩)
  · exact .setCall engine id trivial (by rintro ⟨_, ⟨⟩⟩)

end Calmly

/-! ## What events do -/

/-- How an event moves one call on, by which nothing is published. -/
inductive Move (engine : Engine) : Event → Nat → Option Call → Prop
  /-- The call stays as it is, and no file is being written. -/
  | rest {event : Event} {id : Nat} {call? : Option Call} (same : call? = engine.calls.get? id)
      (quiet : engine.touched? event = none) : Move engine event id call?
  /-- The call is made. -/
  | start {id : Nat} {job : Job} {call : Call} (calm : call.Calm)
      (stub : call.Showed → job = .stub) : Move engine (.start id job) id (some call)
  /-- The call is made, and is to write the module without components. -/
  | look {id : Nat} {dir : Path} (out : engine.outputDir? = some dir) :
      Move engine (.start id .stub) id (some (.lookingForStub (.stub dir)))
  | drop {id : Nat} : Move engine (.drop id) id none
  | calm {id index : Nat} {reply : Reply} {before call : Call}
      (now : engine.calls.get? id = some before) (was : before.Calm) (calm : call.Calm)
      (current : call.Showed → engine.UpToDate) :
      Move engine (.step id index reply) id (some call)
  /-- A published file is being written, or was. -/
  | write {id index : Nat} {reply : Reply} {pending : Pending} {snapshot : Snapshot}
      {artifact : Artifact} {rest left : List Artifact}
      (now : engine.calls.get? id =
        some (.publishing pending (.writing snapshot (artifact :: rest))))
      (progress : (∃ going, artifact.step reply = .going going ∧ left = going :: rest) ∨
        artifact.step reply = .written ∧ left = rest) :
      Move engine (.step id index reply) id (some (.publishing pending (.writing snapshot left)))
  | failed {id index : Nat} {reply : Reply} {pending : Pending} {snapshot : Snapshot}
      {artifact : Artifact} {rest : List Artifact} {fault : Fault}
      (now : engine.calls.get? id =
        some (.publishing pending (.writing snapshot (artifact :: rest))))
      (failed : artifact.step reply = .failed fault) :
      Move engine (.step id index reply) id (some (.finished (.error fault)))
  | deliver {id index : Nat} {reply : Reply} {pending : Pending} {snapshot : Snapshot}
      (now : engine.calls.get? id = some (.publishing pending (.writing snapshot []))) :
      Move engine (.step id index reply) id (some (.finished (pending.answer snapshot)))
  /-- There is a module already. -/
  | there {id index : Nat} {artifact : Artifact}
      (now : engine.calls.get? id = some (.lookingForStub artifact)) :
      Move engine (.step id index (.there true)) id
        (some (.finished (.ok (.snapshot engine.published))))
  | missing {id index : Nat} {artifact : Artifact}
      (now : engine.calls.get? id = some (.lookingForStub artifact)) :
      Move engine (.step id index (.there false)) id (some (.writingStub artifact))
  /-- The module without components is being written. -/
  | stub {id index : Nat} {reply : Reply} {artifact going : Artifact}
      (now : engine.calls.get? id = some (.writingStub artifact))
      (progress : artifact.step reply = .going going) :
      Move engine (.step id index reply) id (some (.writingStub going))
  /-- The module without components was written, or could not be. -/
  | stubbed {id index : Nat} {reply : Reply} {artifact : Artifact} {result : Except Fault Answer}
      (now : engine.calls.get? id = some (.writingStub artifact))
      (progress : artifact.step reply = .written ∨ ∃ fault, artifact.step reply = .failed fault) :
      Move engine (.step id index reply) id (some (.finished result))

/-- What an event can do to calls and to what is published. -/
inductive Effect (engine : Engine) : Event → Engine → Prop
  | move {event : Event} {next : Engine} {id : Nat} {call? : Option Call}
      (moved : engine.Moved next id call?) (how : engine.Move event id call?) :
      Effect engine event next
  | turn {id index : Nat} {reply : Reply} {pending : Pending}
      (now : engine.calls.get? id = some (.publishing pending .waiting))
      (free : engine.publisher? = none) :
      Effect engine (.step id index reply)
        ({ engine with publisher? := some id }.setCall id
          (.publishing pending (.collecting engine.cache.revision engine.registry.list [])))
  | collect {id index : Nat} {reply : Reply} {pending : Pending} {revision : Nat}
      {identity : Identity} {rest : List Identity} {shown : Table String SnapshotEntry}
      (now : engine.calls.get? id =
        some (.publishing pending (.collecting revision (identity :: rest) shown))) :
      Effect engine (.step id index reply)
        (engine.setCall id
          (.publishing pending (.collecting revision rest (engine.cache.collect shown identity))))
  | publish {id index : Nat} {reply : Reply} {pending : Pending} {revision : Nat}
      {shown : Table String SnapshotEntry}
      (now : engine.calls.get? id = some (.publishing pending (.collecting revision [] shown))) :
      Effect engine (.step id index reply)
        ({ engine with
            cache := { engine.cache with generation := engine.cache.generation + 1 }
            published := ⟨engine.cache.generation + 1, revision, shown⟩ }.setCall id
          (.publishing pending (.writing ⟨engine.cache.generation + 1, revision, shown⟩
            (engine.artifacts ⟨engine.cache.generation + 1, revision, shown⟩))))

private theorem Calmly.started {job : Job} (calmly : engine.Calmly next id) :
    engine.Effect (.start id job) next := by
  obtain ⟨call?, moved, same | ⟨call, rfl, calm, open_⟩⟩ := calmly
  · exact .move moved (.rest same rfl)
  · exact .move moved (.start calm fun showed => absurd showed open_)

private theorem Calmly.stepped {before : Call} (calmly : engine.Calmly next id)
    (now : engine.calls.get? id = some before) (was : before.Calm) :
    engine.Effect (.step id index reply) next := by
  obtain ⟨call?, moved, same | ⟨call, rfl, calm, open_⟩⟩ := calmly
  · exact .move moved (.rest same (by simp [touched?, now, was.artifact?]))
  · exact .move moved (.calm now was calm fun showed => absurd showed open_)

private theorem start_effect (engine : Engine) (id : Nat) (job : Job) :
    engine.Effect (.start id job) (engine.start id job) := by
  cases job with
  | sync descriptors =>
    simp only [Engine.start, foldl_tell]
    refine Calmly.started (Calmly.behind (.withDiff ..) ?_)
    exact ⟨rfl, rfl, rfl, rfl, rfl, rfl⟩
  | parse identity =>
    simp only [Engine.start]
    exact (Calmly.withGets ..).started
  | parseNamed name =>
    simp only [Engine.start]
    split
    · exact (Calmly.withGets ..).started
    · exact Calmly.started (.finish engine id (by rintro ⟨_, ⟨⟩⟩))
  | parseAll =>
    simp only [Engine.start]
    exact (Calmly.withGets ..).started
  | changed path =>
    simp only [Engine.start]
    split
    · have kept := engine.cache.generation_invalidate path
      exact ((Calmly.withGets ..).behind (.changeCache engine (·.invalidate path) kept)).started
    · exact Calmly.started (.finish engine id (by rintro ⟨_, ⟨⟩⟩))
  | get identity =>
    simp only [Engine.start]
    exact (Calmly.withGets ..).started
  | forget path => exact Calmly.started (.setCall engine id trivial (by rintro ⟨_, ⟨⟩⟩))
  | stub =>
    simp only [Engine.start]
    split
    · next dir out => exact .move (.setCall ..) (.look out)
    · exact .move (.finish ..) (.start trivial fun _ => rfl)

private theorem write_effect {pending : Pending} {snapshot : Snapshot} {artifact : Artifact}
    {rest : List Artifact}
    (now : engine.calls.get? id =
      some (.publishing pending (.writing snapshot (artifact :: rest)))) :
    engine.Effect (.step id index reply) (engine.step id index reply) := by
  simp only [Engine.step, now, stepWrite]
  split
  · next going => exact .move (.setCall ..) (.write now (.inl ⟨_, going, rfl⟩))
  · next done => exact .move (.setCall ..) (.write now (.inr ⟨done, rfl⟩))
  · next failed => exact .move (.finish ..) (.failed now failed)

private theorem stub_effect {artifact : Artifact}
    (now : engine.calls.get? id = some (.writingStub artifact)) :
    engine.Effect (.step id index reply) (engine.step id index reply) := by
  simp only [Engine.step, now, stepStub]
  split
  · next going => exact .move (.setCall ..) (.stub now going)
  · next done => exact .move (.finish ..) (.stubbed now (.inl done))
  · next failed => exact .move (.finish ..) (.stubbed now (.inr ⟨_, failed⟩))

/-- Steps that write no file. -/
private theorem quiet_effect (quiet : (engine.calls.get? id).bind Call.artifact? = none) :
    engine.Effect (.step id index reply) (engine.step id index reply) := by
  have spec := engine.step_spec id index reply
  generalize engine.step id index reply = next at spec
  cases spec with
  | rest => exact .move (.of_alike (.refl engine) id) (.rest rfl quiet)
  | @get goal gets get now this =>
    have kept := (get.step_transition engine.setup engine.cache reply).generation
    refine Calmly.stepped (Calmly.behind (.withGets ..) ?_) now trivial
    exact ⟨rfl, rfl, kept, rfl, rfl, rfl⟩
  | @forget path rest diff? now =>
    have kept := engine.cache.generation_remove path
    refine Calmly.stepped (Calmly.behind (.setCall _ id trivial ?_) ?_) now trivial
    · rintro ⟨_, ⟨⟩⟩
    · exact .changeCache engine (·.remove path) kept
  | forgotten now =>
    exact Calmly.stepped (.setCall engine id trivial (by rintro ⟨_, ⟨⟩⟩)) now trivial
  | removed now => exact Calmly.stepped (.finish engine id (by rintro ⟨_, ⟨⟩⟩)) now trivial
  | reuse now _ current =>
    exact .move (.deliver ..) (.calm now trivial trivial fun _ => current)
  | turn now free _ => exact .turn now free
  | collect now => exact .collect now
  | publish now => exact .publish now
  | deliver now => exact .move (.deliver ..) (.deliver now)
  | stubThere now there => exact there ▸ .move (.finish ..) (.there now)
  | stubMissing now there => exact there ▸ .move (.setCall ..) (.missing now)
  | write now _ => simp [now, Call.artifact?] at quiet
  | written now _ => simp [now, Call.artifact?] at quiet
  | failed now _ => simp [now, Call.artifact?] at quiet
  | stubWrite now _ => simp [now, Call.artifact?] at quiet
  | stubWritten now _ => simp [now, Call.artifact?] at quiet
  | stubFailed now _ => simp [now, Call.artifact?] at quiet

private theorem step_effect (engine : Engine) (id index : Nat) (reply : Reply) :
    engine.Effect (.step id index reply) (engine.step id index reply) := by
  cases quiet : (engine.calls.get? id).bind Call.artifact? with
  | none => exact quiet_effect quiet
  | some artifact =>
    obtain ⟨call, now, writes⟩ := Option.bind_eq_some_iff.mp quiet
    unfold Call.artifact? at writes
    split at writes
    · exact write_effect now
    · exact stub_effect now
    · cases writes

/-- An event does what `Effect` says. -/
theorem act_effect (engine : Engine) (event : Event) : engine.Effect event (engine.act event) := by
  cases event with
  | start id job => exact start_effect engine id job
  | step id index reply => exact step_effect engine id index reply
  | drop id => exact .move (.drop engine id) .drop
  | invalidate path =>
    have kept := engine.cache.generation_invalidate path
    exact .move (.of_alike (.changeCache engine (·.invalidate path) kept) 0) (.rest rfl rfl)
  | invalidateAll =>
    exact .move (.of_alike (.changeCache engine Cache.invalidateAll rfl) 0) (.rest rfl rfl)
  | takeNotices =>
    exact .move (.of_alike (.changeCache engine ({ · with notices := [] }) rfl) 0) (.rest rfl rfl)

/-! ## Runs -/

/-- The engine after events. -/
def run (engine : Engine) (events : List Event) : Engine := events.foldl act engine

theorem run_append (engine : Engine) (first second : List Event) :
    engine.run (first ++ second) = (engine.run first).run second :=
  List.foldl_append

theorem run_concat (engine : Engine) (events : List Event) (event : Event) :
    engine.run (events ++ [event]) = (engine.run events).act event := by
  simp [run]

/-- An engine that was just made. -/
def Created (engine : Engine) : Prop :=
  ∃ options exclude pipeline plan made, engine = create options exclude pipeline plan made

theorem Created.calls (created : engine.Created) (id : Nat) : engine.calls.get? id = none := by
  obtain ⟨_, _, _, _, _, rfl⟩ := created
  rfl

theorem Created.published (created : engine.Created) : engine.published = .stub := by
  obtain ⟨_, _, _, _, _, rfl⟩ := created
  rfl

/-! ## Snapshots on their way -/

/-- No call begins to take a snapshot by the way. -/
theorem Move.collecting {event : Event} {pending : Pending} {revision : Nat}
    {rest : List Identity} {shown : Table String SnapshotEntry}
    (how : engine.Move event id (some (.publishing pending (.collecting revision rest shown)))) :
    engine.calls.get? id = some (.publishing pending (.collecting revision rest shown)) := by
  cases how with
  | rest same _ => exact same.symm
  | start calm _ => cases calm
  | calm _ _ calm _ => cases calm

/-- A call that takes a snapshot did so before, with the same components, or it began to, or came by
one more component. -/
theorem Effect.collecting {event : Event} {pending : Pending} {revision : Nat}
    {rest : List Identity} {shown : Table String SnapshotEntry} (effect : engine.Effect event next)
    (now : next.calls.get? id = some (.publishing pending (.collecting revision rest shown))) :
    engine.calls.get? id = some (.publishing pending (.collecting revision rest shown)) ∨
    shown = [] ∨
    ∃ index reply identity before, event = .step id index reply ∧
      engine.calls.get? id =
        some (.publishing pending (.collecting revision (identity :: rest) before)) ∧
      shown = engine.cache.collect before identity := by
  cases effect with
  | move moved how =>
    rcases moved.was now with ⟨rfl, rfl⟩ | ⟨-, before⟩
    · exact .inl how.collecting
    · exact .inl before
  | turn _ _ =>
    rw [calls_setCall] at now
    split at now
    · cases now
      exact .inr (.inl rfl)
    · exact .inl now
  | @collect place index reply _ _ identity _ before was =>
    rw [calls_setCall] at now
    split at now
    · next same =>
      cases now
      exact .inr (.inr ⟨index, reply, identity, before, same ▸ rfl, same ▸ was, rfl⟩)
    · exact .inl now
  | publish _ =>
    rw [calls_setCall] at now
    split at now
    · cases now
    · exact .inl now

/-- A call behind an event stood there before, or publishes, or just moved on. -/
theorem Effect.was {event : Event} {call : Call} (effect : engine.Effect event next)
    (now : next.calls.get? id = some call) :
    engine.calls.get? id = some call ∨ call.Publishes ∨ engine.Move event id (some call) := by
  have setCall {other : Nat} {call' : Call}
      (now : (engine.setCall other call').calls.get? id = some call) (publishes : call'.Publishes) :
      engine.calls.get? id = some call ∨ call.Publishes ∨ engine.Move event id (some call) := by
    rw [calls_setCall] at now
    split at now
    · cases now
      exact .inr (.inl publishes)
    · exact .inl now
  cases effect with
  | move moved how =>
    rcases moved.was now with ⟨rfl, rfl⟩ | ⟨-, before⟩
    · exact .inr (.inr how)
    · exact .inl before
  | turn _ _ => exact setCall now trivial
  | collect _ => exact setCall now trivial
  | publish _ => exact setCall now trivial

/-- Once a snapshot was published, a real one is. -/
theorem Effect.real {event : Event} (effect : engine.Effect event next)
    (real : engine.published.isStub = false) : next.published.isStub = false := by
  cases effect with
  | move moved _ => rwa [moved.published]
  | turn _ _ => exact real
  | collect _ => exact real
  | publish _ => rfl

theorem Effect.outputDir {event : Event} (effect : engine.Effect event next) :
    next.outputDir? = engine.outputDir? := by
  cases effect with
  | move moved _ => exact moved.outputDir
  | _ => rfl

/-- The number of the last snapshot never falls. -/
theorem Effect.generation {event : Event} (effect : engine.Effect event next) :
    engine.cache.generation ≤ next.cache.generation := by
  cases effect with
  | move moved _ => exact Nat.le_of_eq moved.generation.symm
  | turn _ _ => exact Nat.le_refl _
  | collect _ => exact Nat.le_refl _
  | publish _ => exact Nat.le_succ _

/-- What is published was published before, unless a call had come by all components. -/
theorem Effect.published {event : Event} (effect : engine.Effect event next) :
    next.published = engine.published ∨
    ∃ id index reply pending revision, event = .step id index reply ∧
      engine.calls.get? id =
        some (.publishing pending (.collecting revision [] next.published.components)) := by
  cases effect with
  | move moved _ => exact .inl moved.published
  | turn _ _ => exact .inl rfl
  | collect _ => exact .inl rfl
  | publish now => exact .inr ⟨_, _, _, _, _, rfl, now⟩

end Engine

end ComponentCatalog
