import ComponentCatalog.Engine.Basic

/-! # What one step of a call can do

`Engine.Step` lists the steps, each with its guard and the whole engine behind it. All of them leave
the options, the setup and the registry as they are, and change no other call.
-/

namespace ComponentCatalog.Engine

open Component Cache

/-- The published snapshot shows the cache as it is. -/
def UpToDate (engine : Engine) : Prop :=
  engine.published.isStub = false ∧ engine.published.revision = engine.cache.revision

/-- What a step of a call can do. -/
inductive Step (engine : Engine) (id index : Nat) (reply : Reply) : Engine → Prop
  /-- Nothing: there is no such call, it is finished, it has to wait, or the reply is none to what
  was needed. -/
  | rest : Step engine id index reply engine
  | get {goal : Goal} {gets : List Get} {get : Get}
      (now : engine.calls.get? id = some (.getting goal gets)) (this : gets[index]? = some get) :
      Step engine id index reply
        ({ engine with cache := (get.step engine.setup engine.cache reply).1 }.withGets id goal
          (gets.set index (get.step engine.setup engine.cache reply).2))
  | forget {path : Path} {rest : List Path} {diff? : Option Diff}
      (now : engine.calls.get? id = some (.forgetting (path :: rest) diff?)) :
      Step engine id index reply
        ((engine.changeCache (·.remove path)).setCall id (.forgetting rest diff?))
  | forgotten {diff : Diff} (now : engine.calls.get? id = some (.forgetting [] (some diff))) :
      Step engine id index reply (engine.setCall id (.publishing (.diff diff) .waiting))
  | removed (now : engine.calls.get? id = some (.forgetting [] none)) :
      Step engine id index reply (engine.finish id (.ok .nothing))
  /-- The published snapshot will do. -/
  | reuse {pending : Pending} (now : engine.calls.get? id = some (.publishing pending .waiting))
      (free : engine.publisher? = none) (current : engine.UpToDate) :
      Step engine id index reply (engine.deliver id pending engine.published)
  | turn {pending : Pending} (now : engine.calls.get? id = some (.publishing pending .waiting))
      (free : engine.publisher? = none) (outdated : ¬ engine.UpToDate) :
      Step engine id index reply
        ({ engine with publisher? := some id }.setCall id
          (.publishing pending (.collecting engine.cache.revision engine.registry.list [])))
  | collect {pending : Pending} {revision : Nat} {identity : Identity} {rest : List Identity}
      {shown : Table String SnapshotEntry}
      (now : engine.calls.get? id =
        some (.publishing pending (.collecting revision (identity :: rest) shown))) :
      Step engine id index reply
        (engine.setCall id
          (.publishing pending (.collecting revision rest (engine.cache.collect shown identity))))
  | publish {pending : Pending} {revision : Nat} {shown : Table String SnapshotEntry}
      (now : engine.calls.get? id = some (.publishing pending (.collecting revision [] shown))) :
      Step engine id index reply
        ({ engine with
            cache := { engine.cache with generation := engine.cache.generation + 1 }
            published := ⟨engine.cache.generation + 1, revision, shown⟩ }.setCall id
          (.publishing pending (.writing ⟨engine.cache.generation + 1, revision, shown⟩
            (engine.artifacts ⟨engine.cache.generation + 1, revision, shown⟩))))
  | write {pending : Pending} {snapshot : Snapshot} {artifact next : Artifact}
      {rest : List Artifact}
      (now : engine.calls.get? id =
        some (.publishing pending (.writing snapshot (artifact :: rest))))
      (going : artifact.step reply = .going next) :
      Step engine id index reply
        (engine.setCall id (.publishing pending (.writing snapshot (next :: rest))))
  | written {pending : Pending} {snapshot : Snapshot} {artifact : Artifact} {rest : List Artifact}
      (now : engine.calls.get? id =
        some (.publishing pending (.writing snapshot (artifact :: rest))))
      (done : artifact.step reply = .written) :
      Step engine id index reply
        (engine.setCall id (.publishing pending (.writing snapshot rest)))
  | failed {pending : Pending} {snapshot : Snapshot} {artifact : Artifact} {rest : List Artifact}
      {fault : Fault}
      (now : engine.calls.get? id =
        some (.publishing pending (.writing snapshot (artifact :: rest))))
      (failed : artifact.step reply = .failed fault) :
      Step engine id index reply (engine.finish id (.error fault))
  | deliver {pending : Pending} {snapshot : Snapshot}
      (now : engine.calls.get? id = some (.publishing pending (.writing snapshot []))) :
      Step engine id index reply (engine.deliver id pending snapshot)
  /-- There is a module already. -/
  | stubThere {artifact : Artifact} (now : engine.calls.get? id = some (.lookingForStub artifact))
      (there : reply = .there true) :
      Step engine id index reply (engine.finish id (.ok (.snapshot engine.published)))
  | stubMissing {artifact : Artifact} (now : engine.calls.get? id = some (.lookingForStub artifact))
      (there : reply = .there false) :
      Step engine id index reply (engine.setCall id (.writingStub artifact))
  | stubWrite {artifact next : Artifact} (now : engine.calls.get? id = some (.writingStub artifact))
      (going : artifact.step reply = .going next) :
      Step engine id index reply (engine.setCall id (.writingStub next))
  | stubWritten {artifact : Artifact} (now : engine.calls.get? id = some (.writingStub artifact))
      (done : artifact.step reply = .written) :
      Step engine id index reply (engine.finish id (.ok (.snapshot engine.published)))
  | stubFailed {artifact : Artifact} {fault : Fault}
      (now : engine.calls.get? id = some (.writingStub artifact))
      (failed : artifact.step reply = .failed fault) :
      Step engine id index reply (engine.finish id (.error fault))

variable (engine : Engine) (id index : Nat) (reply : Reply)

private theorem step_publishing {pending : Pending} {publication : Publication}
    (now : engine.calls.get? id = some (.publishing pending publication)) :
    Step engine id index reply (engine.step id index reply) := by
  cases publication with
  | waiting =>
    simp only [step, now]
    split
    · next free =>
      rw [Option.isNone_iff_eq_none] at free
      simp only [stepTurn]
      split
      · next current =>
        refine .reuse now free ?_
        simpa [UpToDate] using current
      · next outdated =>
        refine .turn now free ?_
        simpa [UpToDate] using outdated
    · exact .rest
  | collecting revision rest shown =>
    simp only [step, now]
    cases rest with
    | nil => exact .publish now
    | cons identity rest => exact .collect now
  | writing snapshot artifacts =>
    simp only [step, now]
    cases artifacts with
    | nil => exact .deliver now
    | cons artifact rest =>
      simp only [stepWrite]
      split
      · next going => exact .write now going
      · next done => exact .written now done
      · next failed => exact .failed now failed

/-- A step does what `Step` says. -/
theorem step_spec : Step engine id index reply (engine.step id index reply) := by
  cases now : engine.calls.get? id with
  | none =>
    simp only [step, now]
    exact .rest
  | some call =>
    cases call with
    | getting goal gets =>
      simp only [step, now, stepGet]
      split
      · next this => exact .get now this
      · exact .rest
    | forgetting paths diff? =>
      simp only [step, now]
      cases paths with
      | cons path rest => exact .forget now
      | nil =>
        cases diff? with
        | some diff => exact .forgotten now
        | none => exact .removed now
    | publishing pending publication => exact step_publishing engine id index reply now
    | lookingForStub artifact =>
      simp only [step, now]
      split
      · exact .stubThere now rfl
      · exact .stubMissing now rfl
      · exact .rest
    | writingStub artifact =>
      simp only [step, now, stepStub]
      split
      · next going => exact .stubWrite now going
      · next done => exact .stubWritten now done
      · next failed => exact .stubFailed now failed
    | finished result =>
      simp only [step, now]
      exact .rest

end ComponentCatalog.Engine
