import ComponentCatalog.Proofs.Engine.Effects

/-! # One call publishes at a time

A call that takes a snapshot or writes its files is the one that publishes: the next one waits until it
has ended or was dropped. So the files that are being written are always those of the published
snapshot, and snapshots are numbered in the order in which they are published.
-/

namespace ComponentCatalog

open Component

namespace Engine

/-! ## Files to write -/

/-- A file and the text that it is to hold. -/
def Artifact.output (artifact : Artifact) : Path × String := (artifact.file, artifact.text)

@[simp] theorem Artifact.output_replace (artifact : Artifact) :
    artifact.replace.output = artifact.output := by
  unfold Artifact.replace
  split <;> rfl

/-- While a file is being written, it stays the same one, and so does its text. -/
theorem Artifact.output_of_going {artifact next : Artifact} {reply : Reply}
    (going : artifact.step reply = .going next) : next.output = artifact.output := by
  unfold Artifact.step at going
  split at going
  · split at going
    · cases going
    · cases going
      exact artifact.output_replace
  · cases going
    exact artifact.output_replace
  all_goals cases going <;> rfl

private theorem eq_of_beq_bytes {a b : ByteArray} (same : (a == b) = true) : a = b := by
  obtain ⟨a⟩ := a
  obtain ⟨b⟩ := b
  have data : (a == b) = true := same
  rw [beq_iff_eq.mp data]

/-- A file is written once it is found to hold its text, or was given it. -/
theorem Artifact.reply_of_written {artifact : Artifact} {reply : Reply}
    (written : artifact.step reply = .written) :
    artifact.stage = .reading ∧ reply = .bytes (.ok artifact.text.toUTF8) ∨
    artifact.stage = .writing ∧ reply = .done (.ok ()) := by
  unfold Artifact.step at written
  split at written
  · next bytes stage =>
    split at written
    · next same => exact .inl ⟨stage, by rw [eq_of_beq_bytes same]⟩
    · cases written
  · cases written
  · cases written
  · next stage => exact .inr ⟨stage, rfl⟩
  · cases written
  · cases written

/-- The writing of a file fails only with a reply that says so. -/
theorem Artifact.reply_of_failed {artifact : Artifact} {reply : Reply} {fault : Fault}
    (failed : artifact.step reply = .failed fault) :
    ∃ cause, reply = .done (.error cause) ∧ fault = .io artifact.file cause := by
  unfold Artifact.step at failed
  split at failed
  · split at failed <;> cases failed
  · cases failed
  · cases failed
  · cases failed
  · cases failed
    exact ⟨_, rfl, rfl⟩
  · cases failed

/-- A file that holds something else is written, once its directory is there. -/
theorem Artifact.going_of_other {artifact : Artifact} {bytes : ByteArray}
    (stage : artifact.stage = .reading) (other : bytes ≠ artifact.text.toUTF8) :
    artifact.step (.bytes (.ok bytes)) = .going artifact.replace := by
  simp only [Artifact.step, stage]
  rw [if_neg fun same => other (eq_of_beq_bytes same)]

theorem Artifact.stage_replace (artifact : Artifact) :
    (∃ dir, artifact.replace.stage = .makingDirs dir) ∨ artifact.replace.stage = .writing := by
  unfold Artifact.replace
  split
  · exact .inl ⟨_, rfl⟩
  · exact .inr rfl

/-- The files of what is published, with their texts. -/
def outputs (engine : Engine) : List (Path × String) :=
  (engine.artifacts engine.published).map Artifact.output

theorem outputs_eq {engine : Engine} {dir : Path} (out : engine.outputDir? = some dir) :
    engine.outputs =
      [(dir.join moduleFile, engine.records.moduleText), (dir.join jsonFile, engine.records.text)] := by
  simp [outputs, artifacts, out, Artifact.ofRecords, Artifact.output, records]

theorem artifacts_congr {engine next : Engine} (rootDir : next.rootDir = engine.rootDir)
    (outputDir : next.outputDir? = engine.outputDir?) (snapshot : Snapshot) :
    next.artifacts snapshot = engine.artifacts snapshot := by
  simp only [artifacts, rootDir, outputDir]

variable {engine next : Engine} {id : Nat}

theorem Moved.outputs {call? : Option Call} (moved : engine.Moved next id call?) :
    next.outputs = engine.outputs := by
  simp only [Engine.outputs, moved.published, artifacts_congr moved.rootDir moved.outputDir]

/-! ## The call that publishes -/

/-- A call that publishes keeps others from it, and writes the files of the published snapshot. -/
structure Locked (engine : Engine) : Prop where
  publisher : ∀ id call, engine.calls.get? id = some call → call.Publishes →
    engine.publisher? = some id
  writing : ∀ id pending snapshot artifacts,
    engine.calls.get? id = some (.publishing pending (.writing snapshot artifacts)) →
      snapshot = engine.published ∧ artifacts.map Artifact.output <:+ engine.outputs
  generation : engine.published.generation ≤ engine.cache.generation

/-- While both files are left to write, the module is written. -/
theorem Locked.module_first (locked : engine.Locked) {dir : Path}
    (out : engine.outputDir? = some dir) {pending : Pending} {snapshot : Snapshot}
    {first second : Artifact}
    (now : engine.calls.get? id = some (.publishing pending (.writing snapshot [first, second]))) :
    first.output = (dir.join moduleFile, engine.records.moduleText) := by
  have left := (locked.writing id _ _ _ now).2
  rw [outputs_eq out] at left
  exact (List.cons.inj (left.eq_of_length rfl)).1

/-- Two calls that publish are one. -/
theorem Locked.unique (locked : engine.Locked) {other : Nat} {call call' : Call}
    (now : engine.calls.get? id = some call) (publishes : call.Publishes)
    (now' : engine.calls.get? other = some call') (publishes' : call'.Publishes) : id = other :=
  Option.some.inj <| (locked.publisher id call now publishes).symm.trans
    (locked.publisher other call' now' publishes')

theorem Created.locked (created : engine.Created) : engine.Locked where
  publisher := by
    intro id call now
    cases (created.calls id).symm.trans now
  writing := by
    intro id _ _ _ now
    cases (created.calls id).symm.trans now
  generation := by
    rw [created.published]
    exact Nat.zero_le _

/-- A call that publishes behind a move did so before it. -/
theorem Move.publishes {event : Event} {call : Call} (how : engine.Move event id (some call))
    (publishes : call.Publishes) :
    ∃ before, engine.calls.get? id = some before ∧ before.Publishes := by
  cases how with
  | rest same _ => exact ⟨call, same.symm, publishes⟩
  | start calm _ => exact absurd publishes calm.not_publishes
  | calm _ _ calm _ => exact absurd publishes calm.not_publishes
  | write now _ => exact ⟨_, now, trivial⟩
  | _ => cases publishes

/-- A call that writes published files behind a move did so before it, and had at least these left. -/
theorem Move.writing {event : Event} {pending : Pending} {snapshot : Snapshot}
    {artifacts : List Artifact}
    (how : engine.Move event id (some (.publishing pending (.writing snapshot artifacts)))) :
    ∃ before, engine.calls.get? id = some (.publishing pending (.writing snapshot before)) ∧
      artifacts.map Artifact.output <:+ before.map Artifact.output := by
  cases how with
  | rest same _ => exact ⟨artifacts, same.symm, List.suffix_refl _⟩
  | start calm _ => cases calm
  | calm _ _ calm _ => cases calm
  | write now progress =>
    refine ⟨_, now, ?_⟩
    rcases progress with ⟨going, step, rfl⟩ | ⟨-, rfl⟩
    · simp only [List.map_cons, Artifact.output_of_going step, List.suffix_refl]
    · exact List.suffix_cons _ _

private theorem Locked.moved (locked : engine.Locked) {event : Event} {call? : Option Call}
    (moved : engine.Moved next id call?) (how : engine.Move event id call?) : next.Locked where
  publisher := by
    intro other call now publishes
    have before : engine.publisher? = some other := by
      rcases moved.was now with ⟨rfl, rfl⟩ | ⟨-, before⟩
      · obtain ⟨_, before, publishes⟩ := how.publishes publishes
        exact locked.publisher id _ before publishes
      · exact locked.publisher other call before publishes
    rcases moved.publisher with kept | ⟨mine, -, stops⟩
    · exact kept.trans before
    · cases mine.symm.trans before
      rw [moved.calls, if_pos rfl] at now
      exact absurd publishes (stops call now)
  writing := by
    intro other pending snapshot artifacts now
    rw [moved.published, moved.outputs]
    rcases moved.was now with ⟨rfl, rfl⟩ | ⟨-, before⟩
    · obtain ⟨_, before, left⟩ := how.writing
      obtain ⟨published, outputs⟩ := locked.writing id _ _ _ before
      exact ⟨published, left.trans outputs⟩
    · exact locked.writing other _ _ _ before
  generation := by
    rw [moved.published, moved.generation]
    exact locked.generation

/-- A call sets about publishing, or goes on with it: it is the only one. -/
private theorem Locked.publisher_setCall (locked : engine.Locked) {middle : Engine} {call : Call}
    (same : middle.calls = engine.calls) (mine : middle.publisher? = some id)
    (alone : engine.publisher? = none ∨ engine.publisher? = some id) (other : Nat) (call' : Call)
    (now : (middle.setCall id call).calls.get? other = some call') (publishes : call'.Publishes) :
    middle.publisher? = some other := by
  rw [calls_setCall] at now
  split at now
  · next here => rw [mine, here]
  · rw [same] at now
    have its := locked.publisher other call' now publishes
    rcases alone with free | here
    · cases free.symm.trans its
    · rw [mine, ← here, its]

/-- A call that takes a snapshot writes no file yet. -/
private theorem Locked.writing_setCall (locked : engine.Locked) {middle : Engine} {pending : Pending}
    {revision : Nat} {identities : List Identity} {shown : Table String SnapshotEntry}
    (same : middle.calls = engine.calls) (other : Nat) (pending' : Pending) (snapshot : Snapshot)
    (artifacts : List Artifact)
    (now : (middle.setCall id (.publishing pending (.collecting revision identities shown))).calls.get?
      other = some (.publishing pending' (.writing snapshot artifacts))) :
    snapshot = engine.published ∧ artifacts.map Artifact.output <:+ engine.outputs := by
  rw [calls_setCall] at now
  split at now
  · cases now
  · exact locked.writing other _ _ _ (same ▸ now)

/-- Every event preserves it. -/
theorem Locked.act (locked : engine.Locked) (event : Event) : (engine.act event).Locked := by
  have effect := engine.act_effect event
  generalize engine.act event = next at effect
  cases effect with
  | move moved how => exact locked.moved moved how
  | turn _ free =>
    exact ⟨locked.publisher_setCall rfl rfl (.inl free), locked.writing_setCall rfl,
      locked.generation⟩
  | collect was =>
    have mine := locked.publisher _ _ was trivial
    exact ⟨locked.publisher_setCall rfl mine (.inr mine), locked.writing_setCall rfl,
      locked.generation⟩
  | publish was =>
    have mine := locked.publisher _ _ was trivial
    refine ⟨locked.publisher_setCall rfl mine (.inr mine), fun other _ _ _ now => ?_, Nat.le_refl _⟩
    rw [calls_setCall] at now
    split at now
    · cases now
      exact ⟨rfl, List.suffix_refl _⟩
    · next another => exact absurd (locked.unique was trivial now trivial) another

theorem Locked.run (locked : engine.Locked) (events : List Event) : (engine.run events).Locked := by
  induction events generalizing engine with
  | nil => exact locked
  | cons event rest ih => exact ih (locked.act event)

end Engine

end ComponentCatalog
