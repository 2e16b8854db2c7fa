import ComponentCatalog.Proofs.Cache.Drive
import ComponentCatalog.Proofs.Cache.Seeking

/-! # A session and the files of its store

Every path holds the bytes of a file here, or nothing. The operations on the store succeed: what is read
is what a file holds, what is written is there afterwards, and what is removed takes its file along. An
analysis writes the file of its path only on a way that leads by the analyzer; on that way it is
`Storable` from its beginning.
-/

namespace ComponentCatalog

open Component

namespace Cache

/-- A session, and what the paths hold beside it. -/
structure Depot where
  session : Session := {}
  files : Path → Option ByteArray := fun _ => none

namespace Depot

/-- What the next step of a call needs, if it can take one. -/
def need? (setup : Setup) (depot : Depot) (id : Nat) : Option Need :=
  (depot.session.get? id).bind fun get => get.need? setup depot.session.cache

/-- What reading a file gives. -/
def read (depot : Depot) (file : Path) : Except Files.Fault ByteArray :=
  match depot.files file with
  | some bytes => .ok bytes
  | none => .error .missing

/-- What a path holds behind a move: a step that writes is through with it, and whatever is removed is
removed from the store, too. -/
def filesAfter (setup : Setup) (store : Store) (depot : Depot) (next : Move) (file : Path) :
    Option ByteArray :=
  match next with
  | .step id _ =>
    match depot.need? setup id with
    | some (.write written text) => if written = file then some text.toUTF8 else depot.files file
    | _ => depot.files file
  | .remove path => if store.file path = file then none else depot.files file
  | _ => depot.files file

/-- The session and the files after a move. -/
def move (setup : Setup) (store : Store) (depot : Depot) (next : Move) : Depot :=
  ⟨depot.session.move setup next, depot.filesAfter setup store next⟩

/-- The session and the files after moves, one after the other. -/
def run (setup : Setup) (store : Store) (depot : Depot) (moves : List Move) : Depot :=
  moves.foldl (move setup store) depot

/-- Reading and writing succeed. -/
def Succeeds (setup : Setup) (depot : Depot) : Move → Prop
  | .step id reply =>
    match depot.need? setup id with
    | some (.readBytes file) => reply = .bytes (depot.read file)
    | some (.write ..) => reply = .done (.ok ())
    | _ => True
  | _ => True

/-- The store holds something for a component. -/
def Holds (store : Store) (path : Path) (depot : Depot) : Prop :=
  (depot.files (store.file path)).isSome

theorem session_run (setup : Setup) (store : Store) (depot : Depot) (moves : List Move) :
    (depot.run setup store moves).session = depot.session.run setup moves := by
  induction moves generalizing depot with
  | nil => rfl
  | cons next rest ih => exact ih (depot.move setup store next)

end Depot

/-! ## Analyses that can store -/

/-- An analysis can still store what it finds: the steps accept its source, or it is past them. -/
inductive Analysis.Storable (setup : Setup) (analysis : Analysis) : Prop
  | created (stage : analysis.stage = .created) {text : String}
      (accepts : setup.pipeline.apply analysis.identity analysis.source = .ok text)
  | asked {request : Analyzer.Request} (stage : analysis.stage = .asked request)
  | storing {metadata : Metadata} {time : Nat} (stage : analysis.stage = .storing metadata time)

namespace Analysis.Storable

variable {setup : Setup} {analysis : Analysis}

theorem going (storable : analysis.Storable setup) : analysis.result? = none := by
  cases storable with
  | created stage _ => simp only [result?, stage]
  | asked stage => simp only [result?, stage]
  | storing stage => simp only [result?, stage]

/-- What a reply makes of a new analysis: what is stored counts, or the source is changed, or the reply
does not fit. -/
private theorem step_created {task : Nat} {cache : Cache} {reply : Reply}
    (created : analysis.stage = .created) :
    (analysis.step setup task cache reply).2 = (analysis.begin setup cache).2 ∨
      (analysis.step setup task cache reply).2 = analysis ∨
      ∃ outcome, (analysis.step setup task cache reply).2 = analysis.finding outcome := by
  unfold step
  rw [created]
  split
  · exact .inl rfl
  · split
    · exact .inr (.inr ⟨_, rfl⟩)
    · exact .inl rfl
  · exact .inl rfl
  · cases ‹Stage.created = .asked _›
  · cases ‹Stage.created = .storing _ _›
  · cases ‹Stage.created = .found _›
  · exact .inr (.inl rfl)

/-- No step of an analysis makes it storable. -/
theorem before {task : Nat} {cache : Cache} {reply : Reply}
    (storable : (analysis.step setup task cache reply).2.Storable setup) :
    analysis.Storable setup := by
  cases stage : analysis.stage with
  | created =>
    rcases step_created stage with begins | stays | ⟨outcome, finds⟩
    · cases applied : setup.pipeline.apply analysis.identity analysis.source with
      | ok text => exact .created stage applied
      | error fault =>
        rw [begins, begin, applied] at storable
        cases storable.going
    · rwa [stays] at storable
    · rw [finds] at storable
      cases storable.going
  | asked request => exact .asked stage
  | storing metadata time => exact .storing stage
  | found result =>
    rw [step_found analysis setup cache stage] at storable
    cases storable.going
  | recorded result =>
    unfold step at storable
    rw [stage] at storable
    exact storable

end Analysis.Storable

/-- What is storable behind a step was so before. -/
theorem Get.Transition.storable_before {setup : Setup} {cache cache' : Cache} {get : Get}
    {reply : Reply} {stage : Get.Stage} (sound : cache.Sound)
    (step : Get.Transition setup cache get reply cache' stage) {task : Nat}
    {analysis later : Analysis} (present : cache.tasks.get? task = some analysis)
    (there : cache'.tasks.get? task = some later) (storable : later.Storable setup) :
    analysis.Storable setup := by
  cases step with
  | unreadable _ _ =>
    rw [tasks_recordUnreadable, present] at there
    cases there
    exact storable
  | start _ _ _ =>
    have older := sound.numbered present
    rw [tasks_launched, if_neg (by omega), present] at there
    cases there
    exact storable
  | @work _ worked _ _ _ _ _ _ known _ _ _ eq =>
    simp only [Table.get?_set] at there
    split at there
    · next other =>
      cases there
      rw [other, present] at known
      cases known
      have now : (analysis.step setup worked cache reply).2.Storable setup := by
        rw [eq]
        exact storable
      exact now.before
    · cases present.symm.trans there
      exact storable
  | record _ known found =>
    rw [tasks_recorded] at there
    split at there
    · cases there
      cases storable.going
    · cases present.symm.trans there
      exact storable
  | _ =>
    cases present.symm.trans there
    exact storable

/-- What is storable behind a move was so before. -/
theorem Session.Sound.storable_before {setup : Setup} {session : Session} (sound : session.Sound)
    {next : Move} {task : Nat} {analysis later : Analysis}
    (present : session.cache.tasks.get? task = some analysis)
    (there : (session.move setup next).cache.tasks.get? task = some later)
    (storable : later.Storable setup) : analysis.Storable setup := by
  have kept (same : (session.move setup next).cache.tasks = session.cache.tasks) :
      analysis.Storable setup := by
    rw [same, present] at there
    cases there
    exact storable
  cases next with
  | step id reply =>
    cases known : session.get? id with
    | none => exact kept (by rw [move_step_none setup reply known])
    | some get =>
      rw [move_step setup reply known] at there
      have step := get.step_transition setup session.cache reply
      exact step.storable_before sound.cache present there storable
  | invalidate path => exact kept (tasks_invalidate ..)
  | remove path => exact kept (tasks_remove ..)
  | _ => exact kept rfl

end Cache

end ComponentCatalog
