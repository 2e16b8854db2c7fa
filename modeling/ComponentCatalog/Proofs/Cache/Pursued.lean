import ComponentCatalog.Proofs.Cache.Depot
import Mathlib.Data.List.Induction

/-! # Which metadata are on their way to a store

What a store comes to hold for a component is written by an analysis that is attended: a call waits for
it, or its slot does. An analysis that is started later is started by a call that read its source before,
or is still to read it. As long as no call is made, none of this begins anew; so what is not `Pursued`
when its slot and its file are removed is not stored any more.
-/

namespace ComponentCatalog

open Component

namespace Cache

/-- A call can come to look up a source: it is still to read it, or seeks it already. -/
def Get.MaySeek (cache : Cache) (source : String) (get : Get) : Prop :=
  get.stage = .reading ∨ get.Seeks cache source

namespace Session

/-- A task is attended: a call waits for it, or the slot of its path does. -/
inductive Attended (session : Session) (task : Nat) (path : Path) : Prop
  | waited {id : Nat} {get : Get} {source : String} {joined : Bool}
      (known : session.get? id = some get) (waiting : get.stage = .waiting source task joined)
  | flying {flight : InFlight} (flying : (session.cache.slot path).inFlight? = some flight)
      (number : flight.task = task)

/-- Metadata of a component are on their way to the store: a call waits for an analysis that can still
store, or can come to look up a source that the steps accept. -/
inductive Pursued (setup : Setup) (session : Session) (path : Path) : Prop
  | waited {id : Nat} {get : Get} {source : String} {task : Nat} {joined : Bool}
      {analysis : Analysis} (known : session.get? id = some get)
      (waiting : get.stage = .waiting source task joined)
      (present : session.cache.tasks.get? task = some analysis)
      (here : analysis.identity.path = path) (storable : analysis.Storable setup)
  | sought {id : Nat} {get : Get} {source text : String} (known : session.get? id = some get)
      (here : get.identity.path = path)
      (accepts : setup.pipeline.apply get.identity source = .ok text)
      (may : get.MaySeek session.cache source)

/-- No other path that calls or analyses are about has the same file. -/
structure Tells (store : Store) (path : Path) (session : Session) : Prop where
  calls : ∀ {id get}, session.get? id = some get →
    store.file get.identity.path = store.file path → get.identity.path = path
  analyses : ∀ {task analysis}, session.cache.tasks.get? task = some analysis →
    store.file analysis.identity.path = store.file path → analysis.identity.path = path

/-! ## Nothing new is attended or sought -/

section

variable {setup : Setup} {cache cache' : Cache} {get : Get} {reply : Reply} {stage : Get.Stage}

/-- Whoever waits for a task behind a step waited for it before, or joins it in its slot. -/
private theorem waits_before (sound : cache.Sound)
    (step : Get.Transition setup cache get reply cache' stage) {source : String} {task : Nat}
    {joined : Bool} (waiting : stage = .waiting source task joined) {analysis : Analysis}
    (present : cache.tasks.get? task = some analysis) :
    (∃ source joined, get.stage = .waiting source task joined) ∨
    ∃ flight, (cache.slot analysis.identity.path).inFlight? = some flight ∧ flight.task = task := by
  cases step with
  | rest => exact .inl ⟨_, _, waiting⟩
  | work _ _ _ _ _ _ => exact .inl ⟨_, _, waiting⟩
  | record _ _ _ => exact .inl ⟨_, _, waiting⟩
  | start _ _ _ =>
    -- The task is a new one, and its number was not given before.
    cases waiting
    exact absurd (sound.numbered present) (Nat.lt_irrefl _)
  | join _ flying =>
    cases waiting
    obtain ⟨other, there, parts, -⟩ := (sound.slot get.identity.path).flight _ flying
    cases present.symm.trans there
    exact .inr ⟨_, (slot_congr cache parts).symm ▸ flying, rfl⟩
  | @take read _ joined' _ result _ _ _ =>
    rcases get.afterTask_cases read joined' result with ⟨done, -⟩ | ⟨-, looking, -⟩
    · cases done.symm.trans waiting
    · cases looking.symm.trans waiting
  | _ => cases waiting

private theorem reading_before (step : Get.Transition setup cache get reply cache' stage)
    (reading : stage = .reading) : get.stage = .reading := by
  cases step with
  | rest => exact reading
  | work _ _ _ _ _ _ => exact reading
  | record _ _ _ => exact reading
  | @take read _ joined _ result _ _ _ =>
    rcases get.afterTask_cases read joined result with ⟨done, -⟩ | ⟨-, looking, -⟩
    · cases done.symm.trans reading
    · cases looking.symm.trans reading
  | _ => cases reading

private theorem maySeek_before (sound : cache.Sound) (waits : get.Sound cache)
    (step : Get.Transition setup cache get reply cache' stage) {source : String}
    (may : Get.MaySeek cache' source { get with stage }) : get.MaySeek cache source := by
  rcases may with reading | seeks
  · exact .inl (reading_before step reading)
  · rcases step.seeks_before sound waits seeks with before | ⟨reading, -⟩
    · exact .inr before
    · exact .inl reading

end

variable {setup : Setup} {session : Session}

/-- No move attends to an analysis anew. -/
theorem Sound.attended_before (sound : session.Sound) (next : Move) {task : Nat}
    {analysis : Analysis} (present : session.cache.tasks.get? task = some analysis)
    (attended : (session.move setup next).Attended task analysis.identity.path) :
    session.Attended task analysis.identity.path := by
  rcases attended with @⟨id, get, source, joined, after, waiting⟩ | @⟨flight, flying, number⟩
  · cases callMove after with
    | kept known => exact .waited known waiting
    | made new =>
      rw [new] at waiting
      cases waiting
    | @stepped before reply known now =>
      subst now
      rcases waits_before sound.cache (before.step_transition setup session.cache reply) waiting
        present with ⟨_, _, waited⟩ | ⟨_, flying, number⟩
      · exact .waited known waited
      · exact .flying flying number
  · cases slotMove setup session analysis.identity.path next with
    | kept _ same => exact .flying (same ▸ flying) number
    | stepped _ change =>
      cases change with
      | kept same => exact .flying (same ▸ flying) number
      | started _ _ _ _ now _ =>
        rw [now] at flying
        cases flying
        exact absurd (sound.cache.numbered present) (number ▸ Nat.lt_irrefl _)
      | unreadable _ _ _ _ now => simp [now, Slot.unreadable] at flying
      | recorded _ _ _ now _ => simp [now, Slot.recorded] at flying
      | landed _ _ _ now _ => simp [now, Slot.landed] at flying
    | invalidated _ now =>
      rw [now] at flying
      obtain ⟨before, flown, rfl⟩ := Option.map_eq_some_iff.mp flying
      exact .flying flown number
    | removed _ now => simp [now] at flying

/-- No move but a new call comes to look up a source that none could come to look up before. -/
theorem Sound.maySeek_before (sound : session.Sound) {next : Move} {id : Nat} {get : Get}
    {source : String} (after : (session.move setup next).get? id = some get)
    (may : get.MaySeek (session.move setup next).cache source) :
    next = .call get.identity ∨
    ∃ before, session.get? id = some before ∧ before.identity = get.identity ∧
      before.MaySeek session.cache source := by
  have grows := sound.grows_move setup next
  cases callMove after with
  | kept known =>
    exact .inr ⟨get, known, rfl, may.imp_right (Get.Seeks.before (sound.calls known) grows)⟩
  | made _ => exact .inl rfl
  | @stepped before reply known now =>
    subst now
    refine .inr ⟨before, known, (before.identity_step setup session.cache reply).symm, ?_⟩
    rw [move_step setup reply known, before.step_snd] at may
    exact Session.maySeek_before sound.cache (sound.calls known)
      (before.step_transition setup session.cache reply) may

/-- As long as calls are made on no other path with the file, none is about one. -/
theorem Tells.move {store : Store} {path : Path} (tells : session.Tells store path) {next : Move}
    (only : ∀ identity, next = .call identity → store.file identity.path = store.file path →
      identity.path = path) : (session.move setup next).Tells store path where
  calls := by
    intro id get after file
    cases callMove after with
    | kept known => exact tells.calls known file
    | made _ => exact only _ rfl file
    | @stepped before reply known now =>
      have same : get.identity = before.identity :=
        now ▸ before.identity_step setup session.cache reply
      rw [same] at file ⊢
      exact tells.calls known file
  analyses := by
    intro task later there file
    rcases analysis_before there with ⟨analysis, present, goes⟩ | ⟨id, get, source, known, -, rfl⟩
    · rw [goes.identity] at file ⊢
      exact tells.analyses present file
    · exact tells.calls known file

theorem tells_run {store : Store} {path : Path} {moves : List Move}
    (only : ∀ identity, .call identity ∈ moves → store.file identity.path = store.file path →
      identity.path = path) : (({} : Session).run setup moves).Tells store path := by
  induction moves using List.reverseRecOn with
  | nil => exact ⟨by simp [get?], by simp [Table.get?]⟩
  | append_singleton moves next ih =>
    rw [run_append, run_cons, run_nil]
    refine (ih fun identity called => only identity (List.mem_append_left _ called)).move ?_
    rintro identity rfl
    exact only identity (List.mem_append_right _ (List.mem_singleton_self _))

end Session

namespace Depot

/-- The operations on the store succeed, and no call is made whose file is that of the path. -/
def Quiet (setup : Setup) (store : Store) (path : Path) (depot : Depot) (next : Move) : Prop :=
  depot.Succeeds setup next ∧
    ∀ identity, next = .call identity → store.file identity.path ≠ store.file path

variable {setup : Setup} {store : Store} {path : Path} {depot : Depot}

/-- What has to be there for a file to come about: the file itself, an analysis that can store it and is
attended, or a call that can come to look up a source that the steps accept. -/
inductive Fillable (setup : Setup) (store : Store) (path : Path) (depot : Depot) : Prop
  | held (holds : depot.Holds store path)
  | attended {task : Nat} {analysis : Analysis}
      (present : depot.session.cache.tasks.get? task = some analysis)
      (file : store.file analysis.identity.path = store.file path)
      (storable : analysis.Storable setup)
      (attended : depot.session.Attended task analysis.identity.path)
  | sought {id : Nat} {get : Get} {source text : String}
      (known : depot.session.get? id = some get)
      (file : store.file get.identity.path = store.file path)
      (accepts : setup.pipeline.apply get.identity source = .ok text)
      (may : get.MaySeek depot.session.cache source)

/-- What is written is written for an analysis that a call waits for. -/
private theorem storing_of_need (opened : setup.store? = some store) {id : Nat} {file : Path}
    {text : String} (needs : depot.need? setup id = some (.write file text)) :
    ∃ get source task joined analysis, depot.session.get? id = some get ∧
      get.stage = .waiting source task joined ∧
      depot.session.cache.tasks.get? task = some analysis ∧ analysis.Storable setup ∧
      file = store.file analysis.identity.path := by
  obtain ⟨get, known, needs⟩ := Option.bind_eq_some_iff.mp needs
  unfold Get.need? at needs
  split at needs
  · cases needs
  · cases needs
  · next source task joined waiting =>
    obtain ⟨analysis, present, needs⟩ := Option.map_eq_some_iff.mp needs
    refine ⟨get, source, task, joined, analysis, known, waiting, present, ?_⟩
    rw [Analysis.need, opened] at needs
    split at needs
    · cases needs
    · cases needs
    · next storing there =>
      cases there
      cases needs
      exact ⟨.storing storing, rfl⟩
    · cases needs
  · cases needs

private theorem fillable_of_holds (opened : setup.store? = some store) (next : Move)
    (holds : (depot.move setup store next).Holds store path) :
    depot.Fillable setup store path := by
  cases next with
  | step id reply =>
    simp only [Holds, move, filesAfter] at holds
    split at holds
    · next needs =>
      split at holds
      · next same =>
        obtain ⟨get, source, task, joined, analysis, known, waiting, present, storable, file⟩ :=
          storing_of_need opened needs
        exact .attended present (file.symm.trans same) storable (.waited known waiting)
      · exact .held holds
    · exact .held holds
  | remove other =>
    simp only [Holds, move, filesAfter] at holds
    split at holds
    · cases holds
    · exact .held holds
  | _ => exact .held holds

/-- A quiet move makes nothing fillable. -/
theorem Fillable.before (sound : depot.session.Sound) (opened : setup.store? = some store)
    {next : Move} (quiet : depot.Quiet setup store path next)
    (fillable : (depot.move setup store next).Fillable setup store path) :
    depot.Fillable setup store path := by
  cases fillable with
  | held holds => exact fillable_of_holds opened next holds
  | @attended task later there file storable attended =>
    rcases Session.analysis_before there with
      ⟨analysis, present, goes⟩ | ⟨id, get, source, known, looking, rfl⟩
    · rw [goes.identity] at file attended
      exact .attended present file (sound.storable_before present there storable)
        (sound.attended_before next present attended)
    · rcases storable with ⟨-, accepts⟩ | asked | storing
      · exact .sought known file accepts (.inr (.inl looking))
      · cases asked
      · cases storing
  | sought known file accepts may =>
    rcases sound.maySeek_before known may with rfl | ⟨get, known, same, may⟩
    · exact absurd file (quiet.2 _ rfl)
    · rw [← same] at file accepts
      exact .sought known file accepts may

/-- What a quiet run fills was fillable at its beginning. -/
theorem Fillable.of_run (sound : depot.session.Sound) (opened : setup.store? = some store)
    {moves : List Move} (quiet : Follows (move setup store) (Quiet setup store path) depot moves)
    (holds : (depot.run setup store moves).Holds store path) :
    depot.Fillable setup store path := by
  induction moves generalizing depot with
  | nil => exact .held holds
  | cons next rest ih => exact .before sound opened quiet.1 (ih (sound.move setup next) quiet.2 holds)

/-- Behind the removal of a component only what is pursued can be filled. -/
theorem Fillable.pursued (sound : depot.session.Sound) (tells : depot.session.Tells store path)
    (fillable : (depot.move setup store (.remove path)).Fillable setup store path) :
    depot.session.Pursued setup path := by
  have tasks : (depot.session.cache.remove path).tasks = depot.session.cache.tasks := tasks_remove ..
  cases fillable with
  | held holds => simp [Holds, move, filesAfter] at holds
  | @attended task analysis there file storable attended =>
    have present : depot.session.cache.tasks.get? task = some analysis := tasks ▸ there
    have here := tells.analyses present file
    -- The slot went with the component, so only calls attend to the analysis.
    cases attended with
    | waited known waiting => exact .waited known waiting present here storable
    | flying flying number =>
      have gone : (depot.session.cache.remove path).slot path = {} :=
        (slot_remove ..).trans (if_pos rfl)
      have flying' : ((depot.session.cache.remove path).slot path).inFlight? = some _ :=
        here ▸ flying
      simp [gone] at flying'
  | sought known file accepts may =>
    exact .sought known (tells.calls known file) accepts
      (may.imp_right (Get.Seeks.before (sound.calls known) (.remove ..)))

end Depot

end Cache

end ComponentCatalog
