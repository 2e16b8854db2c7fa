import ComponentCatalog.Proofs.Cache.Session

/-! # Analyses that slots have moved on from

Tasks are numbered in the order in which they are started, and a slot comes to wait only for a task
that is started then and there. So what a slot waits for after it waited for none is later than all
that there was before: `MovedOn` says so of one task, and every move preserves it. A removal brings it
about for all analyses of the component, which then end without a trace.
-/

namespace ComponentCatalog

open Component

namespace Cache

/-- What a task is an analysis of stays the same. -/
theorem Extends.identity_eq {old new : Cache} (grows : old.Extends new) {task : Nat}
    {analysis later : Analysis} (present : old.tasks.get? task = some analysis)
    (there : new.tasks.get? task = some later) : later.identity = analysis.identity := by
  obtain ⟨grown, there', goes⟩ := grows.tasks present
  cases there.symm.trans there'
  exact goes.identity

/-- The slot of a path has moved on from a task: if it waits for one at all, then for a later one. -/
structure MovedOn (path : Path) (task : Nat) (cache : Cache) : Prop where
  given : task < cache.nextTask
  later : ∀ flight, (cache.slot path).inFlight? = some flight → task < flight.task

namespace MovedOn

variable {path other : Path} {task : Nat} {cache : Cache}

theorem of_idle (given : task < cache.nextTask) (idle : (cache.slot path).inFlight? = none) :
    cache.MovedOn path task where
  given := given
  later := by
    intro flight flying
    cases idle.symm.trans flying

theorem congr (moved : cache.MovedOn path task) (same : path.parts = other.parts) :
    cache.MovedOn other task where
  given := moved.given
  later := by
    rw [← slot_congr cache same]
    exact moved.later

theorem not_awaits (moved : cache.MovedOn path task) : ¬ cache.Awaits path task := by
  rintro ⟨slot, flight, present, flying, same⟩
  have later := moved.later flight (by rw [slot_eq cache present]; exact flying)
  omega

/-- A task that its slot has moved on from records its result for those who wait, and for nobody
else. -/
theorem recorded_eq {analysis : Analysis} (moved : cache.MovedOn analysis.identity.path task)
    (result : Except String Entry) :
    cache.recorded task analysis result =
      { cache with tasks := cache.tasks.set task { analysis with stage := .recorded result } } := by
  rcases finish_cases cache analysis.identity.path task result.toOption with
    ⟨-, eq⟩ | ⟨slot, flight, present, flying, same, -⟩
  · rw [recorded, eq]
  · exact absurd ⟨slot, flight, present, flying, same⟩ moved.not_awaits

end MovedOn

namespace Get

variable {setup : Setup} {cache cache' : Cache} {get : Get} {reply : Reply} {stage : Get.Stage}
  {source source' : String} {task other : Nat} {joined : Bool}

/-- Whoever waits for a task that its slot has moved on from changes no slot. -/
theorem Transition.slots_eq (step : Transition setup cache get reply cache' stage)
    (waiting : get.stage = .waiting source task joined)
    (moved : ∀ analysis, cache.tasks.get? task = some analysis →
      cache.MovedOn analysis.identity.path task) :
    cache'.slots = cache.slots ∧ cache'.revision = cache.revision := by
  cases step with
  | read reading _ => cases waiting.symm.trans reading
  | unreadable reading _ => cases waiting.symm.trans reading
  | start looking _ _ => cases waiting.symm.trans looking
  | record waiting' present _ =>
    cases waiting.symm.trans waiting'
    rw [(moved _ present).recorded_eq]
    exact ⟨rfl, rfl⟩
  | _ => exact ⟨rfl, rfl⟩

/-- Whoever looks up a slot that has moved on from a task comes to wait for a later one, if for any. -/
theorem Transition.task_lt (step : Transition setup cache get reply cache' stage)
    (moved : cache.MovedOn get.identity.path task) (looking : get.stage = .looking source)
    (waits : stage = .waiting source' other joined) : task < other := by
  cases step with
  | start _ _ _ =>
    cases waits
    exact moved.given
  | join _ flying =>
    cases waits
    exact moved.later _ flying
  | hit _ _ _ => cases waits
  | rest => cases looking.symm.trans waits
  | read reading _ => cases looking.symm.trans reading
  | unreadable reading _ => cases looking.symm.trans reading
  | take waiting _ _ => cases looking.symm.trans waiting
  | work waiting _ _ _ _ _ => cases looking.symm.trans waiting
  | record waiting _ _ => cases looking.symm.trans waiting

end Get

namespace Session

variable {setup : Setup} {session : Session} {path : Path} {task : Nat}

/-- Every move preserves it. -/
theorem movedOn_move (moved : session.cache.MovedOn path task) (sound : session.Sound) (next : Move) :
    (session.move setup next).cache.MovedOn path task := by
  have given : task < (session.move setup next).cache.nextTask :=
    Nat.lt_of_lt_of_le moved.given (sound.grows_move setup next).nextTask
  refine ⟨given, fun flight flying => ?_⟩
  cases session.slotMove setup path next with
  | kept _ same => exact moved.later flight (same ▸ flying)
  | invalidated _ now =>
    rw [now] at flying
    obtain ⟨before, there, rfl⟩ := Option.map_eq_some_iff.mp flying
    exact moved.later before there
  | removed _ now => simp [now] at flying
  | stepped _ change =>
    cases change with
    | kept same => exact moved.later flight (same ▸ flying)
    | unreadable _ _ _ _ now => simp [now, Slot.unreadable] at flying
    | started _ _ _ _ now _ =>
      rw [now] at flying
      cases flying
      exact moved.given
    | recorded _ _ _ now _ => simp [now, Slot.recorded] at flying
    | landed _ _ _ now _ => simp [now, Slot.landed] at flying

theorem movedOn_run (moved : session.cache.MovedOn path task) (sound : session.Sound)
    (moves : List Move) : (session.run setup moves).cache.MovedOn path task := by
  induction moves generalizing session with
  | nil => exact moved
  | cons next rest ih => exact ih (movedOn_move moved sound next) (sound.move setup next)

/-- A slot that is removed has moved on from all that was started before. -/
theorem movedOn_remove (sound : session.Sound) {analysis : Analysis}
    (present : session.cache.tasks.get? task = some analysis) :
    (session.move setup (.remove path)).cache.MovedOn path task := by
  refine .of_idle ?_ ?_
  · show task < (session.cache.remove path).nextTask
    rw [nextTask_remove]
    exact sound.cache.numbered present
  · show ((session.cache.remove path).slot path).inFlight? = none
    rw [slot_remove, if_pos rfl]

/-- An analysis of a component that is removed changes no slot any more, nor the revision: whoever waits
for it, as it goes on only with their steps, has it end without a trace. And no call that looks up
afterwards comes to wait for it. -/
theorem removed_analysis_over (reached : session.Reached setup) {analysis : Analysis}
    (present : session.cache.tasks.get? task = some analysis)
    (parts : analysis.identity.path.parts = path.parts) (moves : List Move) :
    let later := (session.move setup (.remove path)).run setup moves
    (∀ id get source joined, later.get? id = some get → get.stage = .waiting source task joined →
      ∀ reply, (later.move setup (.step id reply)).cache.slots = later.cache.slots ∧
        (later.move setup (.step id reply)).cache.revision = later.cache.revision) ∧
    ∀ id get source, later.get? id = some get → get.stage = .looking source →
      ∀ reply next, (later.move setup (.step id reply)).get? id = some next →
        ∀ source' joined, next.stage ≠ .waiting source' task joined := by
  intro later
  have sound := reached.sound
  have soundLater : later.Sound := (sound.move setup (.remove path)).run setup moves
  have moved : later.cache.MovedOn path task :=
    movedOn_run (movedOn_remove sound present) (sound.move setup (.remove path)) moves
  have grows : session.cache.Extends later.cache := (sound.grows_move setup (.remove path)).trans
    ((sound.move setup (.remove path)).grows_run setup moves)
  constructor
  · intro id get source joined known waiting reply
    have step := get.step_transition setup later.cache reply
    rw [move_step setup reply known]
    refine step.slots_eq waiting fun other there => moved.congr ?_
    rw [grows.identity_eq present there, parts]
  · intro id get source known looking reply next known' source' joined waits
    have step := get.step_transition setup later.cache reply
    rw [move_step setup reply known, get?_stepped later known, if_pos rfl] at known'
    cases known'
    -- A call waits for tasks of its own path alone, and there the slot has moved on.
    obtain ⟨other, there, here, -⟩ := (step.get_sound soundLater.cache
      (soundLater.calls known)).waits source' task joined waits
    rw [(grows.trans (step.grows soundLater.cache)).identity_eq present there, parts] at here
    exact Nat.lt_irrefl task (step.task_lt (moved.congr here) looking waits)

/-- A call has found what came of its analysis, but its component is removed first. A second call starts
another analysis, which is on its way when a third one looks up. -/
def forgottenMoves : List Move :=
  [.call card, .step 0 (.text (.ok "old")), .step 0 .nothing, .step 0 .nothing,
    .step 0 (.answered (.failed (.parse "")) 0)]

/-- What happens behind the removal. -/
def restartedMoves : List Move :=
  [.call card, .step 1 (.text (.ok "new")), .step 1 .nothing, .call card,
    .step 2 (.text (.ok "new"))]

/-- The first analysis is over: with the step that records what came of it the slot still waits for the
second one, which the third call joins. -/
theorem removed_analysis_over_restarted :
    let session := ({} : Session).run .plain forgottenMoves
    let later := (session.move .plain (.remove card.path)).run .plain restartedMoves
    later.get? 0 = some ⟨card, .waiting "old" 1 false⟩ ∧
      ((later.cache.tasks.get? 1).bind Analysis.result?).isSome ∧
      (later.move .plain (.step 0 .nothing)).cache.slots = later.cache.slots ∧
      (later.move .plain (.step 0 .nothing)).cache.revision = later.cache.revision ∧
      (later.cache.slot card.path).inFlight?.map InFlight.task = some 2 ∧
      ∀ reply next, (later.move .plain (.step 2 reply)).get? 2 = some next →
        ∀ source joined, next.stage ≠ .waiting source 1 joined := by
  intro session later
  have reached : session.Reached .plain := ⟨forgottenMoves, rfl⟩
  obtain ⟨first, present, parts⟩ : ∃ first, session.cache.tasks.get? 1 = some first ∧
      first.identity.path.parts = card.path.parts := ⟨_, rfl, rfl⟩
  obtain ⟨ends, joins⟩ := removed_analysis_over reached present parts restartedMoves
  have waits : later.get? 0 = some ⟨card, .waiting "old" 1 false⟩ := rfl
  obtain ⟨slots, revision⟩ := ends 0 _ "old" false waits rfl .nothing
  refine ⟨waits, by decide +kernel, slots, revision, by decide +kernel, ?_⟩
  exact joins 2 ⟨card, .looking "new"⟩ "new" rfl rfl

end Session

end Cache

end ComponentCatalog
