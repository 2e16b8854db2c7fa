import ComponentCatalog.Proofs.Cache.Invalidated
import ComponentCatalog.Proofs.Cache.MovedOn

/-! # Analyses that find no analyzer

For want of an analyzer an analysis comes to no entry, and nothing of that is kept: the slot is as it
was, but waits no more. Whoever waited is told the reason, with the next step at the latest. Whoever
looks up afterwards, and finds no entry that holds, waits for a later analysis.
-/

namespace ComponentCatalog

open Component

namespace Cache

/-- The call with the reason for which there is no analyzer. -/
def Get.lacking (get : Get) (reason : String) : Get := { get with stage := .done (.error reason) }

/-- A call that waits for a task waits on, or takes the result that the task recorded. -/
theorem Get.Transition.waits_on {setup : Setup} {cache cache' : Cache} {get : Get} {reply : Reply}
    {stage : Get.Stage} {source reason : String} {task : Nat} {joined : Bool}
    (step : Get.Transition setup cache get reply cache' stage)
    (waiting : get.stage = .waiting source task joined)
    (only : ∀ analysis result, cache.tasks.get? task = some analysis →
      analysis.stage = .recorded result → result = .error reason) :
    stage = get.stage ∨ stage = .done (.error reason) := by
  cases step with
  | take waiting' present recorded =>
    cases waiting.symm.trans waiting'
    rw [only _ _ present recorded]
    exact .inr rfl
  | read reading _ => cases waiting.symm.trans reading
  | unreadable reading _ => cases waiting.symm.trans reading
  | hit looking _ _ => cases waiting.symm.trans looking
  | start looking _ _ => cases waiting.symm.trans looking
  | join looking _ => cases waiting.symm.trans looking
  | _ => exact .inl rfl

/-- The analysis that a slot waited for is on its way there still, or its result is recorded. -/
inductive Underway (path : Path) (task : Nat) (cache : Cache) : Prop
  | flying {flight : InFlight} (flying : (cache.slot path).inFlight? = some flight)
      (number : flight.task = task)
  | ended {analysis : Analysis} {result : Except String Entry}
      (present : cache.tasks.get? task = some analysis)
      (recorded : analysis.stage = .recorded result)

/-- An analysis that comes to no entry has its slot land, and changes no other slot. -/
theorem recorded_unavailable {cache : Cache} {path : Path} {task : Nat} {analysis : Analysis}
    (parts : analysis.identity.path.parts = path.parts) {flight : InFlight}
    (flying : (cache.slot path).inFlight? = some flight) (number : flight.task = task)
    (reason : String) :
    cache.recorded task analysis (.error reason) =
      { cache.setSlot path (cache.slot path).landed with
        tasks := cache.tasks.set task { analysis with stage := .recorded (.error reason) } } := by
  have same (slot : Slot) : cache.setSlot analysis.identity.path slot = cache.setSlot path slot := by
    simp only [setSlot, parts]
  rcases finish_cases cache analysis.identity.path task none with
    ⟨idle, -⟩ | ⟨slot, -, present, -, -, ⟨_, found, -⟩ | ⟨-, eq⟩⟩
  · cases present : cache.slot? path with
    | none => simp [Cache.slot, present] at flying
    | some slot =>
      rw [slot_eq cache present] at flying
      exact absurd ⟨slot, flight, (slot?_congr cache parts).trans present, flying, number⟩ idle
  · cases found
  · rw [slot?_congr cache parts] at present
    rw [recorded, Except.toOption, eq, same, slot_eq cache present]

namespace Session

variable {setup : Setup} {session : Session} {path : Path} {task id : Nat} {get : Get}
  {source reason : String} {joined : Bool}

/-! ## Until the analysis ends -/

/-- As long as the component is not removed, the slot waits for the analysis or the analysis ends. -/
private theorem Underway.move (underway : session.cache.Underway path task) (sound : session.Sound)
    {next : Move} (keeps : Keeps path next) : (session.move setup next).cache.Underway path task := by
  cases underway with
  | ended present recorded =>
    obtain ⟨later, there, grows⟩ := (sound.grows_move setup next).tasks present
    rw [grows.recorded _ recorded] at there
    exact .ended there recorded
  | @flying flight flying number =>
    cases session.slotMove setup path next with
    | kept _ same => exact .flying (same ▸ flying) number
    | invalidated _ now =>
      have marked : ((session.move setup next).cache.slot path).inFlight? =
          some { flight with invalidated := true } := by
        rw [now, Slot.invalidate, flying, Option.map_some]
      exact .flying marked number
    | removed parts _ => exact absurd parts keeps
    | stepped _ change =>
      cases change with
      | kept same => exact .flying (same ▸ flying) number
      | unreadable _ _ _ idle _ => cases idle.symm.trans flying
      | started _ _ idle _ _ _ => cases idle.symm.trans flying
      | recorded flying' _ _ _ after =>
        cases flying.symm.trans flying'
        exact .ended (number ▸ after) rfl
      | landed flying' _ _ _ after =>
        cases flying.symm.trans flying'
        exact .ended (number ▸ after) rfl

private theorem Underway.run (underway : session.cache.Underway path task) (sound : session.Sound)
    {moves : List Move} (keeps : ∀ next ∈ moves, Keeps path next) :
    (session.run setup moves).cache.Underway path task := by
  induction moves generalizing session with
  | nil => exact underway
  | cons next rest ih =>
    exact ih (Underway.move underway sound (keeps next (.head _))) (sound.move setup next)
      fun move later => keeps move (.tail _ later)

/-! ## Those who wait -/

/-- A call that waited for a task is dropped, waits still, or was told that there is no analyzer. -/
structure Told (id : Nat) (get : Get) (reason : String) (session : Session) : Prop where
  made : id < session.calls.length
  now : ∀ now, session.get? id = some now → now = get ∨ now = get.lacking reason

/-- As long as no other result of the task is recorded, every move preserves it. -/
private theorem Told.move (told : Told id get reason session)
    (waiting : get.stage = .waiting source task joined)
    (only : ∀ analysis result, session.cache.tasks.get? task = some analysis →
      analysis.stage = .recorded result → result = .error reason) (next : Move) :
    Told id get reason (session.move setup next) := by
  have made := told.made
  refine ⟨Nat.lt_of_lt_of_le made (length_calls_le setup session next), fun now known => ?_⟩
  rcases steps_or_stays setup session id next with ⟨before, reply, rfl, known'⟩ | ⟨-, stays⟩
  · rw [move_step setup reply known', get?_stepped session known', if_pos rfl] at known
    cases known
    rcases told.now before known' with rfl | rfl
    · rw [before.step_snd setup session.cache reply]
      have step := before.step_transition setup session.cache reply
      exact (step.waits_on waiting only).imp (fun same => by rw [same]) fun lacks => by
        rw [lacks, Get.lacking]
    · exact .inr rfl
  · rcases stays now known with old | ⟨last, -⟩
    · exact told.now now old
    · omega

/-- What a task comes to have recorded is the only result that it has recorded before. -/
private theorem told_run (sound : session.Sound) (told : Told id get reason session)
    (waiting : get.stage = .waiting source task joined) {moves : List Move} {analysis : Analysis}
    (there : (session.run setup moves).cache.tasks.get? task = some analysis)
    (recorded : analysis.stage = .recorded (.error reason)) :
    Told id get reason (session.run setup moves) := by
  induction moves generalizing session with
  | nil => exact told
  | cons next rest ih =>
    refine ih (sound.move setup next) (told.move waiting ?_ next) there
    intro before result present earlier
    obtain ⟨later, there', grows⟩ := (sound.grows_run setup (next :: rest)).tasks present
    rw [grows.recorded _ earlier] at there'
    cases there.symm.trans there'
    cases recorded.symm.trans earlier
    rfl

/-- A call that waits for a task without an analyzer is told so with its next step. -/
private theorem step_lacking (known : session.get? id = some get)
    (waiting : get.stage = .waiting source task joined) {analysis : Analysis}
    (present : session.cache.tasks.get? task = some analysis)
    (recorded : analysis.stage = .recorded (.error reason)) (reply : Reply) :
    (session.move setup (.step id reply)).get? id = some (get.lacking reason) := by
  rw [move_step setup reply known, get?_stepped session known, if_pos rfl,
    Get.step_take setup reply waiting present recorded]
  rfl

/-- A call, if it is not dropped, was told that there is no analyzer, or is told so with its next
step. -/
def Informs (setup : Setup) (session : Session) (id : Nat) (get : Get) (reason : String) : Prop :=
  ∀ now, session.get? id = some now → now = get.lacking reason ∨
    now = get ∧ ∀ reply, (session.move setup (.step id reply)).get? id = some (get.lacking reason)

/-- A call that waited for a task is informed once the task is recorded. -/
private theorem informs_of_waiting (sound : session.Sound) (known : session.get? id = some get)
    (waiting : get.stage = .waiting source task joined) {moves : List Move} {analysis : Analysis}
    (there : (session.run setup moves).cache.tasks.get? task = some analysis)
    (recorded : analysis.stage = .recorded (.error reason)) :
    (session.run setup moves).Informs setup id get reason := by
  have told : Told id get reason session := by
    refine ⟨lt_of_get? known, fun now known' => ?_⟩
    cases known.symm.trans known'
    exact .inl rfl
  intro now known'
  rcases (told_run sound told waiting there recorded).now now known' with rfl | lacks
  · exact .inr ⟨rfl, step_lacking known' waiting there recorded⟩
  · exact .inl lacks

/-! ## Those who look up afterwards -/

/-- Whoever looks up a slot that has moved on from a task, and hits no entry, waits for a later one. -/
private theorem waits_later (moved : session.cache.MovedOn get.identity.path task)
    (known : session.get? id = some get) (looking : get.stage = .looking source)
    (miss : (session.cache.slot get.identity.path).hit? get.identity (get.fingerprint source) = none)
    (reply : Reply) :
    ∃ other joined, task < other ∧ (session.move setup (.step id reply)).get? id =
      some { get with stage := .waiting source other joined } := by
  rw [move_step setup reply known, get?_stepped session known, if_pos rfl]
  cases flying : (session.cache.slot get.identity.path).inFlight? with
  | some flight =>
    rw [Get.step_join setup reply looking flying]
    exact ⟨flight.task, true, moved.later flight flying, rfl⟩
  | none =>
    rw [Get.step_start setup reply looking flying miss]
    exact ⟨session.cache.nextTask, false, moved.given, rfl⟩

/-! ## Nothing is kept -/

/-- An analysis that was on its way, to a component that was not removed since, ends for want of an
analyzer. Then its slot waits no more, and nothing else changes in the cache. All who waited for it, at
whatever time, are told the reason; whoever looks up later and hits no entry waits for a later
analysis. -/
theorem unavailable_forgotten (reached : session.Reached setup) {flight : InFlight}
    (flying : (session.cache.slot path).inFlight? = some flight) {moves : List Move}
    (keeps : ∀ next ∈ moves, Keeps path next)
    (known : (session.run setup moves).get? id = some get)
    (waiting : get.stage = .waiting source flight.task joined) {analysis : Analysis}
    (present : (session.run setup moves).cache.tasks.get? flight.task = some analysis)
    (found : analysis.stage = .found (.error reason)) (reply : Reply) :
    let going := session.run setup moves
    let ended := going.move setup (.step id reply)
    (∃ flown, (going.cache.slot path).inFlight? = some flown ∧ flown.task = flight.task) ∧
    ended.cache = { going.cache.setSlot path (going.cache.slot path).landed with
      tasks := going.cache.tasks.set flight.task
        { analysis with stage := .recorded (.error reason) } } ∧
    (∀ before after, moves = before ++ after → ∀ other call text joined,
      (session.run setup before).get? other = some call →
      call.stage = .waiting text flight.task joined →
      ∀ more, (ended.run setup more).Informs setup other call reason) ∧
    ∀ more other call text,
      (ended.run setup more).get? other = some call → call.identity.path.parts = path.parts →
      call.stage = .looking text →
      ((ended.run setup more).cache.slot path).hit? call.identity (call.fingerprint text) = none →
      ∀ reply, ∃ task joined, flight.task < task ∧
        ((ended.run setup more).move setup (.step other reply)).get? other =
          some { call with stage := .waiting text task joined } := by
  intro going ended
  have sound := reached.sound
  have soundGoing : going.Sound := sound.run setup moves
  have soundEnded : ended.Sound := soundGoing.move setup (.step id reply)
  obtain ⟨flown, flying', number⟩ : ∃ flown,
      (going.cache.slot path).inFlight? = some flown ∧ flown.task = flight.task := by
    cases Underway.run (.flying flying rfl) sound keeps with
    | flying flying' number => exact ⟨_, flying', number⟩
    | ended present' recorded =>
      cases present.symm.trans present'
      cases found.symm.trans recorded
  have parts : analysis.identity.path.parts = path.parts := by
    obtain ⟨other, there, parts, -⟩ := (soundGoing.cache.slot path).flight flown flying'
    rw [number] at there
    cases present.symm.trans there
    exact parts
  have cache : ended.cache = { going.cache.setSlot path (going.cache.slot path).landed with
      tasks := going.cache.tasks.set flight.task
        { analysis with stage := .recorded (.error reason) } } := by
    show (going.move setup (.step id reply)).cache = _
    rw [move_step setup reply known, Get.step_record setup reply waiting present found]
    exact recorded_unavailable parts flying' number reason
  have there : ended.cache.tasks.get? flight.task =
      some { analysis with stage := .recorded (.error reason) } := by
    rw [cache]
    exact (Table.get?_set ..).trans (if_pos rfl)
  refine ⟨⟨flown, flying', number⟩, cache, ?_, ?_⟩
  · intro before after split other call text joined known' waits more
    -- From where the call waits on, the run leads over the end of the analysis.
    have onward : ended.run setup more =
        (session.run setup before).run setup (after ++ .step id reply :: more) := by
      rw [run_append, ← run_append setup session before after, ← split]
      rfl
    obtain ⟨later, there', grows⟩ := (soundEnded.grows_run setup more).tasks there
    rw [grows.recorded _ rfl, onward] at there'
    rw [onward]
    exact informs_of_waiting (sound.run setup before) known' waits there' rfl
  · intro more other call text known' same looking miss reply
    have idle : (ended.cache.slot path).inFlight? = none := by
      have slot : ended.cache.slot? path = some (going.cache.slot path).landed := by
        rw [cache]
        exact (slot?_setSlot ..).trans (if_pos rfl)
      rw [slot_eq _ slot]
      rfl
    have moved : (ended.run setup more).cache.MovedOn path flight.task :=
      movedOn_run (.of_idle (soundEnded.cache.numbered there) idle) soundEnded more
    rw [← slot_congr _ same] at miss
    exact waits_later (moved.congr same.symm) known' looking miss reply

/-- The analyzer is asked, a second call joins the analysis, and there is no analyzer. -/
def missingMoves : List Move :=
  [.step 0 .nothing, .call card, .step 1 (.text (.ok "")), .step 1 .nothing,
    .step 0 (.answered (.failed (.unavailable "no analyzer")) 0)]

/-- Both calls are told so, the slot is empty again, and a third call starts another analysis. -/
theorem unavailable_forgotten_joined :
    let ended := (({} : Session).run .plain (startedMoves ++ missingMoves)).move .plain
      (.step 0 .nothing)
    let later := ended.run .plain [.call card, .step 2 (.text (.ok ""))]
    ended.cache.slot card.path = {} ∧ ended.cache.revision = 0 ∧
      ended.Informs .plain 0 ⟨card, .waiting "" 1 false⟩ "no analyzer" ∧
      ended.Informs .plain 1 ⟨card, .waiting "" 1 true⟩ "no analyzer" ∧
      ∃ task joined, 1 < task ∧ (later.move .plain (.step 2 .nothing)).get? 2 =
        some ⟨card, .waiting "" task joined⟩ := by
  intro ended later
  have reached : (({} : Session).run .plain startedMoves).Reached .plain := ⟨startedMoves, rfl⟩
  have keeps : ∀ next ∈ missingMoves, Keeps card.path next := by simp [missingMoves, Keeps]
  have flying : ((({} : Session).run .plain startedMoves).cache.slot card.path).inFlight? =
      some ⟨1, Fingerprint.compute card.path "", false⟩ := rfl
  have known : (({} : Session).run .plain (startedMoves ++ missingMoves)).get? 0 =
      some ⟨card, .waiting "" 1 false⟩ := rfl
  obtain ⟨-, -, informs, seeks⟩ := unavailable_forgotten reached flying keeps known rfl rfl rfl
    .nothing
  have told := informs [] missingMoves rfl 0 _ _ _ rfl rfl []
  have told' := informs missingMoves [] rfl 1 _ _ _ rfl rfl []
  have idle : later.cache.slot card.path = {} := by decide +kernel
  have miss : (later.cache.slot card.path).hit? card (Fingerprint.compute card.path "") = none := by
    rw [idle]
    rfl
  obtain ⟨task, joined, newer, waits⟩ := seeks [.call card, .step 2 (.text (.ok ""))] 2
    ⟨card, .looking ""⟩ "" rfl rfl rfl miss .nothing
  exact ⟨by decide +kernel, by decide +kernel, told, told', task, joined, newer, waits⟩

end Session

end Cache

end ComponentCatalog
