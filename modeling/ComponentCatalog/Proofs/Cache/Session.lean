import ComponentCatalog.Proofs.Cache.Sound
import ComponentCatalog.Proofs.Run

/-! # Calls that run side by side on a cache

A session is a cache with the calls that get entries from it. Its moves come in any order: a call is
made, takes a step with any reply, or is dropped, and between the steps entries are invalidated or
removed and snapshots taken. Numbers of calls are never given again. Whatever holds at first and is
preserved by every move holds in every session that is reached.
-/

namespace ComponentCatalog

open Component

namespace Cache

/-- A cache and the calls that were made to it; a call that was dropped leaves its place empty. -/
structure Session where
  cache : Cache := {}
  calls : List (Option Get) := []

/-- What can happen next in a session. -/
inductive Move where
  | call (identity : Identity)
  | step (id : Nat) (reply : Reply)
  | drop (id : Nat)
  | invalidate (path : Path)
  | invalidateAll
  | remove (path : Path)
  | snapshot (components : List Identity)

/-- The component that a move calls for. -/
def Move.called? : Move → Option Identity
  | .call identity => some identity
  | _ => none

/-- The components that are called for, each with the number of its call. -/
def called (moves : List Move) : List Identity := moves.filterMap Move.called?

theorem called_append (first second : List Move) :
    called (first ++ second) = called first ++ called second :=
  List.filterMap_append ..

/-- Components are analyzed as they are, and nothing is stored. -/
def Setup.plain : Setup := ⟨[], {}, {}, 1000, none⟩

namespace Session

/-- A component. -/
def card : Identity := ⟨"Card", ⟨"/a"⟩, false⟩

/-- The call of a number, unless it was dropped. -/
def get? (session : Session) (id : Nat) : Option Get := (session.calls[id]?).join

/-- The entry that a call returned. -/
def returned? (session : Session) (id : Nat) : Option Entry :=
  ((session.get? id).bind Get.result?).bind Except.toOption

/-- The session with one more call. -/
def pushed (session : Session) (get : Get) : Session :=
  { session with calls := session.calls ++ [some get] }

/-- The session after a step of a call. -/
def stepped (session : Session) (id : Nat) (next : Cache × Get) : Session :=
  ⟨next.1, session.calls.set id (some next.2)⟩

/-- The session after a move. -/
def move (setup : Setup) (session : Session) : Move → Session
  | .call identity => session.pushed { identity }
  | .step id reply =>
    match session.get? id with
    | some get => session.stepped id (get.step setup session.cache reply)
    | none => session
  | .drop id => { session with calls := session.calls.set id none }
  | .invalidate path => { session with cache := session.cache.invalidate path }
  | .invalidateAll => { session with cache := session.cache.invalidateAll }
  | .remove path => { session with cache := session.cache.remove path }
  | .snapshot components => { session with cache := (session.cache.snapshot components).1 }

/-- The session after moves, one after the other. -/
def run (setup : Setup) (session : Session) (moves : List Move) : Session :=
  moves.foldl (move setup) session

@[simp] theorem run_nil (setup : Setup) (session : Session) : session.run setup [] = session := rfl

@[simp] theorem run_cons (setup : Setup) (session : Session) (first : Move) (rest : List Move) :
    session.run setup (first :: rest) = (session.move setup first).run setup rest := rfl

theorem run_append (setup : Setup) (session : Session) (first second : List Move) :
    session.run setup (first ++ second) = (session.run setup first).run setup second :=
  List.foldl_append

/-- A session that moves lead to from an empty cache. -/
def Reached (setup : Setup) (session : Session) : Prop :=
  ∃ moves, ({} : Session).run setup moves = session

/-- What holds at first and every move preserves holds in every session that is reached. -/
theorem Reached.induction {setup : Setup} {P : Session → Prop} (start : P {})
    (step : ∀ session move, P session → P (session.move setup move)) {session : Session}
    (reached : session.Reached setup) : P session := by
  obtain ⟨moves, rfl⟩ := reached
  exact (Follows.free moves).preserves (fun session move holds _ => step session move holds) start

theorem Reached.move {setup : Setup} {session : Session} (reached : session.Reached setup)
    (next : Move) : (session.move setup next).Reached setup := by
  obtain ⟨moves, rfl⟩ := reached
  exact ⟨moves ++ [next], by rw [run_append, run_cons, run_nil]⟩

theorem Reached.run {setup : Setup} {session : Session} (reached : session.Reached setup)
    (moves : List Move) : (session.run setup moves).Reached setup := by
  obtain ⟨before, rfl⟩ := reached
  exact ⟨before ++ moves, run_append ..⟩

/-! ## Which calls a move changes -/

theorem get?_pushed (session : Session) (get : Get) (id : Nat) :
    (session.pushed get).get? id =
      if id = session.calls.length then some get else session.get? id := by
  simp only [get?, pushed, List.getElem?_append]
  split
  · next known => rw [if_neg (by omega)]
  · next fresh =>
    by_cases last : id = session.calls.length
    · simp [last]
    · have none : session.calls[id]? = none := List.getElem?_eq_none (by omega)
      have behind : [some get][id - session.calls.length]? = Option.none :=
        List.getElem?_eq_none (by simp; omega)
      rw [if_neg last, none, behind]

theorem returned?_eq_some {session : Session} {id : Nat} {entry : Entry} :
    session.returned? id = some entry ↔
      ∃ get, session.get? id = some get ∧ get.stage = .done (.ok entry) := by
  constructor
  · intro returned
    obtain ⟨result, found, ok⟩ := Option.bind_eq_some_iff.mp returned
    obtain ⟨get, known, done⟩ := Option.bind_eq_some_iff.mp found
    refine ⟨get, known, ?_⟩
    unfold Get.result? at done
    split at done
    · next stage =>
      cases done
      cases result with
      | ok got => cases ok; exact stage
      | error reason => cases ok
    · cases done
  · rintro ⟨get, known, done⟩
    simp [returned?, known, Get.result?, done, Except.toOption]

theorem get?_call (setup : Setup) (session : Session) (identity : Identity) (id : Nat) :
    (session.move setup (.call identity)).get? id =
      if id = session.calls.length then some { identity } else session.get? id :=
  get?_pushed session { identity } id

/-- The number of a call is below the number of calls that were made. -/
theorem lt_of_get? {session : Session} {id : Nat} {get : Get}
    (known : session.get? id = some get) : id < session.calls.length := by
  rcases Nat.lt_or_ge id session.calls.length with inside | outside
  · exact inside
  · simp [get?, List.getElem?_eq_none outside] at known

theorem get?_stepped (session : Session) {id : Nat} {get : Get} (known : session.get? id = some get)
    (next : Cache × Get) (other : Nat) :
    (session.stepped id next).get? other =
      if other = id then some next.2 else session.get? other := by
  have inside := lt_of_get? known
  simp only [get?, stepped, List.getElem?_set]
  by_cases same : id = other
  · simp [same, same ▸ inside]
  · rw [if_neg same, if_neg (Ne.symm same)]

theorem get?_drop (setup : Setup) (session : Session) (id other : Nat) :
    (session.move setup (.drop id)).get? other =
      if other = id then none else session.get? other := by
  simp only [get?, move, List.getElem?_set]
  by_cases same : id = other
  · subst same
    by_cases inside : id < session.calls.length <;> simp [inside]
  · rw [if_neg same, if_neg (Ne.symm same)]

theorem move_step (setup : Setup) {session : Session} {id : Nat} {get : Get} (reply : Reply)
    (known : session.get? id = some get) :
    session.move setup (.step id reply) = session.stepped id (get.step setup session.cache reply) := by
  simp only [move, known]

/-- A step of the last call leaves the others as they are. -/
theorem move_pushed (setup : Setup) (session : Session) (get : Get) (reply : Reply) :
    (session.pushed get).move setup (.step session.calls.length reply) =
      pushed { session with cache := (get.step setup session.cache reply).1 }
        (get.step setup session.cache reply).2 := by
  rw [move_step setup reply ((get?_pushed ..).trans (if_pos rfl))]
  simp [pushed, stepped]

theorem move_step_none (setup : Setup) {session : Session} {id : Nat} (reply : Reply)
    (none : session.get? id = none) : session.move setup (.step id reply) = session := by
  simp only [move, none]

theorem move_drop_none (setup : Setup) {session : Session} {id : Nat}
    (none : session.get? id = none) : session.move setup (.drop id) = session := by
  have same : session.calls.set id Option.none = session.calls := by
    cases there : session.calls[id]? with
    | none => exact List.set_eq_of_length_le (List.getElem?_eq_none_iff.mp there)
    | some call =>
      obtain rfl : call = Option.none := by simpa only [get?, there, Option.join_some] using none
      obtain ⟨inside, here⟩ := List.getElem?_eq_some_iff.mp there
      exact here ▸ List.set_getElem_self inside
  rw [move, same]

/-- A call that has ended takes no further step. -/
theorem move_step_done (setup : Setup) {session : Session} {id : Nat} {get : Get} (reply : Reply)
    (known : session.get? id = some get) {result : Except String Entry}
    (done : get.stage = .done result) : session.move setup (.step id reply) = session := by
  have rest : get.step setup session.cache reply = (session.cache, get) := by
    simp only [Get.step, done]
  have there : session.calls[id]? = some (some get) := Option.join_eq_some_iff.mp known
  obtain ⟨inside, here⟩ := List.getElem?_eq_some_iff.mp there
  rw [move_step setup reply known, rest, stepped, ← here, List.set_getElem_self]

/-- A move adds a call if it is one, and takes none away. -/
theorem length_calls_move (setup : Setup) (session : Session) (next : Move) :
    (session.move setup next).calls.length = session.calls.length + (called [next]).length := by
  cases next with
  | call identity => simp [move, pushed, called, Move.called?]
  | step id reply =>
    cases known : session.get? id with
    | none => rw [move_step_none setup reply known]; rfl
    | some get => simp [move_step setup reply known, stepped, called, Move.called?]
  | drop id => simp [move, called, Move.called?]
  | _ => rfl

theorem length_calls_le (setup : Setup) (session : Session) (next : Move) :
    session.calls.length ≤ (session.move setup next).calls.length := by
  rw [length_calls_move]
  exact Nat.le_add_right ..

/-- A move is a step of a call, or it leaves the call as it is, drops it or makes it. -/
theorem steps_or_stays (setup : Setup) (session : Session) (id : Nat) (next : Move) :
    (∃ get reply, next = .step id reply ∧ session.get? id = some get) ∨
    (∀ reply, next = .step id reply → session.get? id = none) ∧
      ∀ get, (session.move setup next).get? id = some get →
        session.get? id = some get ∨
          id = session.calls.length ∧ get = { identity := get.identity } := by
  cases next with
  | call identity =>
    refine .inr ⟨fun _ same => (by cases same), fun get known => ?_⟩
    rw [get?_call] at known
    split at known
    · next last =>
      cases known
      exact .inr ⟨last, rfl⟩
    · exact .inl known
  | step mover reply =>
    cases moves : session.get? mover with
    | none =>
      refine .inr ⟨fun _ same => (by cases same; exact moves), fun get known => .inl ?_⟩
      rwa [move_step_none setup reply moves] at known
    | some before =>
      by_cases mine : id = mover
      · subst mine
        exact .inl ⟨before, reply, rfl, moves⟩
      · refine .inr ⟨fun _ same => (by cases same; exact absurd rfl mine),
          fun get known => .inl ?_⟩
        rwa [move_step setup reply moves, get?_stepped session moves, if_neg mine] at known
  | drop other =>
    refine .inr ⟨fun _ same => (by cases same), fun get known => ?_⟩
    rw [get?_drop] at known
    split at known
    · cases known
    · exact .inl known
  | _ => exact .inr ⟨fun _ same => (by cases same), fun get known => .inl known⟩

/-- Where a call comes from that is there behind a move. -/
inductive CallMove (setup : Setup) (session : Session) (id : Nat) (get : Get) : Move → Prop
  | kept {next : Move} (known : session.get? id = some get) : CallMove setup session id get next
  | made (new : get = { identity := get.identity }) :
      CallMove setup session id get (.call get.identity)
  | stepped {before : Get} {reply : Reply} (known : session.get? id = some before)
      (now : get = (before.step setup session.cache reply).2) :
      CallMove setup session id get (.step id reply)

/-- A call behind a move was there before, or is made or takes a step with the move. -/
theorem callMove {setup : Setup} {session : Session} {next : Move} {id : Nat} {get : Get}
    (known : (session.move setup next).get? id = some get) :
    CallMove setup session id get next := by
  cases next with
  | call identity =>
    rw [get?_call] at known
    split at known
    · cases known
      exact .made rfl
    · exact .kept known
  | step mover reply =>
    cases moves : session.get? mover with
    | none =>
      rw [move_step_none setup reply moves] at known
      exact .kept known
    | some before =>
      rw [move_step setup reply moves, get?_stepped session moves] at known
      split at known
      · next same =>
        subst same
        cases known
        exact .stepped moves rfl
      · exact .kept known
  | drop other =>
    rw [get?_drop] at known
    split at known
    · cases known
    · exact .kept known
  | _ => exact .kept known

/-! ## What holds in every session -/

/-- The cache is sound, and each call waits for a task of its own path. -/
structure Sound (session : Session) : Prop where
  cache : session.cache.Sound
  calls : ∀ {id get}, session.get? id = some get → get.Sound session.cache

theorem Sound.empty : ({} : Session).Sound := ⟨.empty, fun known => by simp [get?] at known⟩

private theorem Sound.of_cache {session : Session} (sound : session.Sound) {cache : Cache}
    (after : cache.Sound) (grows : session.cache.Extends cache) :
    Sound { session with cache } :=
  ⟨after, fun known => (sound.calls known).mono grows⟩

private theorem Sound.stepped {session : Session} (sound : session.Sound) (setup : Setup)
    {id : Nat} {get : Get} (reply : Reply) (known : session.get? id = some get) :
    (session.stepped id (get.step setup session.cache reply)).Sound := by
  have step := get.step_transition setup session.cache reply
  have grows := step.grows sound.cache
  refine ⟨step.sound sound.cache, fun {other get'} there => ?_⟩
  rw [get?_stepped session known] at there
  split at there
  · cases there
    have waits := step.get_sound sound.cache (sound.calls known)
    rw [← get.identity_step setup session.cache reply] at waits
    exact waits
  · exact (sound.calls there).mono grows

/-- Every move preserves it. -/
theorem Sound.move {session : Session} (sound : session.Sound) (setup : Setup) (next : Move) :
    (session.move setup next).Sound := by
  cases next with
  | call identity =>
    refine ⟨sound.cache, fun {id get} there => ?_⟩
    rw [get?_call] at there
    split at there
    · cases there
      exact ⟨by simp⟩
    · exact sound.calls there
  | step id reply =>
    cases known : session.get? id with
    | none => rw [move_step_none setup reply known]; exact sound
    | some get => rw [move_step setup reply known]; exact sound.stepped setup reply known
  | drop id =>
    refine ⟨sound.cache, fun {other get} there => ?_⟩
    rw [get?_drop] at there
    split at there
    · cases there
    · exact sound.calls there
  | invalidate path =>
    exact sound.of_cache (sound.cache.invalidate path) (.invalidate session.cache path)
  | invalidateAll =>
    exact sound.of_cache sound.cache.invalidateAll
      (.of_tasks_eq rfl (Nat.le_refl _) (Nat.le_refl _))
  | remove path => exact sound.of_cache (sound.cache.remove path) (.remove session.cache path)
  | snapshot components =>
    exact sound.of_cache (sound.cache.of_eq rfl rfl rfl)
      (.of_tasks_eq rfl (Nat.le_refl _) (Nat.le_refl _))

theorem Sound.run {session : Session} (sound : session.Sound) (setup : Setup) (moves : List Move) :
    (session.run setup moves).Sound :=
  (Follows.free moves).preserves (fun _ next sound _ => sound.move setup next) sound

/-- In every session that is reached, slots, analyses and calls fit together. -/
theorem Reached.sound {setup : Setup} {session : Session} (reached : session.Reached setup) :
    session.Sound :=
  reached.induction .empty fun _ next sound => sound.move setup next

/-- No move takes anything back. -/
theorem Sound.grows_move {session : Session} (sound : session.Sound) (setup : Setup) (next : Move) :
    session.cache.Extends (session.move setup next).cache := by
  cases next with
  | step id reply =>
    cases known : session.get? id with
    | none => rw [move_step_none setup reply known]; exact .refl _
    | some get =>
      rw [move_step setup reply known]
      exact (get.step_transition setup session.cache reply).grows sound.cache
  | invalidate path => exact .invalidate session.cache path
  | remove path => exact .remove session.cache path
  | _ => exact .of_tasks_eq rfl (Nat.le_refl _) (Nat.le_refl _)

/-- No run takes anything back. -/
theorem Sound.grows_run {session : Session} (sound : session.Sound) (setup : Setup)
    (moves : List Move) :
    session.cache.Extends (session.run setup moves).cache := by
  induction moves generalizing session with
  | nil => exact .refl session.cache
  | cons next rest ih =>
    exact (sound.grows_move setup next).trans (ih (sound.move setup next))

/-- What a move does to the slot of a path. -/
inductive SlotMove (setup : Setup) (session : Session) (path : Path) : Move → Prop
  | kept {next : Move} (tasks : (session.move setup next).cache.tasks = session.cache.tasks)
      (same : (session.move setup next).cache.slot path = session.cache.slot path) :
      SlotMove setup session path next
  | stepped {id : Nat} {get : Get} {reply : Reply} (known : session.get? id = some get)
      (change : Get.SlotChange session.cache (session.move setup (.step id reply)).cache get reply
        (get.step setup session.cache reply).2.stage path) :
      SlotMove setup session path (.step id reply)
  | invalidated {next : Move} (tasks : (session.move setup next).cache.tasks = session.cache.tasks)
      (now : (session.move setup next).cache.slot path = (session.cache.slot path).invalidate) :
      SlotMove setup session path next
  | removed {other : Path} (parts : other.parts = path.parts)
      (now : (session.move setup (.remove other)).cache.slot path = {}) :
      SlotMove setup session path (.remove other)

/-- A move changes a slot in one of these ways. -/
theorem slotMove (setup : Setup) (session : Session) (path : Path) (next : Move) :
    SlotMove setup session path next := by
  cases next with
  | step id reply =>
    cases known : session.get? id with
    | none =>
      have idle := move_step_none setup reply known
      exact .kept (by rw [idle]) (by rw [idle])
    | some get =>
      have change := (get.step_transition setup session.cache reply).slotChange path
      refine .stepped known ?_
      rw [move_step setup reply known]
      exact change
  | invalidate other =>
    have there := slot_invalidate session.cache other path
    split at there
    · exact .invalidated (tasks_invalidate ..) there
    · exact .kept (tasks_invalidate ..) there
  | invalidateAll => exact .invalidated rfl (slot_invalidateAll ..)
  | remove other =>
    have there := slot_remove session.cache other path
    split at there
    · next same => exact .removed same there
    · exact .kept (tasks_remove ..) there
  | _ => exact .kept rfl rfl

/-- An analysis that is there behind a move was there before, or a call looks up its source. -/
theorem analysis_before {setup : Setup} {session : Session} {next : Move} {task : Nat}
    {later : Analysis} (there : (session.move setup next).cache.tasks.get? task = some later) :
    (∃ analysis, session.cache.tasks.get? task = some analysis ∧ analysis.Extends later) ∨
    ∃ id get source, session.get? id = some get ∧ get.stage = .looking source ∧
      later = { identity := get.identity, source, fingerprint := get.fingerprint source } := by
  have kept (same : (session.move setup next).cache.tasks = session.cache.tasks) :
      ∃ analysis, session.cache.tasks.get? task = some analysis ∧ analysis.Extends later :=
    ⟨later, same ▸ there, .refl later⟩
  cases next with
  | step id reply =>
    cases known : session.get? id with
    | none => exact .inl (kept (by rw [move_step_none setup reply known]))
    | some get =>
      rw [move_step setup reply known] at there
      exact ((get.step_transition setup session.cache reply).analysis_before there).imp_right
        fun ⟨source, looking, _, new⟩ => ⟨id, get, source, known, looking, new⟩
  | invalidate path => exact .inl (kept (tasks_invalidate ..))
  | remove path => exact .inl (kept (tasks_remove ..))
  | _ => exact .inl (kept rfl)

private theorem each_analysis_step {setup : Setup} {P : Analysis → Prop}
    (start : ∀ identity source,
      P { identity, source, fingerprint := Fingerprint.compute identity.path source })
    (step : ∀ analysis task cache reply, P analysis →
      P (Analysis.step analysis setup task cache reply).2)
    {cache cache' : Cache} {get : Get} {reply : Reply} {stage : Get.Stage}
    (transition : Get.Transition setup cache get reply cache' stage)
    (each : ∀ task analysis, cache.tasks.get? task = some analysis → P analysis) :
    ∀ task analysis, cache'.tasks.get? task = some analysis → P analysis := by
  cases transition with
  | unreadable _ _ => simpa using each
  | start _ _ _ =>
    intro task analysis there
    rw [tasks_launched] at there
    split at there
    · cases there
      exact start ..
    · exact each _ _ there
  | @work source task joined analysis analyses notices stage waiting present going _ _ eq =>
    intro other later there
    simp only [Table.get?_set] at there
    split at there
    · cases there
      have next := step analysis task cache reply (each _ _ present)
      rwa [eq] at next
    · exact each _ _ there
  | @record source task joined analysis result waiting present found =>
    intro other later there
    rw [tasks_recorded] at there
    split at there
    · cases there
      have next := step analysis task cache reply (each _ _ present)
      rwa [analysis.step_found setup cache found] at next
    · exact each _ _ there
  | _ => exact each

/-- What holds of a new analysis, and what every step of an analysis preserves, holds of all. -/
theorem Reached.each_analysis {setup : Setup} {P : Analysis → Prop}
    (start : ∀ identity source,
      P { identity, source, fingerprint := Fingerprint.compute identity.path source })
    (step : ∀ analysis task cache reply, P analysis →
      P (Analysis.step analysis setup task cache reply).2)
    {session : Session} (reached : session.Reached setup) :
    ∀ task analysis, session.cache.tasks.get? task = some analysis → P analysis := by
  refine reached.induction (P := fun session => ∀ task analysis,
    session.cache.tasks.get? task = some analysis → P analysis) (by simp [Table.get?]) ?_
  intro session next each
  cases next with
  | step id reply =>
    cases known : session.get? id with
    | none => rw [move_step_none setup reply known]; exact each
    | some get =>
      rw [move_step setup reply known]
      exact each_analysis_step start step (get.step_transition setup session.cache reply) each
  | invalidate path => simpa [Session.move] using each
  | remove path => simpa [Session.move] using each
  | _ => exact each

end Session

end Cache

end ComponentCatalog
