import ComponentCatalog.Proofs.Cache.Lookups
import ComponentCatalog.Proofs.Cache.Session
import Mathlib.Data.List.Induction

/-! # How often a call looks up

A call starts at most one analysis. So the analyses of a path and the calls that may yet start one are
together never more than the calls that were made, and these bound what a call finds on its way,
whatever is invalidated, removed or changed meanwhile.
-/

namespace ComponentCatalog

open Component

namespace Cache

variable {setup : Setup} {path : Path} {get : Get}

/-! ## The calls of a session -/

/-- How many calls are made for a path. -/
def callsAt (path : Path) (moves : List Move) : Nat :=
  (called moves).countP fun identity => identity.path.parts = path.parts

theorem callsAt_append (path : Path) (first second : List Move) :
    callsAt path (first ++ second) = callsAt path first + callsAt path second := by
  simp only [callsAt, called_append, List.countP_append]

namespace Session

/-- How many calls may yet start an analysis of a path. -/
def starters (path : Path) (session : Session) : Nat :=
  session.calls.countP fun call => call.any (Get.mayStart path)

/-- What is seen of a call, if a move is a step of it. -/
def ofCall {α : Type} (id : Nat) (see : Cache → Get → Reply → Option α) (session : Session) :
    Move → Option α
  | .step mover reply =>
    if mover = id then (session.get? id).bind fun get => see session.cache get reply else none
  | _ => none

/-- What a call finds in a run, one lookup after the other. -/
def lookups (setup : Setup) (id : Nat) (moves : List Move) : List Lookup :=
  observed (move setup) (ofCall id fun cache get _ => get.lookup? cache) {} moves

/-- A call before each of its steps on which it is not held up. -/
def strides (setup : Setup) (id : Nat) (moves : List Move) : List Get :=
  observed (move setup)
    (ofCall id fun cache get reply => if get.free cache reply then some get else none) {} moves

variable {session : Session} {id : Nat} {next : Move} {moves : List Move}

/-- Of a call nothing is seen with a move that is no step of it. -/
theorem ofCall_eq_none {α : Type} {see : Cache → Get → Reply → Option α}
    (idle : ∀ reply, next = .step id reply → session.get? id = none) :
    ofCall id see session next = none := by
  cases next with
  | step mover reply =>
    by_cases mine : mover = id
    · subst mine
      simp [ofCall, idle reply rfl]
    · exact if_neg mine
  | _ => rfl

theorem length_calls_run (setup : Setup) (moves : List Move) :
    (({} : Session).run setup moves).calls.length = (called moves).length := by
  induction moves using List.reverseRecOn with
  | nil => rfl
  | append_singleton moves next ih =>
    rw [run_append, run_cons, run_nil, length_calls_move, ih, called_append, List.length_append]

/-- A call is for the component that was called for with its number. -/
theorem called_of_get? (known : (({} : Session).run setup moves).get? id = some get) :
    (called moves)[id]? = some get.identity := by
  induction moves using List.reverseRecOn generalizing get with
  | nil => simp [get?] at known
  | append_singleton moves next ih =>
    have old {before : Get} (known' : (({} : Session).run setup moves).get? id = some before) :
        (called (moves ++ [next]))[id]? = some before.identity := by
      have inside : id < (called moves).length := length_calls_run setup moves ▸ lt_of_get? known'
      rw [called_append, List.getElem?_append_left inside]
      exact ih known'
    rw [run_append, run_cons, run_nil] at known
    cases next with
    | call identity =>
      rw [get?_call] at known
      split at known
      · next last =>
        cases known
        rw [length_calls_run] at last
        simp [last, called, Move.called?]
      · exact old known
    | step mover reply =>
      cases callMove known with
      | kept known' => exact old known'
      | stepped known' now =>
        rw [now, Get.identity_step]
        exact old known'
    | _ =>
      cases callMove known with
      | kept known' => exact old known'

private theorem ite_eq_toNat (b : Bool) : (if b = true then 1 else 0) = b.toNat := by
  cases b <;> rfl

/-- Replacing a call changes by its own part how many may start an analysis. -/
private theorem starters_set (path : Path) (known : session.get? id = some get)
    (later : Option Get) {after : Session} (calls : after.calls = session.calls.set id later) :
    after.starters path + (get.mayStart path).toNat =
      session.starters path + (later.any (Get.mayStart path)).toNat := by
  obtain ⟨inside, here⟩ := List.getElem?_eq_some_iff.mp (Option.join_eq_some_iff.mp known)
  have own := List.boole_getElem_le_countP inside (p := fun call => call.any (Get.mayStart path))
  rw [starters, calls, List.countP_set inside]
  simp only [here, Option.any_some, ite_eq_toNat] at own ⊢
  rw [starters]
  omega

/-- There come no more analyses of a path, and calls that may start one, than calls are made. -/
theorem load_move (sound : session.Sound) (next : Move) :
    ((session.move setup next).cache.analysesAt path).length +
        (session.move setup next).starters path ≤
      (session.cache.analysesAt path).length + session.starters path + callsAt path [next] := by
  cases next with
  | call identity =>
    have starts : callsAt path [.call identity] = (Get.mayStart path { identity }).toNat := by
      by_cases same : identity.path.parts = path.parts <;>
        simp [callsAt, called, Move.called?, Get.mayStart, same]
    have more : (session.move setup (.call identity)).starters path =
        session.starters path + (Get.mayStart path { identity }).toNat := by
      simp only [starters, Session.move, pushed, List.countP_append, List.countP_singleton,
        Option.any_some, ite_eq_toNat]
    rw [starts, more]
    exact Nat.le_of_eq (Nat.add_assoc ..).symm
  | step id reply =>
    refine Nat.le_add_right_of_le ?_
    cases known : session.get? id with
    | none => exact Nat.le_of_eq (by rw [move_step_none setup reply known])
    | some get =>
      rw [move_step setup reply known]
      have step := get.step_transition setup session.cache reply
      have fewer : ((session.stepped id (get.step setup session.cache reply)).cache.analysesAt
          path).length + (Get.mayStart path (get.step setup session.cache reply).2).toNat ≤
          (session.cache.analysesAt path).length + (get.mayStart path).toNat := by
        rw [get.step_snd]
        exact step.analysesAt_le sound.cache path
      have own : (session.stepped id (get.step setup session.cache reply)).starters path +
          (get.mayStart path).toNat =
          session.starters path + (Get.mayStart path (get.step setup session.cache reply).2).toNat :=
        starters_set path known (some (get.step setup session.cache reply).2) rfl
      omega
  | drop id =>
    refine Nat.le_add_right_of_le (Nat.add_le_add_left ?_ _)
    cases known : session.get? id with
    | none => exact Nat.le_of_eq (by rw [move_drop_none setup known])
    | some get => exact Nat.le_of_add_right_le (Nat.le_of_eq (starters_set path known none rfl))
  | invalidate other =>
    exact Nat.le_of_eq (congrArg (List.length · + session.starters path)
      (analysesAt_congr (tasks_invalidate ..)))
  | remove other =>
    exact Nat.le_of_eq (congrArg (List.length · + session.starters path)
      (analysesAt_congr (tasks_remove ..)))
  | _ => exact Nat.le_add_right ..

theorem load_run (setup : Setup) (path : Path) (moves : List Move) :
    ((({} : Session).run setup moves).cache.analysesAt path).length +
      (({} : Session).run setup moves).starters path ≤ callsAt path moves := by
  induction moves using List.reverseRecOn with
  | nil => exact Nat.le_refl 0
  | append_singleton moves next ih =>
    have sound : (({} : Session).run setup moves).Sound := Reached.sound ⟨moves, rfl⟩
    rw [run_append, run_cons, run_nil, callsAt_append]
    exact Nat.le_trans (load_move sound next) (Nat.add_le_add_right ih _)

/-- A call that may start an analysis of a path is one of them. -/
private theorem starters_pos (known : session.get? id = some get) (may : get.mayStart path = true) :
    0 < session.starters path :=
  List.countP_pos_iff.mpr
    ⟨some get, List.mem_of_getElem? (Option.join_eq_some_iff.mp known), by simpa using may⟩

/-! ## What every move leaves -/

/-- What a call found, and how often it was not held up, in a session with as many calls for its
path. -/
structure Account (path : Path) (calls : Nat) (id : Nat) (found : List Lookup) (steps : Nat)
    (session : Session) : Prop where
  unmade : session.calls.length ≤ id → found = [] ∧ steps = 0
  tallied : Tallied path calls session.cache found
  searching : ∀ get, session.get? id = some get → Searching session.cache found steps get.stage

variable {calls calls' steps : Nat} {found : List Lookup}

private theorem Account.kept (account : Account path calls id found steps session)
    {after : Session} (more : calls ≤ calls') (grows : session.cache.Extends after.cache)
    (longer : session.calls.length ≤ after.calls.length)
    (stays : ∀ get, after.get? id = some get → session.get? id = some get ∨
      id = session.calls.length ∧ get = { identity := get.identity }) :
    Account path calls' id found steps after where
  unmade := fun beyond => account.unmade (Nat.le_trans longer beyond)
  tallied := account.tallied.mono more grows
  searching := by
    intro get known
    rcases stays get known with before | ⟨last, new⟩
    · exact (account.searching get before).mono grows
    · obtain ⟨rfl, rfl⟩ := account.unmade (Nat.le_of_eq last.symm)
      exact new ▸ .reading rfl rfl

/-- Every move leads to what the call found with it, if anything. -/
private theorem Account.move (account : Account path calls id found steps session)
    (sound : session.Sound) (next : Move) (more : calls ≤ calls')
    (parts : ∀ get, session.get? id = some get → get.identity.path.parts = path.parts)
    (load : (session.cache.analysesAt path).length + session.starters path ≤ calls) :
    Account path calls' id
      (found ++ (ofCall id (fun cache get _ => get.lookup? cache) session next).toList)
      (steps + (ofCall id (fun cache get reply => if get.free cache reply then some get else none)
        session next).toList.length)
      (session.move setup next) := by
  have grows := sound.grows_move setup next
  have longer := length_calls_le setup session next
  rcases steps_or_stays setup session id next with ⟨get, reply, rfl, known⟩ | ⟨idle, stays⟩
  · have searched : get.Searched path calls session.cache found steps :=
      ⟨account.tallied, account.searching get known⟩
    have room (may : get.mayStart path = true) : (session.cache.analysesAt path).length < calls := by
      have pos := starters_pos known may
      omega
    have next := searched.step setup sound.cache (parts get known) room reply
    have found' : ofCall id (fun cache get _ => get.lookup? cache) session (.step id reply) =
        get.lookup? session.cache := by simp [ofCall, known]
    have steps' : (ofCall id (fun cache get reply => if get.free cache reply then some get else none)
        session (.step id reply)).toList.length = (get.free session.cache reply).toNat := by
      cases free : get.free session.cache reply <;> simp [ofCall, known, free]
    rw [found', steps', move_step setup reply known]
    refine ⟨fun beyond => ?_, next.tallied.mono more (.refl _), fun later known' => ?_⟩
    · have inside := lt_of_get? known
      rw [move_step setup reply known] at longer
      omega
    · rw [get?_stepped session known, if_pos rfl] at known'
      cases known'
      exact next.searching
  · rw [ofCall_eq_none idle, ofCall_eq_none idle]
    simpa using account.kept more grows longer stays

private theorem account_run (setup : Setup) (id : Nat) (moves : List Move)
    (parts : ∀ identity, (called moves)[id]? = some identity → identity.path.parts = path.parts) :
    Account path (callsAt path moves) id (lookups setup id moves) (strides setup id moves).length
      (({} : Session).run setup moves) := by
  induction moves using List.reverseRecOn with
  | nil =>
    exact ⟨fun _ => ⟨rfl, rfl⟩, ⟨Nat.zero_le _, Nat.zero_le _, .nil, by simp [lookups, observed]⟩,
      fun get known => by simp [get?] at known⟩
  | append_singleton moves next ih =>
    have sound : (({} : Session).run setup moves).Sound := Reached.sound ⟨moves, rfl⟩
    have before : ∀ identity, (called moves)[id]? = some identity →
        identity.path.parts = path.parts := by
      intro identity made
      refine parts identity ?_
      rw [called_append, List.getElem?_append_left (List.getElem?_eq_some_iff.mp made).1, made]
    have more : callsAt path moves ≤ callsAt path (moves ++ [next]) := by
      rw [callsAt_append]
      exact Nat.le_add_right ..
    have here get (known : (({} : Session).run setup moves).get? id = some get) :
        get.identity.path.parts = path.parts := before get.identity (called_of_get? known)
    rw [run_append, run_cons, run_nil, lookups, strides, observed_concat, observed_concat,
      List.length_append]
    exact (ih before).move sound next more here (load_run setup path moves)

/-- In every run from the empty cache, a call looks up at most as often as calls are made for its
path. It starts at most one analysis and joins none twice. It ends: it has ended once it took more than
twice as many steps on which neither its source nor the analysis that it waited for was missing. -/
theorem lookups_bounded (setup : Setup) {moves : List Move} {id : Nat} {identity : Identity}
    (made : (called moves)[id]? = some identity) :
    let calls := callsAt identity.path moves
    let found := lookups setup id moves
    found.length ≤ calls ∧ (found.filterMap Lookup.started?).length ≤ 1 ∧
      (found.filterMap Lookup.joined?).Nodup ∧
      ∀ get, (({} : Session).run setup moves).get? id = some get →
        2 * calls < (strides setup id moves).length → ∃ result, get.stage = .done result := by
  intro calls found
  have account : Account identity.path calls id found (strides setup id moves).length
      (({} : Session).run setup moves) := by
    refine account_run setup id moves fun other made' => ?_
    cases made.symm.trans made'
    rfl
  have bounded : found.length ≤ calls := account.tallied.bounded
  refine ⟨bounded, account.tallied.starts, account.tallied.joins, fun get known many => ?_⟩
  have searching := account.searching get known
  generalize stage : get.stage = now at searching
  cases searching with
  | reading _ rested => omega
  | looking past count =>
    obtain rfl : identity = get.identity := Option.some.inj (made.symm.trans (called_of_get? known))
    have pos : 0 < (({} : Session).run setup moves).starters get.identity.path :=
      starters_pos known (by simp [Get.mayStart, stage])
    have load := load_run setup get.identity.path moves
    have room : found.length < calls := account.tallied.room past (by omega)
    omega
  | joined _ _ count => omega
  | started count => omega
  | done => exact ⟨_, rfl⟩

/-- Three calls for one component, each of another source: the second one joins what the first one
starts, and then what the third one starts meanwhile. -/
def crowdedMoves : List Move :=
  [.call card, .call card, .call card, .step 0 (.text (.ok "one")), .step 0 .nothing,
    .step 1 (.text (.ok "two")), .step 1 .nothing, .step 0 .nothing,
    .step 0 (.answered (.failed (.parse "")) 0), .step 0 .nothing, .step 2 (.text (.ok "three")),
    .step 2 .nothing, .step 1 .nothing, .step 1 .nothing, .step 2 .nothing,
    .step 2 (.answered (.failed (.parse "")) 0), .step 2 .nothing, .step 1 .nothing,
    .step 1 .nothing, .step 1 .nothing, .step 1 (.answered (.failed (.parse "")) 0),
    .step 1 .nothing, .step 1 .nothing]

/-- The second call looks up three times, the last time to start an analysis of its own source, and
has ended after that. -/
theorem lookups_bounded_crowded :
    (called crowdedMoves)[1]? = some card ∧ callsAt card.path crowdedMoves = 3 ∧
      (lookups .plain 1 crowdedMoves).filterMap Lookup.joined? = [1, 2] ∧
      (lookups .plain 1 crowdedMoves).filterMap Lookup.started? = [3] ∧
      (lookups .plain 1 crowdedMoves).length ≤ callsAt card.path crowdedMoves ∧
      ∃ get result, (({} : Session).run .plain crowdedMoves).get? 1 = some get ∧
        get.stage = .done result := by
  have made : (called crowdedMoves)[1]? = some card := by decide +kernel
  obtain ⟨bounded, -, -, ends⟩ := lookups_bounded .plain made
  have known : ((({} : Session).run .plain crowdedMoves).get? 1).isSome := by decide +kernel
  obtain ⟨get, known⟩ := Option.isSome_iff_exists.mp known
  obtain ⟨result, done⟩ := ends get known (by decide +kernel)
  exact ⟨made, by decide +kernel, by decide +kernel, by decide +kernel, bounded, get, result, known,
    done⟩

end Session

end Cache

end ComponentCatalog
