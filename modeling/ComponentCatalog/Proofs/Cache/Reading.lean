import ComponentCatalog.Proofs.Cache.Session
import ComponentCatalog.Proofs.Digest.Fingerprint
import Mathlib.Data.List.Induction

/-! # Of which text an entry is that a call returns

A call reads its source once, and keeps to what it read: an entry that it hits holds for that text, an
analysis that it started is of that text, and of one that it joined it takes the entry only if that
has the fingerprint of the text. However the file changes meanwhile, what is returned is of no other
text, as long as fingerprints tell apart the texts that are read.
-/

namespace ComponentCatalog

open Component

namespace Cache

/-- An analysis at a path, of a text with the fingerprint, came to an entry. -/
def Settled (cache : Cache) (path : Path) (fingerprint : Fingerprint) (entry : Entry) : Prop :=
  ∃ task analysis, cache.tasks.get? task = some analysis ∧
    analysis.identity.path.parts = path.parts ∧ analysis.fingerprint = fingerprint ∧
    analysis.stage = .recorded (.ok entry)

theorem Settled.mono {old new : Cache} {path : Path} {fingerprint : Fingerprint} {entry : Entry}
    (settled : old.Settled path fingerprint entry) (grows : old.Extends new) :
    new.Settled path fingerprint entry := by
  obtain ⟨task, analysis, present, parts, hashed, recorded⟩ := settled
  obtain ⟨later, there, goes⟩ := grows.tasks present
  rw [goes.recorded _ recorded] at there
  exact ⟨task, analysis, there, parts, hashed, recorded⟩

/-- An entry that is hit was recorded by an analysis of the text for which it holds. -/
theorem Sound.settled_of_hit {cache : Cache} (sound : cache.Sound) {identity : Identity}
    {fingerprint : Fingerprint} {entry : Entry}
    (hit : (cache.slot identity.path).hit? identity fingerprint = some entry) :
    cache.Settled identity.path fingerprint entry := by
  obtain ⟨held, last, -⟩ := Slot.hit?_eq_some hit
  have slot := sound.slot identity.path
  obtain ⟨other, last', hashed⟩ := slot.held fingerprint held
  cases last.symm.trans last'
  rcases slot.last entry last with ⟨_, fault, -, rfl⟩ | ⟨task, analysis, present, parts, recorded⟩
  · cases hashed
  · obtain ⟨outcome, rfl⟩ := (sound.analyses present).found entry
      (Analysis.result?_of_recorded recorded)
    exact ⟨task, analysis, present, parts, Option.some.inj hashed, recorded⟩

namespace Session

/-- A call reads the source of its component, or fails to. -/
structure Reading where
  id : Nat
  identity : Identity
  result : Except Files.Fault String
  deriving DecidableEq

/-- The reading that a step of a call is. -/
def readingOf? (id : Nat) (get : Get) (reply : Reply) : Option Reading :=
  match get.stage, reply with
  | .reading, .text result => some ⟨id, get.identity, result⟩
  | _, _ => none

/-- The reading that a move is. -/
def reading? (session : Session) : Move → Option Reading
  | .step id reply => (session.get? id).bind fun get => readingOf? id get reply
  | _ => none

/-- What is read in a run, in this order. -/
def readings (setup : Setup) (session : Session) (moves : List Move) : List Reading :=
  observed (move setup) reading? session moves

/-- What one call read in a run. -/
def readingsOf (setup : Setup) (session : Session) (moves : List Move) (id : Nat) : List Reading :=
  (session.readings setup moves).filter fun reading => reading.id = id

/-- The digest tells apart all bytes that are hashed for the texts that are read. -/
def CollisionFree (readings : List Reading) : Prop :=
  ∀ first ∈ readings, ∀ second ∈ readings, ∀ source text,
    first.result = .ok source → second.result = .ok text →
    Digest.digest128 (Fingerprint.hashed first.identity.path source) =
      Digest.digest128 (Fingerprint.hashed second.identity.path text) →
    Fingerprint.hashed first.identity.path source = Fingerprint.hashed second.identity.path text

/-- How far a call is, given what it read. -/
inductive Traced (cache : Cache) (id : Nat) (get : Get) : List Reading → Prop
  | unread (reading : get.stage = .reading) : Traced cache id get []
  | read {source : String}
      (stage : get.stage = .looking source ∨ ∃ task joined, get.stage = .waiting source task joined) :
      Traced cache id get [⟨id, get.identity, .ok source⟩]
  | failed {fault : Files.Fault}
      (done : get.stage = .done (.ok (unreadableEntry get.identity fault))) :
      Traced cache id get [⟨id, get.identity, .error fault⟩]
  | got {source : String} {entry : Entry} (done : get.stage = .done (.ok entry))
      (settled : cache.Settled get.identity.path (get.fingerprint source) entry) :
      Traced cache id get [⟨id, get.identity, .ok source⟩]
  | unavailable {own : List Reading} {reason : String} (done : get.stage = .done (.error reason)) :
      Traced cache id get own

section

variable {setup : Setup} {cache cache' : Cache} {id : Nat} {get : Get} {own : List Reading}
  {reply : Reply}

private theorem Traced.mono (traced : Traced cache id get own) (grows : cache.Extends cache') :
    Traced cache' id get own := by
  cases traced with
  | unread reading => exact .unread reading
  | read stage => exact .read stage
  | failed done => exact .failed done
  | got done settled => exact .got done (settled.mono grows)
  | unavailable done => exact .unavailable done

private theorem readingOf?_eq_none (elsewhere : get.stage ≠ .reading) :
    readingOf? id get reply = none := by
  unfold readingOf?
  split
  · next reading => exact absurd reading elsewhere
  · rfl

/-- The step with which a call reads, or still does not. -/
private theorem traced_step_reading (reading : get.stage = .reading) :
    Traced (get.step setup cache reply).1 id (get.step setup cache reply).2
      (readingOf? id get reply).toList := by
  cases reply with
  | text result =>
    have now : readingOf? id get (.text result) = some ⟨id, get.identity, result⟩ := by
      simp only [readingOf?, reading]
    rw [now]
    cases result with
    | ok source =>
      have next : get.step setup cache (.text (.ok source)) =
          (cache, { get with stage := .looking source }) := by
        simp only [Get.step, reading]
      rw [next]
      exact .read (.inl rfl)
    | error fault =>
      have next : (get.step setup cache (.text (.error fault))).2 =
          { get with stage := .done (.ok (unreadableEntry get.identity fault)) } := by
        simp only [Get.step, reading]
      rw [next]
      exact .failed rfl
  | _ =>
    simp only [Get.step, reading, readingOf?]
    exact .unread reading

/-- A call whose task has its result takes it for the text that it read, or looks up again. -/
private theorem traced_afterTask (sound : cache.Sound) (waits : get.Sound cache) {source : String}
    {task : Nat} {joined : Bool} {analysis : Analysis} {result : Except String Entry}
    (waiting : get.stage = .waiting source task joined)
    (present : cache.tasks.get? task = some analysis)
    (recorded : analysis.stage = .recorded result) :
    Traced cache id { get with stage := (get.afterTask source joined result).stage }
      [⟨id, get.identity, .ok source⟩] := by
  rcases get.afterTask_cases source joined result with ⟨done, same⟩ | ⟨-, looking, -⟩
  · rw [done]
    cases result with
    | error reason => exact .unavailable rfl
    | ok entry =>
      obtain ⟨awaited, there, parts, own⟩ := waits.waits source task joined waiting
      cases present.symm.trans there
      have hashed : analysis.fingerprint = get.fingerprint source := by
        cases joined with
        | false =>
          obtain ⟨identity, text⟩ := own rfl
          rw [(sound.analyses present).hashed, identity, text]
          rfl
        | true =>
          obtain ⟨outcome, rfl⟩ := (sound.analyses present).found entry
            (Analysis.result?_of_recorded recorded)
          exact Option.some.inj (same rfl _ rfl)
      exact .got rfl ⟨task, analysis, present, parts, hashed, recorded⟩
  · rw [looking]
    exact .read (.inl rfl)

/-- What a call has read it goes on with. -/
private theorem traced_step_read {stage : Get.Stage} {source : String} (sound : cache.Sound)
    (waits : get.Sound cache) (step : Get.Transition setup cache get reply cache' stage)
    (now : get.stage = .looking source ∨ ∃ task joined, get.stage = .waiting source task joined) :
    Traced cache' id { get with stage } [⟨id, get.identity, .ok source⟩] := by
  have looks {text : String} (looking : get.stage = .looking text) : text = source := by
    rcases now with here | ⟨_, _, waiting⟩
    · cases looking.symm.trans here
      rfl
    · cases looking.symm.trans waiting
  have awaits {text : String} {task : Nat} {joined : Bool}
      (waiting : get.stage = .waiting text task joined) : text = source := by
    rcases now with looking | ⟨_, _, here⟩
    · cases waiting.symm.trans looking
    · cases waiting.symm.trans here
      rfl
  cases step with
  | rest => exact .read now
  | work _ _ _ _ _ _ => exact .read now
  | record _ _ _ => exact .read now
  | start looking _ _ =>
    obtain rfl := looks looking
    exact .read (.inr ⟨_, _, rfl⟩)
  | join looking _ =>
    obtain rfl := looks looking
    exact .read (.inr ⟨_, _, rfl⟩)
  | hit looking _ hit =>
    obtain rfl := looks looking
    exact .got rfl (sound.settled_of_hit hit)
  | take waiting present recorded =>
    obtain rfl := awaits waiting
    exact traced_afterTask sound waits waiting present recorded
  | read reading _ => rcases now with here | ⟨_, _, here⟩ <;> cases reading.symm.trans here
  | unreadable reading _ => rcases now with here | ⟨_, _, here⟩ <;> cases reading.symm.trans here

/-- A step takes a call on by what it read before, and by what it reads now. -/
private theorem Traced.step (sound : cache.Sound) (waits : get.Sound cache)
    (traced : Traced cache id get own) :
    Traced (get.step setup cache reply).1 id (get.step setup cache reply).2
      (own ++ (readingOf? id get reply).toList) := by
  have ended {result : Except String Entry} (done : get.stage = .done result) :
      get.step setup cache reply = (cache, get) ∧ readingOf? id get reply = none := by
    refine ⟨by simp only [Get.step, done], readingOf?_eq_none ?_⟩
    simp [done]
  have kept := traced
  cases traced with
  | unread reading => exact traced_step_reading reading
  | read now =>
    have elsewhere : get.stage ≠ .reading := by
      rcases now with here | ⟨_, _, here⟩ <;> simp [here]
    rw [readingOf?_eq_none elsewhere, get.step_snd setup cache reply]
    exact traced_step_read sound waits (get.step_transition setup cache reply) now
  | failed done => simpa [ended done] using kept
  | got done settled => simpa [ended done] using kept
  | unavailable done => simpa [ended done] using kept

end

/-- What calls read is logged: each of them is as far as its readings say, and whatever is analyzed
was read. -/
structure Logged (session : Session) (log : List Reading) : Prop where
  numbered : ∀ reading ∈ log, reading.id < session.calls.length
  calls : ∀ id get, session.get? id = some get →
    Traced session.cache id get (log.filter fun reading => reading.id = id)
  sources : ∀ task analysis, session.cache.tasks.get? task = some analysis →
    ∃ reading ∈ log, reading.identity = analysis.identity ∧ reading.result = .ok analysis.source

section

variable {setup : Setup} {session : Session} {log : List Reading}

private theorem Logged.of_cache (logged : session.Logged log) {cache : Cache}
    (tasks : cache.tasks = session.cache.tasks) (grows : session.cache.Extends cache) :
    Logged { session with cache } log where
  numbered := logged.numbered
  calls := fun id get known => (logged.calls id get known).mono grows
  sources := by
    rw [tasks]
    exact logged.sources

private theorem Logged.call (logged : session.Logged log) (identity : Identity) :
    (session.pushed { identity }).Logged log where
  numbered := by
    intro reading member
    have older := logged.numbered reading member
    simp only [pushed, List.length_append, List.length_singleton]
    omega
  calls := by
    intro id get known
    rw [get?_pushed] at known
    split at known
    · next new =>
      have none : log.filter (fun reading => reading.id = id) = [] := by
        apply List.filter_eq_nil_iff.mpr
        intro reading member same
        have older := logged.numbered reading member
        have here : reading.id = id := by simpa using same
        omega
      cases known
      rw [none]
      exact .unread rfl
    · exact logged.calls id get known
  sources := logged.sources

private theorem id_of_mem_readingOf? {id : Nat} {get : Get} {reply : Reply} {reading : Reading}
    (member : reading ∈ (readingOf? id get reply).toList) : reading.id = id := by
  unfold readingOf? at member
  split at member
  · simp only [Option.toList_some, List.mem_singleton] at member
    rw [member]
  · cases member

private theorem filter_readingOf? (id other : Nat) (get : Get) (reply : Reply) :
    (readingOf? id get reply).toList.filter (fun reading => reading.id = other) =
      if other = id then (readingOf? id get reply).toList else [] := by
  split
  · next same =>
    exact List.filter_eq_self.mpr fun reading member =>
      decide_eq_true ((id_of_mem_readingOf? member).trans same.symm)
  · next another =>
    exact List.filter_eq_nil_iff.mpr fun reading member here =>
      another ((of_decide_eq_true here).symm.trans (id_of_mem_readingOf? member))

/-- What a call looks up it has read. -/
private theorem Logged.mem_of_looking (logged : session.Logged log) {id : Nat} {get : Get} {source : String}
    (known : session.get? id = some get) (looking : get.stage = .looking source) :
    ⟨id, get.identity, .ok source⟩ ∈ log := by
  have traced := logged.calls id get known
  generalize own : log.filter (fun reading => reading.id = id) = readings at traced
  cases traced with
  | @read text stage =>
    obtain rfl : text = source := by
      rcases stage with here | ⟨_, _, here⟩
      · cases looking.symm.trans here
        rfl
      · cases looking.symm.trans here
    exact (List.mem_filter.mp (own ▸ List.mem_singleton_self _)).1
  | unread stage => cases looking.symm.trans stage
  | failed stage => cases looking.symm.trans stage
  | got stage _ => cases looking.symm.trans stage
  | unavailable stage => cases looking.symm.trans stage

/-- A step of a call is logged if it reads. -/
private theorem Logged.stepped (logged : session.Logged log) (sound : session.Sound) {id : Nat}
    {get : Get} (reply : Reply) (known : session.get? id = some get) :
    (session.stepped id (get.step setup session.cache reply)).Logged
      (log ++ (readingOf? id get reply).toList) where
  numbered := by
    intro reading member
    have length : (session.stepped id (get.step setup session.cache reply)).calls.length =
        session.calls.length := List.length_set
    rw [length]
    rcases List.mem_append.mp member with older | new
    · exact logged.numbered reading older
    · exact id_of_mem_readingOf? new ▸ lt_of_get? known
  calls := by
    intro other get' known'
    have step := get.step_transition setup session.cache reply
    rw [get?_stepped session known] at known'
    rw [List.filter_append, filter_readingOf?]
    split at known'
    · next same =>
      subst same
      cases known'
      rw [if_pos rfl]
      exact (logged.calls other get known).step sound.cache (sound.calls known)
    · next another =>
      rw [if_neg another, List.append_nil]
      exact (logged.calls other get' known').mono (step.grows sound.cache)
  sources := by
    intro task later there
    have step := get.step_transition setup session.cache reply
    rcases step.analysis_before there with ⟨analysis, present, grows⟩ | ⟨source, looking, -, rfl⟩
    · obtain ⟨reading, member, identity, result⟩ := logged.sources task analysis present
      exact ⟨reading, List.mem_append_left _ member, grows.identity ▸ identity,
        grows.source ▸ result⟩
    · exact ⟨_, List.mem_append_left _ (logged.mem_of_looking known looking), rfl, rfl⟩

private theorem Logged.move (logged : session.Logged log) (sound : session.Sound) (next : Move) :
    (session.move setup next).Logged (log ++ (session.reading? next).toList) := by
  have unseen : ∀ {session' : Session}, session'.Logged log →
      session'.Logged (log ++ (none : Option Reading).toList) := by simp
  cases next with
  | step id reply =>
    cases known : session.get? id with
    | none =>
      rw [move_step_none setup reply known]
      simpa [reading?, known] using logged
    | some get =>
      rw [move_step setup reply known]
      simpa [reading?, known] using logged.stepped sound reply known
  | call identity => exact unseen (logged.call identity)
  | drop id =>
    refine unseen ⟨?_, fun other get known => ?_, logged.sources⟩
    · simpa [Session.move] using logged.numbered
    · rw [get?_drop] at known
      split at known
      · cases known
      · exact logged.calls other get known
  | invalidate path =>
    exact unseen (logged.of_cache (by simp) (.invalidate session.cache path))
  | invalidateAll =>
    exact unseen (logged.of_cache rfl (.of_tasks_eq rfl (Nat.le_refl _) (Nat.le_refl _)))
  | remove path => exact unseen (logged.of_cache (by simp) (.remove session.cache path))
  | snapshot components =>
    exact unseen (logged.of_cache rfl (.of_tasks_eq rfl (Nat.le_refl _) (Nat.le_refl _)))

/-- Every run logs what its calls read. -/
theorem logged_run (setup : Setup) (moves : List Move) :
    (({} : Session).run setup moves).Logged (readings setup {} moves) := by
  induction moves using List.reverseRecOn with
  | nil => exact ⟨by simp [readings, observed], by simp [get?], by simp [Table.get?]⟩
  | append_singleton moves next ih =>
    have sound : (({} : Session).run setup moves).Sound := Reached.sound ⟨moves, rfl⟩
    rw [run_append, run_cons, run_nil, readings, observed_concat]
    exact ih.move sound next

end

/-! ## What is returned -/

/-- An entry answers a call that read a text, or could not: it says so, or it is what an analysis of
the very text came to. -/
def Answers (cache : Cache) (identity : Identity) (entry : Entry) :
    Except Files.Fault String → Prop
  | .error fault => entry = unreadableEntry identity fault
  | .ok source => entry.fingerprint? = some (Fingerprint.compute identity.path source) ∧
    ∃ task analysis, cache.tasks.get? task = some analysis ∧ analysis.identity.path = identity.path ∧
      analysis.source = source ∧ analysis.stage = .recorded (.ok entry)

/-- A call that returned an entry read once, and the entry answers what it read. -/
theorem returned_of_read {setup : Setup} {moves : List Move} {id : Nat} {entry : Entry}
    (free : CollisionFree (readings setup {} moves))
    (returned : (({} : Session).run setup moves).returned? id = some entry) :
    ∃ identity result,
      (({} : Session).run setup moves).get? id = some ⟨identity, .done (.ok entry)⟩ ∧
      readingsOf setup {} moves id = [⟨id, identity, result⟩] ∧
      Answers (({} : Session).run setup moves).cache identity entry result := by
  have logged := logged_run setup moves
  have sound : (({} : Session).run setup moves).Sound := Reached.sound ⟨moves, rfl⟩
  obtain ⟨⟨identity, stage⟩, known, done⟩ := returned?_eq_some.mp returned
  cases done
  have traced := logged.calls id _ known
  generalize own : (readings setup {} moves).filter (fun reading => reading.id = id) = mine at traced
  cases traced with
  | unread stage => cases stage
  | read stage => rcases stage with here | ⟨_, _, here⟩ <;> cases here
  | unavailable stage => cases stage
  | failed stage =>
    exact ⟨identity, _, known, own, Except.ok.inj (Get.Stage.done.inj stage)⟩
  | @got source other stage settled =>
    obtain rfl : entry = other := Except.ok.inj (Get.Stage.done.inj stage)
    refine ⟨identity, .ok source, known, own, ?_⟩
    obtain ⟨task, analysis, present, parts, hashed, recorded⟩ := settled
    have mine : (⟨id, identity, .ok source⟩ : Reading) ∈ readings setup {} moves :=
      (List.mem_filter.mp (own ▸ List.mem_singleton_self _)).1
    obtain ⟨reading, member, whose, what⟩ := logged.sources task analysis present
    have computed : Fingerprint.compute analysis.identity.path analysis.source =
        Fingerprint.compute identity.path source :=
      (sound.cache.analyses present).hashed.symm.trans hashed
    rw [Fingerprint.compute_eq, Fingerprint.compute_eq, Fingerprint.mk.injEq] at computed
    have bytes := free reading member _ mine _ _ what rfl (whose ▸ computed)
    obtain ⟨path, text⟩ := Fingerprint.eq_of_hashed parts (whose ▸ bytes)
    obtain ⟨outcome, rfl⟩ := (sound.cache.analyses present).found entry
      (Analysis.result?_of_recorded recorded)
    exact ⟨congrArg some hashed, task, analysis, present, path, text, recorded⟩

/-- The file changes between two calls, and the second one joins the analysis of the older text; when
that ends it looks up again, and starts an analysis of what it read itself. -/
def changedMoves : List Move :=
  [.call card, .call card, .step 0 (.text (.ok "old")), .step 0 .nothing,
    .step 1 (.text (.ok "new")), .step 1 .nothing, .step 0 .nothing,
    .step 0 (.answered (.failed (.parse "")) 0), .step 0 .nothing, .step 1 .nothing,
    .step 1 .nothing, .step 1 .nothing, .step 1 (.answered (.failed (.parse "")) 0),
    .step 1 .nothing, .step 1 .nothing]

/-- The second call returns an entry of the newer text. -/
theorem returned_of_read_changed :
    let session := ({} : Session).run .plain changedMoves
    CollisionFree (readings .plain {} changedMoves) ∧
      ∃ entry, session.returned? 1 = some entry ∧
        ∃ identity result, session.get? 1 = some ⟨identity, .done (.ok entry)⟩ ∧
          readingsOf .plain {} changedMoves 1 = [⟨1, identity, result⟩] ∧
          Answers session.cache identity entry result := by
  have read : readings .plain {} changedMoves =
      [⟨0, card, .ok "old"⟩, ⟨1, card, .ok "new"⟩] := by decide +kernel
  have apart : Digest.digest128 (Fingerprint.hashed card.path "old") ≠
      Digest.digest128 (Fingerprint.hashed card.path "new") := by decide +kernel
  have free : CollisionFree (readings .plain {} changedMoves) := by
    intro first member second member' source text ok ok' same
    rw [read] at member member'
    simp only [List.mem_cons, List.not_mem_nil, or_false] at member member'
    rcases member with rfl | rfl <;> rcases member' with rfl | rfl <;> cases ok <;> cases ok'
    · rfl
    · exact absurd same apart
    · exact absurd same.symm apart
    · rfl
  have ended : ((({} : Session).run .plain changedMoves).returned? 1).isSome := by decide +kernel
  obtain ⟨entry, returned⟩ := Option.isSome_iff_exists.mp ended
  exact ⟨free, entry, returned, returned_of_read free returned⟩

end Session

end Cache

end ComponentCatalog
