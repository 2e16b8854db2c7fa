import ComponentCatalog.Proofs.Cache.Session

/-! # How the fields of a slot go together

The fingerprint, the last entry and the analysis on its way are written at different times. Still a
fingerprint that holds is that of the last entry, an analysis that was invalidated has taken it away,
and what is on its way has not ended and has its number for itself: no other slot waits for it, and
none that is started later is given it. `Coherent` says so of a slot beside the cache that it is in.
-/

namespace ComponentCatalog

open Component

namespace Cache

/-- The fields of a slot go together, and with the analyses and the other slots. -/
structure Slot.Coherent (cache : Cache) (path : Path) (slot : Slot) : Prop where
  held : ∀ fingerprint, slot.fingerprint? = some fingerprint →
    ∃ entry, slot.last? = some entry ∧ entry.fingerprint? = some fingerprint
  going : ∀ flight, slot.inFlight? = some flight →
    ∃ analysis, cache.tasks.get? flight.task = some analysis ∧ analysis.Open
  numbered : ∀ flight, slot.inFlight? = some flight → flight.task < cache.nextTask
  alone : ∀ flight, slot.inFlight? = some flight →
    ∀ other slot' flight', cache.slot? other = some slot' → slot'.inFlight? = some flight' →
      flight'.task = flight.task → other.parts = path.parts
  invalidated : ∀ flight, slot.inFlight? = some flight → flight.invalidated →
    slot.fingerprint? = none

/-- In a sound cache every slot is coherent: two slots that wait for one task are of its path. -/
theorem Sound.coherent {cache : Cache} (sound : cache.Sound) {path : Path} {slot : Slot}
    (present : cache.slot? path = some slot) : slot.Coherent cache path where
  held := (sound.slots present).held
  going := by
    intro flight flying
    obtain ⟨analysis, there, -, -, opened⟩ := (sound.slots present).flight flight flying
    exact ⟨analysis, there, opened⟩
  numbered := by
    intro flight flying
    obtain ⟨analysis, there, -⟩ := (sound.slots present).flight flight flying
    exact sound.numbered there
  alone := by
    intro flight flying other slot' flight' present' flying' same
    obtain ⟨analysis, there, parts, -⟩ := (sound.slots present).flight flight flying
    obtain ⟨analysis', there', parts', -⟩ := (sound.slots present').flight flight' flying'
    rw [same, there] at there'
    cases there'
    exact parts'.symm.trans parts
  invalidated := (sound.slots present).invalidated

namespace Session

variable {setup : Setup} {session : Session}

/-- A move starts an analysis: a call that looks up goes on to wait for a task of its own. -/
def Starts (setup : Setup) (session : Session) (next : Move) (task : Nat) : Prop :=
  ∃ id reply get later source source', next = .step id reply ∧ session.get? id = some get ∧
    get.stage = .looking source ∧ (session.move setup next).get? id = some later ∧
    later.stage = .waiting source' task false

private theorem transition_starts {cache cache' : Cache} {get : Get} {reply : Reply}
    {stage : Get.Stage} {source source' : String} {task : Nat}
    (step : Get.Transition setup cache get reply cache' stage)
    (looking : get.stage = .looking source) (waiting : stage = .waiting source' task false) :
    task = cache.nextTask := by
  cases step with
  | start _ _ _ => cases waiting; rfl
  | join _ _ => cases waiting
  | hit _ _ _ => cases waiting
  | rest => cases looking.symm.trans waiting
  | read reading _ => cases looking.symm.trans reading
  | unreadable reading _ => cases looking.symm.trans reading
  | take now _ _ => cases looking.symm.trans now
  | work now _ _ _ _ _ => cases looking.symm.trans now
  | record now _ _ => cases looking.symm.trans now

/-- The number of an analysis that is started is the next one. -/
theorem Starts.task_eq {next : Move} {task : Nat} (starts : session.Starts setup next task) :
    task = session.cache.nextTask := by
  obtain ⟨id, reply, get, later, source, source', rfl, known, looking, known', waiting⟩ := starts
  rw [move_step setup reply known, get?_stepped session known, if_pos rfl] at known'
  cases known'
  exact transition_starts (get.step_transition setup session.cache reply) looking waiting

/-- In every session that is reached a slot is coherent, and no analysis that is started later has
the number of the one that is on its way to it. -/
theorem slot_coherent (reached : session.Reached setup) {path : Path} {slot : Slot}
    (present : session.cache.slot? path = some slot) :
    slot.Coherent session.cache path ∧
      ∀ flight, slot.inFlight? = some flight → ∀ moves next task,
        (session.run setup moves).Starts setup next task → task ≠ flight.task := by
  have coherent := reached.sound.cache.coherent present
  refine ⟨coherent, fun flight flying moves next task starts => ?_⟩
  have before := coherent.numbered flight flying
  have grown := (reached.sound.grows_run setup moves).nextTask
  have later := starts.task_eq
  omega

/-- An analysis is on its way to a slot whose last entry is of an unreadable source, and is
invalidated. -/
def invalidatedMoves : List Move :=
  [.call ⟨"Card", ⟨"/a"⟩, false⟩, .step 0 (.text (.error .missing)),
    .call ⟨"Card", ⟨"/a"⟩, false⟩, .step 1 (.text (.ok "")), .step 1 .nothing, .invalidate ⟨"/a"⟩]

/-- The slot of the invalidated analysis is coherent, and the next analysis has another number. -/
theorem slot_coherent_invalidated :
    let session := ({} : Session).run .plain invalidatedMoves
    ∃ slot flight, session.cache.slot? ⟨"/a"⟩ = some slot ∧ slot.inFlight? = some flight ∧
      flight.invalidated = true ∧ slot.Coherent session.cache ⟨"/a"⟩ ∧
      ∀ moves next task, (session.run .plain moves).Starts .plain next task →
        task ≠ flight.task := by
  have reached : (({} : Session).run .plain invalidatedMoves).Reached .plain :=
    ⟨invalidatedMoves, rfl⟩
  obtain ⟨slot, flight, present, flying, invalidated⟩ : ∃ slot flight,
      (({} : Session).run .plain invalidatedMoves).cache.slot? ⟨"/a"⟩ = some slot ∧
        slot.inFlight? = some flight ∧ flight.invalidated = true := ⟨_, _, rfl, rfl, rfl⟩
  obtain ⟨coherent, later⟩ := slot_coherent reached present
  exact ⟨slot, flight, present, flying, invalidated, coherent, later flight flying⟩

end Session

end Cache

end ComponentCatalog
