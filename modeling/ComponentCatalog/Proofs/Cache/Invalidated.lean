import ComponentCatalog.Proofs.Cache.Session
import Mathlib.Data.List.Induction

/-! # What is left of an entry that was invalidated

An invalidation takes the fingerprint from a slot and marks the analysis on its way there. So nothing
is hit at the path until an analysis that is started later has recorded its entry: `Renewed` is what
every move preserves from then on, beside the log of who recorded. The marked analysis still leaves
its entry in the slot, which shows it as stale until something new happens at the path.
-/

namespace ComponentCatalog

open Component

namespace Cache

/-- The entry that a task has recorded. -/
def recordedBy? (cache : Cache) (task : Nat) : Option Entry :=
  (cache.tasks.get? task).bind fun analysis =>
    match analysis.stage with
    | .recorded result => result.toOption
    | _ => none

variable {cache cache' : Cache} {task : Nat}

theorem recordedBy?_eq_some {entry : Entry} : cache.recordedBy? task = some entry ↔
    ∃ analysis, cache.tasks.get? task = some analysis ∧ analysis.stage = .recorded (.ok entry) := by
  constructor
  · intro recorded
    obtain ⟨analysis, present, same⟩ := Option.bind_eq_some_iff.mp recorded
    refine ⟨analysis, present, ?_⟩
    split at same
    · next result stage =>
      cases result with
      | ok found => cases same; exact stage
      | error reason => cases same
    · cases same
  · rintro ⟨analysis, present, recorded⟩
    simp [recordedBy?, present, recorded, Except.toOption]

theorem recordedBy?_mono (grows : cache.Extends cache') {entry : Entry}
    (recorded : cache.recordedBy? task = some entry) :
    cache'.recordedBy? task = some entry := by
  obtain ⟨analysis, present, stage⟩ := recordedBy?_eq_some.mp recorded
  obtain ⟨later, there, goes⟩ := grows.tasks present
  rw [goes.recorded _ stage] at there
  exact recordedBy?_eq_some.mpr ⟨analysis, there, stage⟩

/-- What is on its way to a slot has recorded nothing. -/
theorem Sound.recordedBy?_flight (sound : cache.Sound) {path : Path} {flight : InFlight}
    (flying : (cache.slot path).inFlight? = some flight) :
    cache.recordedBy? flight.task = none := by
  obtain ⟨analysis, present, -, -, opened⟩ := (sound.slot path).flight flight flying
  rw [Option.eq_none_iff_forall_ne_some]
  intro entry recorded
  obtain ⟨other, there, stage⟩ := recordedBy?_eq_some.mp recorded
  cases present.symm.trans there
  exact opened _ stage

namespace Session

variable {setup : Setup} {session : Session} {path : Path}

/-- The analysis that a move has record an entry in the slot of a path. -/
def recorder? (setup : Setup) (path : Path) (session : Session) (next : Move) : Option Nat :=
  ((session.cache.slot path).inFlight?.map InFlight.task).filter fun task =>
    ((session.move setup next).cache.recordedBy? task).isSome

/-- The analyses that recorded an entry in the slot of a path, in this order. -/
def recorders (setup : Setup) (path : Path) (session : Session) (moves : List Move) : List Nat :=
  observed (move setup) (recorder? setup path) session moves

/-- A move invalidates the entry of a path. -/
def Invalidates (path : Path) : Move → Prop
  | .invalidate other => other.parts = path.parts
  | .invalidateAll => True
  | _ => False

/-- A move does not remove the component at a path. -/
def Keeps (path : Path) : Move → Prop
  | .remove other => other.parts ≠ path.parts
  | _ => True

/-- A move does nothing new at a path: no analysis is started there, no failure to read the source is
recorded, and the component is not removed. -/
def LeavesAlone (path : Path) (session : Session) : Move → Prop
  | .step id reply => ∀ get, session.get? id = some get → get.identity.path.parts = path.parts →
      (∀ source task, get.stage = .looking source →
        (session.cache.lookup get.identity (get.fingerprint source) source).2 ≠ .started task) ∧
      (get.stage = .reading → ∀ fault, reply ≠ .text (.error fault))
  | .remove other => other.parts ≠ path.parts
  | _ => True

/-- A call looks up a path, and the cache answers with an entry that it has. -/
def Hits (session : Session) (path : Path) (entry : Entry) : Prop :=
  ∃ id get source, session.get? id = some get ∧ get.identity.path.parts = path.parts ∧
    get.stage = .looking source ∧
    (session.cache.lookup get.identity (get.fingerprint source) source).2 = .hit entry

private theorem recorder?_eq_none (next : Move)
    (unrecorded : ∀ flight, (session.cache.slot path).inFlight? = some flight →
      (session.move setup next).cache.recordedBy? flight.task = none) :
    session.recorder? setup path next = none := by
  unfold recorder?
  cases flying : (session.cache.slot path).inFlight? with
  | none => rfl
  | some flight => simp [unrecorded flight flying]

private theorem recordedBy?_of_tasks (tasks : cache'.tasks = cache.tasks) :
    cache'.recordedBy? task = cache.recordedBy? task := by
  simp only [recordedBy?, tasks]

/-! ## What is hit -/

/-- Since a task was the next one all that is on its way to a slot is later or marked, and a
fingerprint that holds was recorded by the last that recorded, which is later. -/
structure Renewed (since : Nat) (path : Path) (log : List Nat) (cache : Cache) : Prop where
  next : since ≤ cache.nextTask
  flight : ∀ flight, (cache.slot path).inFlight? = some flight →
    flight.invalidated = false → since ≤ flight.task
  held : ∀ fingerprint, (cache.slot path).fingerprint? = some fingerprint →
    ∃ task entry, log.getLast? = some task ∧ since ≤ task ∧
      (cache.slot path).last? = some entry ∧ cache.recordedBy? task = some entry

variable {since : Nat} {log : List Nat}

private theorem Renewed.invalidated (since : Nat) (path : Path) {slot : Slot}
    (next : since ≤ cache.nextTask) (now : cache.slot path = slot.invalidate) (log : List Nat) :
    Renewed since path log cache where
  next := next
  flight := by
    intro flight flying unmarked
    rw [now] at flying
    obtain ⟨before, -, rfl⟩ := Option.map_eq_some_iff.mp flying
    cases unmarked
  held := by
    intro fingerprint held
    rw [now] at held
    cases held

/-- A slot that keeps what it shows, and what is on its way to it or nothing, needs no new record. -/
private theorem Renewed.of_kept (renewed : Renewed since path log cache)
    (grows : cache.Extends cache')
    (flight : ∀ flight, (cache'.slot path).inFlight? = some flight →
      (cache.slot path).inFlight? = some flight ∨ cache.nextTask ≤ flight.task)
    (fingerprint : (cache'.slot path).fingerprint? = (cache.slot path).fingerprint?)
    (last : (cache'.slot path).last? = (cache.slot path).last?) :
    Renewed since path log cache' where
  next := Nat.le_trans renewed.next grows.nextTask
  flight := by
    intro now flying unmarked
    rcases flight now flying with before | new
    · exact renewed.flight now before unmarked
    · exact Nat.le_trans renewed.next new
  held := by
    intro found held
    rw [fingerprint] at held
    obtain ⟨task, entry, logged, later, shown, recorded⟩ := renewed.held found held
    exact ⟨task, entry, logged, later, last.trans shown, recordedBy?_mono grows recorded⟩

private theorem Renewed.stepped {id : Nat} {get : Get} {reply : Reply} {stage : Get.Stage}
    (renewed : Renewed since path log session.cache) (sound : session.Sound)
    (change : Get.SlotChange session.cache (session.move setup (.step id reply)).cache get reply
      stage path) :
    Renewed since path (log ++ (session.recorder? setup path (.step id reply)).toList)
      (session.move setup (.step id reply)).cache := by
  have grows := sound.grows_move setup (.step id reply)
  have after := sound.move setup (.step id reply)
  have unlogged (unrecorded : ∀ flight, (session.cache.slot path).inFlight? = some flight →
      (session.move setup (.step id reply)).cache.recordedBy? flight.task = none) :
      log ++ (session.recorder? setup path (.step id reply)).toList = log := by
    rw [recorder?_eq_none _ unrecorded, Option.toList_none, List.append_nil]
  cases change with
  | kept same =>
    rw [unlogged fun flight flying => after.cache.recordedBy?_flight (same ▸ flying)]
    exact renewed.of_kept grows (fun flight flying => .inl (same ▸ flying)) (by rw [same])
      (by rw [same])
  | unreadable _ _ _ idle now =>
    rw [unlogged fun flight flying => by cases idle.symm.trans flying]
    refine ⟨Nat.le_trans renewed.next grows.nextTask, ?_, ?_⟩ <;> simp [now, Slot.unreadable]
  | started _ _ idle _ now _ =>
    rw [unlogged fun flight flying => by cases idle.symm.trans flying]
    refine renewed.of_kept grows (fun flight flying => .inr ?_) (by rw [now]) (by rw [now])
    rw [now] at flying
    cases flying
    exact Nat.le_refl _
  | @recorded flight analysis entry flying present found now later =>
    have recorded := recordedBy?_eq_some.mpr ⟨_, later, rfl⟩
    have logs : session.recorder? setup path (.step id reply) = some flight.task := by
      simp [recorder?, flying, recorded]
    rw [logs, Option.toList_some]
    refine ⟨Nat.le_trans renewed.next grows.nextTask, by simp [now, Slot.recorded], ?_⟩
    intro fingerprint held
    rw [now] at held
    have unmarked : flight.invalidated = false := by
      cases marked : flight.invalidated with
      | false => rfl
      | true => simp [Slot.recorded, marked] at held
    exact ⟨flight.task, entry, by simp, renewed.flight flight flying unmarked, by rw [now]; rfl,
      recorded⟩
  | @landed flight _ _ flying _ _ now later =>
    have unrecorded : (session.move setup (.step id reply)).cache.recordedBy? flight.task =
        none := by
      rw [recordedBy?, later]
      rfl
    rw [unlogged fun other flying' => by cases flying.symm.trans flying'; exact unrecorded]
    refine renewed.of_kept grows (fun flight flying => ?_) (by rw [now]; rfl) (by rw [now]; rfl)
    rw [now] at flying
    cases flying

/-- Every move preserves it. -/
private theorem Renewed.move (renewed : Renewed since path log session.cache)
    (sound : session.Sound) (next : Move) :
    Renewed since path (log ++ (session.recorder? setup path next).toList)
      (session.move setup next).cache := by
  have grows := sound.grows_move setup next
  have unlogged (tasks : (session.move setup next).cache.tasks = session.cache.tasks) :
      log ++ (session.recorder? setup path next).toList = log := by
    have none : session.recorder? setup path next = none := by
      refine recorder?_eq_none next fun flight flying => ?_
      exact (recordedBy?_of_tasks tasks).trans (sound.cache.recordedBy?_flight flying)
    rw [none, Option.toList_none, List.append_nil]
  cases session.slotMove setup path next with
  | kept tasks same =>
    rw [unlogged tasks]
    exact renewed.of_kept grows (fun flight flying => .inl (same ▸ flying)) (by rw [same])
      (by rw [same])
  | stepped known change => exact renewed.stepped sound change
  | invalidated tasks now =>
    rw [unlogged tasks]
    exact .invalidated since path (Nat.le_trans renewed.next grows.nextTask) now log
  | removed parts now =>
    rw [unlogged (tasks_remove ..)]
    exact ⟨Nat.le_trans renewed.next grows.nextTask, by simp [now], by simp [now]⟩

private theorem slot_of_invalidates {mark : Move} (marks : Invalidates path mark) :
    (session.move setup mark).cache.slot path = (session.cache.slot path).invalidate := by
  cases mark with
  | invalidate other => exact (slot_invalidate ..).trans (if_pos marks)
  | invalidateAll => exact slot_invalidateAll ..
  | _ => exact marks.elim

variable (setup) in
/-- From an invalidation on, every run keeps it. -/
private theorem renewed_run {mark : Move} (sound : session.Sound) (marks : Invalidates path mark)
    (moves : List Move) :
    Renewed session.cache.nextTask path (recorders setup path (session.move setup mark) moves)
      ((session.move setup mark).run setup moves).cache := by
  induction moves using List.reverseRecOn with
  | nil =>
    have grown := (sound.grows_move setup mark).nextTask
    exact .invalidated _ path grown (slot_of_invalidates marks) []
  | append_singleton moves next ih =>
    have before : ((session.move setup mark).run setup moves).Sound :=
      (sound.move setup mark).run setup moves
    rw [run_append, run_cons, run_nil, recorders, observed_concat]
    exact ih.move before next

/-! ## What is left on its way -/

/-- The analysis that was on its way to a slot when it was invalidated is so still, or has ended. -/
inductive Marked (path : Path) (task : Nat) (cache : Cache) : Prop
  | flying {flight : InFlight} (flying : (cache.slot path).inFlight? = some flight)
      (number : flight.task = task) (marked : flight.invalidated = true)
  | ended {analysis : Analysis} {result : Except String Entry}
      (present : cache.tasks.get? task = some analysis)
      (recorded : analysis.stage = .recorded result)

variable (setup) in
/-- A move on which a marked analysis is on its way no more is the one that records its entry. -/
private theorem marked_move {flight : InFlight} (sound : session.Sound)
    (flying : (session.cache.slot path).inFlight? = some flight) (marked : flight.invalidated = true)
    {next : Move} (keeps : Keeps path next) :
    Marked path flight.task (session.move setup next).cache ∧
      ∀ entry, (session.move setup next).cache.recordedBy? flight.task = some entry →
        (session.move setup next).cache.slot path = ⟨none, some entry, none⟩ := by
  have after := (sound.move setup next).cache
  have still {flight' : InFlight} (flying' : ((session.move setup next).cache.slot path).inFlight? =
      some flight') (number : flight'.task = flight.task) (marked' : flight'.invalidated = true) :
      Marked path flight.task (session.move setup next).cache ∧
        ∀ entry, (session.move setup next).cache.recordedBy? flight.task = some entry →
          (session.move setup next).cache.slot path = ⟨none, some entry, none⟩ := by
    refine ⟨.flying flying' number marked', fun entry recorded => ?_⟩
    rw [← number, after.recordedBy?_flight flying'] at recorded
    cases recorded
  cases session.slotMove setup path next with
  | kept _ same => exact still (same ▸ flying) rfl marked
  | invalidated _ now =>
    have flying' : ((session.move setup next).cache.slot path).inFlight? =
        some { flight with invalidated := true } := by
      rw [now, Slot.invalidate, flying, Option.map_some]
    exact still flying' rfl rfl
  | removed parts _ => exact absurd parts keeps
  | stepped known change =>
    cases change with
    | kept same => exact still (same ▸ flying) rfl marked
    | unreadable _ _ _ idle _ => cases idle.symm.trans flying
    | started _ _ idle _ _ _ => cases idle.symm.trans flying
    | @recorded flight' analysis entry flying' _ _ now later =>
      cases flying.symm.trans flying'
      refine ⟨.ended later rfl, fun entry' recorded => ?_⟩
      have same := recordedBy?_eq_some.mpr ⟨_, later, rfl⟩
      cases same.symm.trans recorded
      rw [now, Slot.recorded, if_pos marked]
    | landed flying' _ _ _ later =>
      cases flying.symm.trans flying'
      refine ⟨.ended later rfl, fun entry recorded => ?_⟩
      obtain ⟨other, there, stage⟩ := recordedBy?_eq_some.mp recorded
      cases later.symm.trans there
      cases stage

/-- A marked analysis stays so, unless the component is removed. -/
private theorem Marked.run (sound : session.Sound) {moves : List Move}
    (keeps : ∀ next ∈ moves, Keeps path next) (marked : Marked path task session.cache) :
    Marked path task (session.run setup moves).cache := by
  induction moves generalizing session with
  | nil => exact marked
  | cons next rest ih =>
    refine ih (sound.move setup next) (fun move later => keeps move (.tail _ later)) ?_
    cases marked with
    | flying flying number marked =>
      exact number ▸ (marked_move setup sound flying marked (keeps next (.head _))).1
    | ended present recorded =>
      obtain ⟨later, there, grows⟩ := (sound.grows_move setup next).tasks present
      rw [grows.recorded _ recorded] at there
      exact .ended there recorded

/-- Where nothing new happens a slot whose entry does not hold stays as it is. -/
private theorem slot_stays {entry : Entry} {moves : List Move}
    (stale : session.cache.slot path = ⟨none, some entry, none⟩)
    (alone : Follows (move setup) (LeavesAlone path) session moves) :
    (session.run setup moves).cache.slot path = ⟨none, some entry, none⟩ := by
  refine alone.preserves (P := fun session => session.cache.slot path = ⟨none, some entry, none⟩)
    (fun session next stale guard => ?_) stale
  cases session.slotMove setup path next with
  | kept _ same => exact same.trans stale
  | invalidated _ now => rw [now, stale]; rfl
  | removed parts _ => exact absurd parts guard
  | stepped known change =>
    cases change with
    | kept same => exact same.trans stale
    | unreadable parts reading text _ _ => exact absurd text ((guard _ known parts).2 reading _)
    | @started source parts looking idle miss _ _ =>
      refine absurd ?_ ((guard _ known parts).1 source session.cache.nextTask looking)
      rw [← slot_congr session.cache parts] at idle miss
      simp only [lookup, idle, miss]
    | recorded flying _ _ _ _ => simp [stale] at flying
    | landed flying _ _ _ _ => simp [stale] at flying

/-! ## Both together -/

private theorem lookup_hit {identity : Identity} {fingerprint : Fingerprint} {source : String}
    {entry : Entry} (hit : (cache.lookup identity fingerprint source).2 = .hit entry) :
    (cache.slot identity.path).hit? identity fingerprint = some entry := by
  unfold lookup at hit
  dsimp only at hit
  split at hit
  · cases hit
  · next found =>
    cases hit
    exact found
  · cases hit

/-- An invalidation is not lost. What is hit at the path afterwards was recorded by an analysis that
started later, and an analysis that was on its way still records its entry, as a stale one. -/
theorem invalidation_kept {mark : Move} (reached : session.Reached setup)
    (marks : Invalidates path mark) :
    (∀ moves entry, ((session.move setup mark).run setup moves).Hits path entry →
      ∃ task, (recorders setup path (session.move setup mark) moves).getLast? = some task ∧
        session.cache.tasks.get? task = none ∧
        ((session.move setup mark).run setup moves).cache.recordedBy? task = some entry) ∧
    ∀ flight before next after entry, (session.cache.slot path).inFlight? = some flight →
      (∀ move ∈ before ++ [next], Keeps path move) →
      let going := (session.move setup mark).run setup before
      going.cache.recordedBy? flight.task = none →
      (going.move setup next).cache.recordedBy? flight.task = some entry →
      Follows (move setup) (LeavesAlone path) (going.move setup next) after →
      let later := (going.move setup next).run setup after
      (later.cache.slot path).last? = some entry ∧ later.cache.status path = .stale := by
  have sound := reached.sound
  constructor
  · rintro moves entry ⟨id, get, source, known, parts, looking, hit⟩
    have renewed := renewed_run setup sound marks moves
    have found := lookup_hit hit
    rw [slot_congr _ parts] at found
    obtain ⟨held, last, -⟩ := Slot.hit?_eq_some found
    obtain ⟨task, entry', logged, later, last', recorded⟩ := renewed.held _ held
    cases last.symm.trans last'
    refine ⟨task, logged, ?_, recorded⟩
    rw [Option.eq_none_iff_forall_ne_some]
    intro analysis present
    have older := sound.cache.numbered present
    omega
  · intro flight before next after entry flying keeps going unrecorded recorded alone later
    have marked : ((session.move setup mark).cache.slot path).inFlight? =
        some { flight with invalidated := true } := by
      rw [slot_of_invalidates marks, Slot.invalidate, flying, Option.map_some]
    have started : Marked path flight.task (session.move setup mark).cache :=
      .flying marked rfl rfl
    have soundGoing : going.Sound := (sound.move setup mark).run setup before
    have kept : Marked path flight.task going.cache :=
      started.run (sound.move setup mark) fun move there => keeps move (List.mem_append_left _ there)
    have stale : (going.move setup next).cache.slot path = ⟨none, some entry, none⟩ := by
      cases kept with
      | flying flying' number marked' =>
        have ends := marked_move setup soundGoing flying' marked'
          (keeps next (by simp))
        exact ends.2 entry (number ▸ recorded)
      | @ended analysis result present stage =>
        -- It has ended without an entry, and so it stays.
        obtain ⟨later, there, grows⟩ := (soundGoing.grows_move setup next).tasks present
        obtain ⟨other, there', stage'⟩ := recordedBy?_eq_some.mp recorded
        cases there.symm.trans there'
        rw [grows.recorded _ stage] at stage'
        rw [recordedBy?_eq_some.mpr ⟨analysis, present, stage'⟩] at unrecorded
        cases unrecorded
    have stays := slot_stays stale alone
    exact ⟨by rw [stays], by rw [Cache.status, stays]; rfl⟩

/-- An analysis is on its way. -/
def startedMoves : List Move := [.call card, .step 0 (.text (.ok "")), .step 0 .nothing]

/-- The session in which the analysis on its way was invalidated. -/
def markedSession : Session :=
  (({} : Session).run .plain startedMoves).move .plain (.invalidate card.path)

/-- The analysis comes to an entry, and the last step records it. -/
def endingMoves : List Move :=
  [.step 0 .nothing, .step 0 (.answered (.failed (.parse "")) 0), .step 0 .nothing]

/-- A second call starts an analysis, which records its entry, and a third one is about to look up. -/
def renewingMoves : List Move :=
  endingMoves ++ [.call card, .step 1 (.text (.ok "")), .step 1 .nothing, .step 1 .nothing,
    .step 1 (.answered (.failed (.parse "")) 0), .step 1 .nothing, .call card,
    .step 2 (.text (.ok ""))]

/-- The analysis that was on its way leaves a stale entry, and the third call hits that of the second
one. -/
theorem invalidation_kept_in_flight :
    (∃ entry task, (markedSession.run .plain renewingMoves).Hits card.path entry ∧
      (recorders .plain card.path markedSession renewingMoves).getLast? = some task ∧
      (({} : Session).run .plain startedMoves).cache.tasks.get? task = none ∧
      (markedSession.run .plain renewingMoves).cache.recordedBy? task = some entry) ∧
    ∃ entry, ((markedSession.run .plain (endingMoves ++ [.invalidateAll])).cache.slot
        card.path).last? = some entry ∧
      (markedSession.run .plain (endingMoves ++ [.invalidateAll])).cache.status card.path =
        .stale := by
  have reached : (({} : Session).run .plain startedMoves).Reached .plain := ⟨startedMoves, rfl⟩
  have marks : Invalidates card.path (.invalidate card.path) := rfl
  obtain ⟨hits, ends⟩ := invalidation_kept reached marks
  constructor
  · have found : (((markedSession.run .plain renewingMoves).cache.slot card.path).hit? card
        (Fingerprint.compute card.path "")).isSome := by decide +kernel
    have idle : ((markedSession.run .plain renewingMoves).cache.slot card.path).inFlight? = none := by
      decide +kernel
    obtain ⟨entry, hit⟩ := Option.isSome_iff_exists.mp found
    have here : (markedSession.run .plain renewingMoves).Hits card.path entry := by
      refine ⟨2, ⟨card, .looking ""⟩, "", rfl, rfl, rfl, ?_⟩
      simp only [lookup, Get.fingerprint, idle, hit]
    obtain ⟨task, last, fresh, recorded⟩ := hits renewingMoves entry here
    exact ⟨entry, task, here, last, fresh, recorded⟩
  · have keeps : ∀ move ∈ endingMoves, Keeps card.path move := by simp [endingMoves, Keeps]
    exact ⟨_, ends ⟨1, Fingerprint.compute card.path "", false⟩
      [.step 0 .nothing, .step 0 (.answered (.failed (.parse "")) 0)] (.step 0 .nothing)
      [.invalidateAll] _ rfl keeps rfl rfl ⟨trivial, trivial⟩⟩

end Session

end Cache

end ComponentCatalog
