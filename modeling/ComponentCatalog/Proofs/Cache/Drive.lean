import ComponentCatalog.Proofs.Cache.Session

/-! # Driving an analysis to its end

Whoever waits for an analysis can take it to its result, whatever others do not do: no analysis is
stuck. On the way to the result no slot changes; with the last step the slot that waits for the task
has it.
-/

namespace ComponentCatalog

open Component

namespace Cache

/-- Metadata are being stored only where there is a store. -/
def Analysis.StoresIn (analysis : Analysis) (setup : Setup) : Prop :=
  ∀ metadata time, analysis.stage = .storing metadata time → setup.store?.isSome

namespace Analysis

variable (analysis : Analysis) (setup : Setup) (task : Nat) (cache : Cache)

private theorem begin_storesIn : (analysis.begin setup cache).2.StoresIn setup := by
  unfold begin
  split <;> rintro _ _ ⟨⟩

private theorem describe_storesIn (raw : Json) (time : Nat) :
    (analysis.describe setup raw time cache).2.StoresIn setup := by
  unfold describe
  split
  · split
    · next store => exact fun _ _ _ => store
    · rintro _ _ ⟨⟩
  · rintro _ _ ⟨⟩

private theorem answer_storesIn (time : Nat) (answer : Analyzer.Answer) :
    (analysis.answer setup cache time answer).2.StoresIn setup := by
  cases answer with
  | described raw => exact describe_storesIn analysis setup cache raw time
  | failed fault => cases fault <;> rintro _ _ ⟨⟩
  | late => rintro _ _ ⟨⟩
  | panicked reason => rintro _ _ ⟨⟩

/-- Whether its metadata could be stored does not matter for an analysis. -/
@[simp] theorem stored_snd (store : Store) (metadata : Metadata) (result : Except Files.Fault Unit) :
    (analysis.stored store metadata cache result).2 = analysis.finding (.resolved metadata) := by
  cases result <;> rfl

theorem step_storesIn (reply : Reply) (before : analysis.StoresIn setup) :
    (analysis.step setup task cache reply).2.StoresIn setup := by
  unfold step
  split
  · exact begin_storesIn analysis setup cache
  · split
    · rintro _ _ ⟨⟩
    · exact begin_storesIn analysis setup cache
  · exact begin_storesIn analysis setup cache
  · exact answer_storesIn analysis setup cache _ _
  · rw [stored_snd]
    rintro _ _ ⟨⟩
  · rintro _ _ ⟨⟩
  · exact before

/-- Without metadata the analyzer is asked at once, unless a step fails. -/
private theorem begin_snd : (∃ outcome, (analysis.begin setup cache).2 = analysis.finding outcome) ∨
    ∃ request, (analysis.begin setup cache).2 = { analysis with stage := .asked request } := by
  unfold begin
  split
  · exact .inl ⟨_, rfl⟩
  · exact .inr ⟨_, rfl⟩

/-- Whatever is stored, the first step finds an outcome or asks the analyzer. -/
theorem created_step (created : analysis.stage = .created)
    (stored : Except Files.Fault ByteArray) :
    (∃ outcome, (analysis.step setup task cache (.bytes stored)).2 = analysis.finding outcome) ∨
    ∃ request, (analysis.step setup task cache (.bytes stored)).2 =
      { analysis with stage := .asked request } := by
  unfold step
  rw [created]
  cases setup.store? with
  | none => exact begin_snd analysis setup cache
  | some store =>
    cases stored with
    | error cause => exact begin_snd analysis setup cache
    | ok bytes =>
      dsimp only
      split
      · exact .inl ⟨_, rfl⟩
      · exact begin_snd analysis setup cache

theorem asked_step {request : Analyzer.Request} (asked : analysis.stage = .asked request) :
    (analysis.step setup task cache (.answered (.failed (.parse "")) 0)).2 =
      analysis.failing .parse "" := by
  unfold step
  rw [asked]
  rfl

theorem storing_step {metadata : Metadata} {time : Nat}
    (storing : analysis.stage = .storing metadata time) (storesIn : analysis.StoresIn setup) :
    (analysis.step setup task cache (.done (.ok ()))).2 = analysis.finding (.resolved metadata) := by
  obtain ⟨store, present⟩ := Option.isSome_iff_exists.mp (storesIn metadata time storing)
  unfold step
  rw [storing, present]
  rfl

end Analysis

namespace Session

/-- Nothing but analyses on their way differs: no call went on, and no slot changed. -/
structure Alike (old new : Session) : Prop where
  calls : ∀ id, new.get? id = old.get? id
  slots : ∀ path, new.cache.slot path = old.cache.slot path

theorem Alike.trans {first middle last : Session} (left : first.Alike middle)
    (right : middle.Alike last) : first.Alike last :=
  ⟨fun id => (right.calls id).trans (left.calls id),
    fun path => (right.slots path).trans (left.slots path)⟩

/-- A move is a step of a call that waits for a task. -/
def Drives (id : Nat) (session : Session) (move : Move) : Prop :=
  ∃ reply get source task joined,
    move = .step id reply ∧ session.get? id = some get ∧ get.stage = .waiting source task joined

private theorem calls_kept {session : Session} {id : Nat} {get : Get} {cache : Cache}
    (known : session.get? id = some get) (other : Nat) :
    (session.stepped id (cache, get)).get? other = session.get? other := by
  rw [get?_stepped session known]
  split
  · next same => rw [same, known]
  · rfl

section

variable (setup : Setup) {session : Session} {id : Nat} {get : Get} {source : String} {task : Nat}
  {joined : Bool} {analysis : Analysis}

/-- A task without a result goes on, and nothing else. -/
theorem goes_on (known : session.get? id = some get)
    (waiting : get.stage = .waiting source task joined)
    (present : session.cache.tasks.get? task = some analysis) (going : analysis.result? = none)
    (reply : Reply) :
    session.Alike (session.move setup (.step id reply)) ∧
      (session.move setup (.step id reply)).cache.tasks.get? task =
        some (analysis.step setup task session.cache reply).2 := by
  obtain ⟨analyses, notices, stage, eq, -⟩ :=
    analysis.step_working setup session.cache task reply going
  rw [move_step setup reply known, Get.step_going setup reply waiting present going, eq]
  exact ⟨⟨calls_kept known, fun _ => rfl⟩, (Table.get?_set ..).trans (if_pos rfl)⟩

/-- A task without a result can be taken to one, with no slot changed. -/
private theorem drive_found (known : session.get? id = some get)
    (waiting : get.stage = .waiting source task joined)
    (present : session.cache.tasks.get? task = some analysis) (going : analysis.result? = none)
    (storesIn : analysis.StoresIn setup) :
    ∃ moves outcome, Follows (move setup) (Drives id) session moves ∧
      session.Alike (session.run setup moves) ∧
      (session.run setup moves).cache.tasks.get? task = some (analysis.finding outcome) := by
  have once : ∀ {reply outcome},
      (analysis.step setup task session.cache reply).2 = analysis.finding outcome →
      ∃ moves outcome, Follows (move setup) (Drives id) session moves ∧
        session.Alike (session.run setup moves) ∧
        (session.run setup moves).cache.tasks.get? task = some (analysis.finding outcome) := by
    intro reply outcome found
    obtain ⟨alike, next⟩ := goes_on setup known waiting present going reply
    exact ⟨[.step id reply], outcome, ⟨⟨_, _, _, _, _, rfl, known, waiting⟩, trivial⟩, alike,
      next.trans (congrArg some found)⟩
  cases stage : analysis.stage with
  | created =>
    rcases analysis.created_step setup task session.cache stage
        (.error .missing) with ⟨outcome, found⟩ | ⟨request, asked⟩
    · exact once found
    · obtain ⟨alike, next⟩ := goes_on setup known waiting present going
        (.bytes (.error .missing))
      rw [asked] at next
      obtain ⟨alike', next'⟩ := goes_on setup ((alike.calls id).trans known) waiting next
        rfl (.answered (.failed (.parse "")) 0)
      refine ⟨[.step id (.bytes (.error .missing)), .step id (.answered (.failed (.parse "")) 0)],
        .failed ⟨.parse, ""⟩, ⟨⟨_, _, _, _, _, rfl, known, waiting⟩,
          ⟨_, _, _, _, _, rfl, (alike.calls id).trans known, waiting⟩, trivial⟩,
        alike.trans alike', next'.trans ?_⟩
      exact congrArg some (Analysis.asked_step _ setup task _ rfl)
  | asked request => exact once (analysis.asked_step setup task session.cache stage)
  | storing metadata time =>
    exact once (analysis.storing_step setup task session.cache stage storesIn)
  | _ => simp [Analysis.result?, stage] at going

/-- What is there once a task has been driven to its end. -/
structure Driven (old new : Session) (task : Nat) (analysis : Analysis)
    (result : Except String Entry) : Prop where
  calls : ∀ id, new.get? id = old.get? id
  ended : ∃ later, new.cache.tasks.get? task = some later ∧ analysis.Extends later ∧
    later.stage = .recorded result
  available : ¬ analysis.Unavailable → ∃ entry, result = .ok entry
  slot : ∀ path flight, (old.cache.slot path).inFlight? = some flight → flight.task = task →
    (new.cache.slot path).inFlight? = none ∧
      ∀ entry, result = .ok entry → (new.cache.slot path).last? = some entry

private theorem record_slot (sound : session.Sound)
    (present : session.cache.tasks.get? task = some analysis) {result : Except String Entry}
    {path : Path} {flight : InFlight}
    (flying : (session.cache.slot path).inFlight? = some flight) (number : flight.task = task) :
    ((session.cache.recorded task analysis result).slot path).inFlight? = none ∧
      ∀ entry, result = .ok entry →
        ((session.cache.recorded task analysis result).slot path).last? = some entry := by
  obtain ⟨flown, there, parts, -, -⟩ := (sound.cache.slot path).flight flight flying
  rw [number, present] at there
  cases there
  cases known : session.cache.slot? path with
  | none => simp [Cache.slot, known] at flying
  | some slot =>
    rw [slot_eq _ known] at flying
    rcases slot?_recorded session.cache task analysis result path with
      ⟨_, idle⟩ | ⟨_, _, _, _, _, _, ⟨entry, rfl, after⟩ | ⟨reason, rfl, after⟩⟩
    · exact absurd ⟨slot, flight, known, flying, number⟩ (idle parts)
    · rw [slot_eq _ after]
      exact ⟨rfl, fun other same => by cases same; rfl⟩
    · rw [slot_eq _ after]
      exact ⟨rfl, by simp⟩

/-- With one step a result is recorded. -/
private theorem drive_record (sound : session.Sound) (known : session.get? id = some get)
    (waiting : get.stage = .waiting source task joined)
    (present : session.cache.tasks.get? task = some analysis) {result : Except String Entry}
    (found : analysis.stage = .found result) :
    Driven session (session.move setup (.step id .nothing)) task analysis result := by
  rw [move_step setup _ known, Get.step_record setup _ waiting present found]
  refine ⟨calls_kept known, ⟨{ analysis with stage := .recorded result },
    (tasks_recorded ..).trans (if_pos rfl), .of_found found, rfl⟩, ?_, ?_⟩
  · intro available
    cases result with
    | ok entry => exact ⟨entry, rfl⟩
    | error reason => exact absurd ⟨reason, Analysis.result?_of_found found⟩ available
  · intro path flight flying number
    exact record_slot sound present flying number

variable {setup} in
/-- Whoever waits for a task can take it to its end. -/
theorem drive (reached : session.Reached setup) (known : session.get? id = some get)
    (waiting : get.stage = .waiting source task joined)
    (present : session.cache.tasks.get? task = some analysis) :
    ∃ moves result, Follows (move setup) (Drives id) session moves ∧
      Driven session (session.run setup moves) task analysis result := by
  cases stage : analysis.stage with
  | recorded result =>
    refine ⟨[], result, trivial, fun _ => rfl, ⟨analysis, present, .refl _, stage⟩, ?_, ?_⟩
    · intro available
      cases result with
      | ok entry => exact ⟨entry, rfl⟩
      | error reason => exact absurd ⟨reason, Analysis.result?_of_recorded stage⟩ available
    · intro path flight flying number
      obtain ⟨flown, there, -, -, opened⟩ := (reached.sound.cache.slot path).flight flight flying
      rw [number, present] at there
      cases there
      exact absurd stage (opened result)
  | found result =>
    exact ⟨[.step id .nothing], result, ⟨⟨_, _, _, _, _, rfl, known, waiting⟩, trivial⟩,
      drive_record setup reached.sound known waiting present stage⟩
  | _ =>
    have going : analysis.result? = none := by simp only [Analysis.result?, stage]
    have storesIn : analysis.StoresIn setup :=
      reached.each_analysis (P := (·.StoresIn setup)) (by rintro _ _ _ _ ⟨⟩)
        (fun analysis task cache reply => analysis.step_storesIn setup task cache reply) _ _ present
    obtain ⟨moves, outcome, follows, alike, found⟩ :=
      drive_found setup known waiting present going storesIn
    have known' := (alike.calls id).trans known
    have ended := drive_record setup (reached.run moves).sound known' waiting found rfl
    refine ⟨moves ++ [.step id .nothing], .ok (analysis.entry outcome),
      follows.append ⟨⟨_, _, _, _, _, rfl, known', waiting⟩, trivial⟩, ?_⟩
    rw [run_append, run_cons, run_nil]
    obtain ⟨later, there, grows, recorded⟩ := ended.ended
    refine ⟨fun other => (ended.calls other).trans (alike.calls other),
      ⟨later, there, (Analysis.Extends.of_going going _).trans grows, recorded⟩,
      fun _ => ⟨_, rfl⟩, fun path flight flying number => ?_⟩
    exact ended.slot path flight ((alike.slots path).symm ▸ flying) number

end

end Session

end Cache

end ComponentCatalog
