import ComponentCatalog.Proofs.Cache.Slots

/-! # What one step of an analysis, and of getting an entry, can do

An analysis keeps its component, its source and its fingerprint. Until it has found a result it only
tells and counts; then one step records the result. `Get.Transition` lists what a step of getting an
entry can do to the cache, with the guard of each case; every proof about runs is by its cases.
-/

namespace ComponentCatalog

open Component

namespace Cache

namespace Analysis

variable (analysis : Analysis) (setup : Setup) (cache : Cache)

/-- The result that an analysis found, be it recorded or not. -/
def result? : Option (Except String Entry) :=
  match analysis.stage with
  | .found result | .recorded result => some result
  | _ => none

variable {analysis} in
theorem result?_of_found {result : Except String Entry} (found : analysis.stage = .found result) :
    analysis.result? = some result := by
  simp only [result?, found]

variable {analysis} in
theorem result?_of_recorded {result : Except String Entry}
    (recorded : analysis.stage = .recorded result) : analysis.result? = some result := by
  simp only [result?, recorded]

/-- Did an analysis end for want of an analyzer? -/
def Unavailable : Prop := ∃ reason, analysis.result? = some (.error reason)

/-- What a step before the result leaves: the slots, and all of the analysis but its stage. An entry
that is found is one of the analysis. -/
def Working (next : Cache × Analysis) : Prop :=
  ∃ analyses notices stage,
    next = ({ cache with analyses, notices }, { analysis with stage }) ∧
      (∀ result, stage ≠ .recorded result) ∧
      ∀ entry, stage = .found (.ok entry) → ∃ outcome, entry = analysis.entry outcome

private theorem working_finding (notices : List Notice) (outcome : Outcome) :
    Working analysis cache ({ cache with notices }, analysis.finding outcome) := by
  refine ⟨cache.analyses, notices, _, rfl, by simp, ?_⟩
  intro entry found
  exact ⟨outcome, by simpa [eq_comm] using found⟩

private theorem working_begin : Working analysis cache (analysis.begin setup cache) := by
  unfold begin
  split
  · exact working_finding ..
  · exact ⟨cache.analyses + 1, cache.notices, _, rfl, by simp, by simp⟩

private theorem working_answer (time : Nat) (answer : Analyzer.Answer) :
    Working analysis cache (analysis.answer setup cache time answer) := by
  cases answer with
  | described raw =>
    simp only [Analysis.answer, describe]
    split
    · split
      · exact ⟨cache.analyses, cache.notices, _, rfl, by simp, by simp⟩
      · exact working_finding ..
    · exact working_finding ..
  | failed fault =>
    cases fault with
    | unavailable reason => exact ⟨cache.analyses, cache.notices, _, rfl, by simp, by simp⟩
    | timeout micros => exact working_finding ..
    | parse reason => exact working_finding ..
  | late => exact working_finding ..
  | panicked reason => exact working_finding ..

private theorem working_stored (store : Store) (metadata : Metadata)
    (result : Except Files.Fault Unit) :
    Working analysis cache (analysis.stored store metadata cache result) := by
  cases result with
  | ok => exact working_finding ..
  | error cause => exact working_finding ..

private theorem working_stay (going : ∀ result, analysis.stage ≠ .recorded result)
    (entryless : ∀ entry, analysis.stage ≠ .found (.ok entry)) :
    Working analysis cache (cache, analysis) :=
  ⟨cache.analyses, cache.notices, analysis.stage, rfl, going,
    fun entry found => absurd found (entryless entry)⟩

/-- Until an analysis has found a result its steps leave the slots as they are. -/
theorem step_working (task : Nat) (reply : Reply) (going : analysis.result? = none) :
    Working analysis cache (analysis.step setup task cache reply) := by
  have stay : Working analysis cache (cache, analysis) :=
    working_stay analysis cache (fun result recorded => by simp [result?, recorded] at going)
      (fun entry found => by simp [result?, found] at going)
  unfold step
  split
  · exact working_begin ..
  · split
    · exact working_finding ..
    · exact working_begin ..
  · exact working_begin ..
  · exact working_answer ..
  · exact working_stored ..
  · next found => simp [result?, found] at going
  · exact stay

/-- The step that records a result. -/
theorem step_found {task : Nat} {reply : Reply} {result : Except String Entry}
    (found : analysis.stage = .found result) :
    analysis.step setup task cache reply =
      (cache.finish analysis.identity.path task result.toOption,
        { analysis with stage := .recorded result }) := by
  unfold step
  rw [found]

section

variable {analysis} {task : Nat}

/-- Without a store the analyzer is asked at once. -/
theorem step_created (created : analysis.stage = .created) (store : setup.store? = none)
    (reply : Reply) : analysis.step setup task cache reply = analysis.begin setup cache := by
  unfold step
  rw [created, store]

/-- What a file of the store holds is taken if it is of the source. -/
theorem step_created_bytes (created : analysis.stage = .created) (stores : setup.store?.isSome)
    (result : Except Files.Fault ByteArray) :
    analysis.step setup task cache (.bytes result) =
      match result.toOption.bind (Store.Entry.metadataFor? analysis.fingerprint) with
      | some metadata => (cache, analysis.finding (.resolved metadata))
      | none => analysis.begin setup cache := by
  obtain ⟨store, some⟩ := Option.isSome_iff_exists.mp stores
  unfold step
  rw [created, some]
  cases result <;> rfl

theorem step_asked {request : Analyzer.Request} (asked : analysis.stage = .asked request)
    (answer : Analyzer.Answer) (time : Nat) :
    analysis.step setup task cache (.answered answer time) =
      analysis.answer setup cache time answer := by
  unfold step
  rw [asked]

/-- Metadata that are being stored are found, unless the reply is none to that. -/
theorem step_storing {metadata : Metadata} {time : Nat}
    (storing : analysis.stage = .storing metadata time) (reply : Reply) :
    (analysis.step setup task cache reply).2 = analysis.finding (.resolved metadata) ∨
      (analysis.step setup task cache reply).2 = analysis := by
  unfold step
  rw [storing]
  cases setup.store? with
  | none => exact .inr rfl
  | some store =>
    cases reply with
    | done result => cases result <;> exact .inl rfl
    | _ => exact .inr rfl

end

end Analysis

/-! ## Recording -/

/-- The cache after a task recorded what it found. -/
def recorded (cache : Cache) (task : Nat) (analysis : Analysis) (result : Except String Entry) :
    Cache :=
  { cache.finish analysis.identity.path task result.toOption with
    tasks := cache.tasks.set task { analysis with stage := .recorded result } }

theorem tasks_recorded (cache : Cache) (task other : Nat) (analysis : Analysis)
    (result : Except String Entry) :
    (cache.recorded task analysis result).tasks.get? other =
      if task = other then some { analysis with stage := .recorded result }
      else cache.tasks.get? other :=
  Table.get?_set cache.tasks task other _

/-- A task that records its result leaves each slot as it is, but for the one that waits for it:
there nothing is on its way any more, and an entry is the last one. -/
theorem slot?_recorded (cache : Cache) (task : Nat) (analysis : Analysis)
    (result : Except String Entry) (path : Path) :
    ((cache.recorded task analysis result).slot? path = cache.slot? path ∧
      (analysis.identity.path.parts = path.parts → ¬ cache.Awaits path task)) ∨
    (analysis.identity.path.parts = path.parts ∧
      ∃ before flight, cache.slot? path = some before ∧ before.inFlight? = some flight ∧
        flight.task = task ∧
        ((∃ entry, result = .ok entry ∧
          (cache.recorded task analysis result).slot? path = some (Slot.recorded flight entry)) ∨
        (∃ reason, result = .error reason ∧
          (cache.recorded task analysis result).slot? path = some before.landed))) := by
  have there : (cache.recorded task analysis result).slot? path =
      (cache.finish analysis.identity.path task result.toOption).slot? path := rfl
  by_cases same : analysis.identity.path.parts = path.parts
  · have awaits : cache.Awaits path task = cache.Awaits analysis.identity.path task := by
      simp only [Awaits, slot?_congr cache same]
    rcases finish_cases cache analysis.identity.path task result.toOption with
      ⟨idle, eq⟩ | ⟨before, flight, known, flying, number, ⟨entry, ok, eq⟩ | ⟨error, eq⟩⟩
    · rw [eq] at there
      exact .inl ⟨there, fun _ => awaits ▸ idle⟩
    · rw [eq] at there
      refine .inr ⟨same, before, flight, slot?_congr cache same ▸ known, flying, number, .inl ?_⟩
      refine ⟨entry, ?_, there.trans ((slot?_setSlot cache _ path _).trans (if_pos same))⟩
      cases result with
      | ok found => cases ok; rfl
      | error reason => cases ok
    · rw [eq, slot?_setSlot, if_pos same] at there
      refine .inr ⟨same, before, flight, slot?_congr cache same ▸ known, flying, number, .inr ?_⟩
      cases result with
      | ok found => cases error
      | error reason => exact ⟨reason, rfl, there⟩
  · rw [slot?_finish_of_ne cache same] at there
    exact .inl ⟨there, fun same' => absurd same' same⟩

/-! ## Getting an entry -/

namespace Get

/-- What a step of getting an entry can do. -/
inductive Transition (setup : Setup) (cache : Cache) (get : Get) (reply : Reply) :
    Cache → Get.Stage → Prop
  /-- Nothing: the entry is there, or the reply is none to what was needed. -/
  | rest : Transition setup cache get reply cache get.stage
  | read {source : String} (reading : get.stage = .reading) (text : reply = .text (.ok source)) :
      Transition setup cache get reply cache (.looking source)
  | unreadable {fault : Files.Fault} (reading : get.stage = .reading)
      (text : reply = .text (.error fault)) :
      Transition setup cache get reply (cache.recordUnreadable get.identity fault)
        (.done (.ok (unreadableEntry get.identity fault)))
  | hit {source : String} {entry : Entry} (looking : get.stage = .looking source)
      (idle : (cache.slot get.identity.path).inFlight? = none)
      (hit : (cache.slot get.identity.path).hit? get.identity (get.fingerprint source) = some entry) :
      Transition setup cache get reply cache (.done (.ok entry))
  | start {source : String} (looking : get.stage = .looking source)
      (idle : (cache.slot get.identity.path).inFlight? = none)
      (miss : (cache.slot get.identity.path).hit? get.identity (get.fingerprint source) = none) :
      Transition setup cache get reply
        (cache.launched get.identity (get.fingerprint source) source)
        (.waiting source cache.nextTask false)
  | join {source : String} {flight : InFlight} (looking : get.stage = .looking source)
      (flying : (cache.slot get.identity.path).inFlight? = some flight) :
      Transition setup cache get reply cache (.waiting source flight.task true)
  /-- The task has a result, which is taken unless it is for another source. -/
  | take {source : String} {task : Nat} {joined : Bool} {analysis : Analysis}
      {result : Except String Entry} (waiting : get.stage = .waiting source task joined)
      (present : cache.tasks.get? task = some analysis)
      (recorded : analysis.stage = .recorded result) :
      Transition setup cache get reply cache (get.afterTask source joined result).stage
  /-- The task goes on. -/
  | work {source : String} {task : Nat} {joined : Bool} {analysis : Analysis} {analyses : Nat}
      {notices : List Notice} {stage : Cache.Stage} (waiting : get.stage = .waiting source task joined)
      (present : cache.tasks.get? task = some analysis) (going : analysis.result? = none)
      (opened : ∀ result, stage ≠ .recorded result)
      (found : ∀ entry, stage = .found (.ok entry) → ∃ outcome, entry = analysis.entry outcome)
      (step : analysis.step setup task cache reply =
        ({ cache with analyses, notices }, { analysis with stage })) :
      Transition setup cache get reply
        { cache with analyses, notices, tasks := cache.tasks.set task { analysis with stage } }
        get.stage
  /-- The task records its result. -/
  | record {source : String} {task : Nat} {joined : Bool} {analysis : Analysis}
      {result : Except String Entry} (waiting : get.stage = .waiting source task joined)
      (present : cache.tasks.get? task = some analysis) (found : analysis.stage = .found result) :
      Transition setup cache get reply
        (cache.recorded task analysis result) get.stage

variable (get : Get) (setup : Setup) (cache : Cache) (reply : Reply)

/-- What becomes of waiting concerns the stage alone. -/
@[simp] theorem identity_afterTask (source : String) (joined : Bool)
    (result : Except String Entry) :
    (get.afterTask source joined result).identity = get.identity := by
  unfold afterTask
  split
  · rfl
  · split <;> rfl

/-- A call that waited has its result, unless it had joined an analysis of another source. -/
theorem afterTask_cases (source : String) (joined : Bool) (result : Except String Entry) :
    ((get.afterTask source joined result).stage = .done result ∧
      (joined = true → ∀ entry, result = .ok entry →
        entry.fingerprint? = some (get.fingerprint source))) ∨
    (joined = true ∧ (get.afterTask source joined result).stage = .looking source ∧
      ∃ entry, result = .ok entry ∧ entry.fingerprint? ≠ some (get.fingerprint source)) := by
  cases result with
  | error reason => exact .inl ⟨rfl, by simp⟩
  | ok entry =>
    cases joined with
    | false => exact .inl ⟨rfl, by simp⟩
    | true =>
      by_cases same : entry.fingerprint? = some (get.fingerprint source)
      · refine .inl ⟨by simp [afterTask, same], fun _ found ok => ?_⟩
        cases ok
        exact same
      · exact .inr ⟨rfl, by simp [afterTask, same], entry, rfl, same⟩

/-- The component that an entry is got for stays the same. -/
@[simp] theorem identity_step : (get.step setup cache reply).2.identity = get.identity := by
  unfold step
  split
  · split <;> rfl
  · split <;> rfl
  · split
    · exact identity_afterTask ..
    · rfl
  · rfl

/-- A step changes the stage alone. -/
theorem step_snd : (get.step setup cache reply).2 =
    { get with stage := (get.step setup cache reply).2.stage } := by
  have same := get.identity_step setup cache reply
  generalize (get.step setup cache reply).2 = next at same
  obtain ⟨identity, stage⟩ := next
  cases same
  rfl

/-! A call that looks up joins what is on its way, hits or starts. -/

section Looking

variable {get cache} {source : String}

theorem step_join (looking : get.stage = .looking source) {flight : InFlight}
    (flying : (cache.slot get.identity.path).inFlight? = some flight) :
    get.step setup cache reply =
      (cache, { get with stage := .waiting source flight.task true }) := by
  simp only [step, looking, lookup, flying]

theorem step_hit (looking : get.stage = .looking source)
    (idle : (cache.slot get.identity.path).inFlight? = none) {entry : Entry}
    (hit : (cache.slot get.identity.path).hit? get.identity (get.fingerprint source) = some entry) :
    get.step setup cache reply = (cache, { get with stage := .done (.ok entry) }) := by
  simp only [step, looking, lookup, idle, hit]

theorem step_start (looking : get.stage = .looking source)
    (idle : (cache.slot get.identity.path).inFlight? = none)
    (miss : (cache.slot get.identity.path).hit? get.identity (get.fingerprint source) = none) :
    get.step setup cache reply =
      (cache.launched get.identity (get.fingerprint source) source,
        { get with stage := .waiting source cache.nextTask false }) := by
  simp only [step, looking, lookup, idle, miss]
  rfl

end Looking

private theorem transition_looking {source : String} (looking : get.stage = .looking source) :
    Transition setup cache get reply (get.step setup cache reply).1
      (get.step setup cache reply).2.stage := by
  cases flying : (cache.slot get.identity.path).inFlight? with
  | some flight =>
    rw [step_join setup reply looking flying]
    exact .join looking flying
  | none =>
    cases hit : (cache.slot get.identity.path).hit? get.identity (get.fingerprint source) with
    | some entry =>
      rw [step_hit setup reply looking flying hit]
      exact .hit looking flying hit
    | none =>
      rw [step_start setup reply looking flying hit]
      exact .start looking flying hit

/-! A call that waits takes its task on, has it record its result, or takes the result. -/

section Waiting

variable {get cache} {source : String} {task : Nat} {joined : Bool} {analysis : Analysis}

theorem step_going (waiting : get.stage = .waiting source task joined)
    (present : cache.tasks.get? task = some analysis) (going : analysis.result? = none) :
    get.step setup cache reply =
      ({ (analysis.step setup task cache reply).1 with
        tasks := cache.tasks.set task (analysis.step setup task cache reply).2 }, get) := by
  obtain ⟨analyses, notices, stage, eq, -⟩ := analysis.step_working setup cache task reply going
  simp only [step, waiting, present, Option.map_some, advance, eq]
  split
  · next recorded =>
    rw [Option.some.injEq] at recorded
    simp [Analysis.result?, recorded] at going
  · rfl

theorem step_record (waiting : get.stage = .waiting source task joined)
    (present : cache.tasks.get? task = some analysis) {result : Except String Entry}
    (found : analysis.stage = .found result) :
    get.step setup cache reply = (cache.recorded task analysis result, get) := by
  simp only [step, waiting, present, Option.map_some, found, advance,
    analysis.step_found setup cache found, tasks_finish, recorded]

theorem step_take (waiting : get.stage = .waiting source task joined)
    (present : cache.tasks.get? task = some analysis) {result : Except String Entry}
    (recorded : analysis.stage = .recorded result) :
    get.step setup cache reply = (cache, get.afterTask source joined result) := by
  simp only [step, waiting, present, Option.map_some, recorded]

end Waiting

private theorem transition_waiting {source : String} {task : Nat} {joined : Bool}
    (waiting : get.stage = .waiting source task joined) :
    Transition setup cache get reply (get.step setup cache reply).1
      (get.step setup cache reply).2.stage := by
  cases present : cache.tasks.get? task with
  | none =>
    have rest : get.step setup cache reply = (cache, get) := by
      simp only [step, waiting, present, Option.map_none, advance]
    rw [rest]
    exact .rest
  | some analysis =>
    cases found : analysis.stage with
    | recorded result =>
      rw [step_take setup reply waiting present found]
      exact .take waiting present found
    | found result =>
      rw [step_record setup reply waiting present found]
      exact .record waiting present found
    | _ =>
      have going : analysis.result? = none := by simp only [Analysis.result?, found]
      obtain ⟨analyses, notices, stage, eq, opened, entered⟩ :=
        analysis.step_working setup cache task reply going
      rw [step_going setup reply waiting present going, eq]
      exact .work waiting present going opened entered eq

/-- A step does what `Transition` says. -/
theorem step_transition :
    Transition setup cache get reply (get.step setup cache reply).1
      (get.step setup cache reply).2.stage := by
  cases stage : get.stage with
  | reading =>
    simp only [step, stage]
    split
    · exact .read stage rfl
    · exact .unreadable stage rfl
    · exact .rest
  | looking source => exact transition_looking get setup cache reply stage
  | waiting source task joined => exact transition_waiting get setup cache reply stage
  | done result =>
    have rest : get.step setup cache reply = (cache, get) := by simp only [step, stage]
    rw [rest]
    exact .rest

/-- What a step can do to the slot of a path. -/
inductive SlotChange (cache cache' : Cache) (get : Get) (reply : Reply) (stage : Get.Stage)
    (path : Path) : Prop
  | kept (same : cache'.slot path = cache.slot path)
  | unreadable {fault : Files.Fault} (parts : get.identity.path.parts = path.parts)
      (reading : get.stage = .reading) (text : reply = .text (.error fault))
      (idle : (cache.slot path).inFlight? = none)
      (now : cache'.slot path = .unreadable (unreadableEntry get.identity fault))
  | started {source : String} (parts : get.identity.path.parts = path.parts)
      (looking : get.stage = .looking source) (idle : (cache.slot path).inFlight? = none)
      (miss : (cache.slot path).hit? get.identity (get.fingerprint source) = none)
      (now : cache'.slot path = { cache.slot path with
        inFlight? := some ⟨cache.nextTask, get.fingerprint source, false⟩ })
      (waits : stage = .waiting source cache.nextTask false)
  | recorded {flight : InFlight} {analysis : Analysis} {entry : Entry}
      (flying : (cache.slot path).inFlight? = some flight)
      (present : cache.tasks.get? flight.task = some analysis)
      (found : analysis.stage = .found (.ok entry))
      (now : cache'.slot path = Slot.recorded flight entry)
      (after : cache'.tasks.get? flight.task =
        some { analysis with stage := .recorded (.ok entry) })
  | landed {flight : InFlight} {analysis : Analysis} {reason : String}
      (flying : (cache.slot path).inFlight? = some flight)
      (present : cache.tasks.get? flight.task = some analysis)
      (found : analysis.stage = .found (.error reason))
      (now : cache'.slot path = (cache.slot path).landed)
      (after : cache'.tasks.get? flight.task =
        some { analysis with stage := .recorded (.error reason) })

private theorem slot_eq_of_slot? {cache cache' : Cache} {path : Path}
    (same : cache'.slot? path = cache.slot? path) : cache'.slot path = cache.slot path := by
  simp only [Cache.slot, same]

/-- A step changes a slot in one of these ways. -/
theorem Transition.slotChange {setup : Setup} {cache cache' : Cache} {get : Get} {reply : Reply}
    {stage : Stage} (step : Transition setup cache get reply cache' stage) (path : Path) :
    SlotChange cache cache' get reply stage path := by
  cases step with
  | @unreadable fault reading text =>
    have there := slot?_recordUnreadable cache path get.identity fault
    by_cases here : get.identity.path.parts = path.parts ∧
        (cache.slot get.identity.path).inFlight? = none
    · rw [if_pos here] at there
      exact .unreadable here.1 reading text (slot_congr cache here.1 ▸ here.2) (slot_eq _ there)
    · rw [if_neg here] at there
      exact .kept (slot_eq_of_slot? there)
  | @start source looking idle miss =>
    have there := slot?_launched cache path get.identity (get.fingerprint source) source
    by_cases here : get.identity.path.parts = path.parts
    · rw [if_pos here] at there
      rw [slot_congr cache here] at idle miss there
      exact .started here looking idle miss (slot_eq _ there) rfl
    · rw [if_neg here] at there
      exact .kept (slot_eq_of_slot? there)
  | @record source task joined analysis result waiting present found =>
    rcases slot?_recorded cache task analysis result path with
      ⟨same, _⟩ | ⟨_, before, flight, known, flying, rfl, ⟨entry, rfl, there⟩ | ⟨reason, rfl, there⟩⟩
    · exact .kept (slot_eq_of_slot? same)
    · exact .recorded ((slot_eq cache known).symm ▸ flying) present found (slot_eq _ there)
        ((tasks_recorded ..).trans (if_pos rfl))
    · rw [← slot_eq cache known] at flying
      exact .landed flying present found (by rw [slot_eq _ there, slot_eq _ known])
        ((tasks_recorded ..).trans (if_pos rfl))
  | _ => exact .kept rfl

end Get

end Cache

end ComponentCatalog
