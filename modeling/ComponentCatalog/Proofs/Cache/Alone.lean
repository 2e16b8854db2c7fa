import ComponentCatalog.Proofs.Cache.Sound

/-! # Calls of different paths do not meet

A call that is alone on its path finds its slot idle until it starts an analysis, and then waits for no
other one. So its steps touch the slot and the analyses of its path alone: what calls of other paths
rely on stays as it is, in whatever order the steps are taken.
-/

namespace ComponentCatalog

open Component

namespace Cache

/-- A slot after the analysis that was on its way there recorded its result. -/
def Slot.settled (slot : Slot) (flight : InFlight) : Except String Entry → Slot
  | .ok entry => .recorded flight entry
  | .error _ => slot.landed

/-- The slot that waits for a task has its result, and an entry counts for the revision. -/
theorem recorded_of_flight {cache : Cache} {task : Nat} (analysis : Analysis) {flight : InFlight}
    (flying : (cache.slot analysis.identity.path).inFlight? = some flight)
    (number : flight.task = task) (result : Except String Entry) :
    (cache.recorded task analysis result).slot analysis.identity.path =
        (cache.slot analysis.identity.path).settled flight result ∧
      (cache.recorded task analysis result).revision =
        cache.revision + if result.isOk then 1 else 0 := by
  have slots : (cache.recorded task analysis result).slot analysis.identity.path =
      (cache.finish analysis.identity.path task result.toOption).slot analysis.identity.path := rfl
  have revision : (cache.recorded task analysis result).revision =
      (cache.finish analysis.identity.path task result.toOption).revision := rfl
  have placed : ∀ slot, (cache.setSlot analysis.identity.path slot).slot analysis.identity.path = slot :=
    fun slot => slot_eq _ ((slot?_setSlot ..).trans (if_pos rfl))
  have awaits : cache.Awaits analysis.identity.path task := by
    cases present : cache.slot? analysis.identity.path with
    | none => simp [Cache.slot, present] at flying
    | some slot => exact ⟨slot, flight, present, slot_eq cache present ▸ flying, number⟩
  rw [slots, revision]
  rcases finish_cases cache analysis.identity.path task result.toOption with
    ⟨idle, -⟩ | ⟨slot, other, present, flying', -, ⟨entry, some, eq⟩ | ⟨none, eq⟩⟩
  · exact absurd awaits idle
  · obtain rfl : flight = other :=
      Option.some.inj (flying.symm.trans (slot_eq cache present ▸ flying'))
    cases result with
    | ok found =>
      cases some
      rw [eq]
      exact ⟨placed _, rfl⟩
    | error reason => cases some
  · cases result with
    | ok found => cases none
    | error reason =>
      rw [eq, slot_eq cache present]
      exact ⟨placed _, rfl⟩

namespace Get

/-- What a call that is alone on its path has on its way there. -/
def flight? (cache : Cache) (get : Get) : Option InFlight :=
  match get.stage with
  | .waiting source task _ =>
    match (cache.tasks.get? task).map Analysis.stage with
    | some (.recorded _) | none => none
    | _ => some ⟨task, get.fingerprint source, false⟩
  | _ => none

/-- A call is alone on its path: nothing is on its way there but the analysis that it started. -/
structure Alone (cache : Cache) (get : Get) : Prop where
  flight : (cache.slot get.identity.path).inFlight? = get.flight? cache
  own : ∀ source task joined, get.stage = .waiting source task joined → joined = false ∧
    ∃ stage, cache.tasks.get? task = some ⟨get.identity, source, get.fingerprint source, stage⟩

variable {setup : Setup} {cache cache' : Cache} {get other : Get} {reply : Reply} {stage : Stage}

theorem flight?_of_open {source : String} {task : Nat} {joined : Bool} {analysis : Analysis}
    (waiting : get.stage = .waiting source task joined)
    (present : cache.tasks.get? task = some analysis) (opened : analysis.Open) :
    get.flight? cache = some ⟨task, get.fingerprint source, false⟩ := by
  simp only [flight?, waiting, present, Option.map_some]
  split
  · next recorded => exact absurd (Option.some.inj recorded) (opened _)
  · next none => cases none
  · rfl

theorem flight?_of_recorded {source : String} {task : Nat} {joined : Bool} {analysis : Analysis}
    {result : Except String Entry} (waiting : get.stage = .waiting source task joined)
    (present : cache.tasks.get? task = some analysis)
    (recorded : analysis.stage = .recorded result) : get.flight? cache = none := by
  simp only [flight?, waiting, present, Option.map_some, recorded]

/-- A call that begins on an idle path is alone there. -/
theorem Alone.begin {identity : Identity} (idle : (cache.slot identity.path).inFlight? = none) :
    Get.Alone cache { identity } :=
  ⟨idle, by rintro _ _ _ ⟨⟩⟩

/-- A step of a call that is alone leaves the slots and the analyses of other paths. -/
theorem Transition.frame (step : Transition setup cache get reply cache' stage) (sound : cache.Sound)
    (alone : get.Alone cache) {path : Path} (apart : get.identity.path.parts ≠ path.parts) :
    cache'.slot path = cache.slot path ∧
    ∀ task analysis, cache.tasks.get? task = some analysis →
      analysis.identity.path.parts = path.parts → cache'.tasks.get? task = some analysis := by
  have mine : ∀ {source : String} {task : Nat} {joined : Bool} {analysis : Analysis},
      get.stage = .waiting source task joined → cache.tasks.get? task = some analysis →
        analysis.identity = get.identity := by
    intro source task joined analysis waiting present
    obtain ⟨-, stage, there⟩ := alone.own source task joined waiting
    cases present.symm.trans there
    rfl
  cases step with
  | unreadable _ _ =>
    refine ⟨?_, fun _ _ present _ => by simpa using present⟩
    simp only [Cache.slot, slot?_recordUnreadable, apart, false_and, ↓reduceIte]
  | start _ _ _ =>
    refine ⟨?_, fun task analysis present _ => ?_⟩
    · simp only [Cache.slot, slot?_launched, apart, ↓reduceIte]
    · have older := sound.numbered present
      rw [tasks_launched, if_neg (by omega)]
      exact present
  | work waiting present _ _ _ _ =>
    refine ⟨rfl, fun task analysis there parts => ?_⟩
    rw [Table.get?_set, if_neg]
    · exact there
    · rintro rfl
      cases present.symm.trans there
      exact apart (mine waiting present ▸ parts)
  | @record _ task _ analysis result waiting present _ =>
    have here := mine waiting present
    refine ⟨?_, fun place later there parts => ?_⟩
    · rcases slot?_recorded cache task analysis result path with ⟨same, -⟩ | ⟨parts, -⟩
      · simp only [Cache.slot, same]
      · exact absurd (here ▸ parts) apart
    · rw [tasks_recorded, if_neg]
      · exact there
      · rintro rfl
        cases present.symm.trans there
        exact apart (here ▸ parts)
  | _ => exact ⟨rfl, fun _ _ present _ => present⟩

/-- A call that is alone stays alone with each of its steps. -/
theorem Transition.alone_self (step : Transition setup cache get reply cache' stage)
    (alone : get.Alone cache) : Get.Alone cache' { get with stage } := by
  have flight := alone.flight
  cases step with
  | rest => exact alone
  | read reading _ => exact ⟨by rw [flight, flight?, reading]; rfl, by rintro _ _ _ ⟨⟩⟩
  | @unreadable fault reading _ =>
    refine ⟨?_, by rintro _ _ _ ⟨⟩⟩
    have now := slot?_recordUnreadable cache get.identity.path get.identity fault
    rw [if_pos ⟨rfl, by rw [flight, flight?, reading]⟩] at now
    exact congrArg Slot.inFlight? (slot_eq _ now)
  | hit looking _ _ => exact ⟨by rw [flight, flight?, looking]; rfl, by rintro _ _ _ ⟨⟩⟩
  | @start source looking _ _ =>
    have there : (cache.launched get.identity (get.fingerprint source) source).tasks.get?
        cache.nextTask = some ⟨get.identity, source, get.fingerprint source, .created⟩ :=
      (tasks_launched ..).trans (if_pos rfl)
    refine ⟨?_, ?_⟩
    · refine Eq.trans ?_ (flight?_of_open rfl there (by simp [Analysis.Open])).symm
      exact congrArg Slot.inFlight? (slot_eq _ ((slot?_launched ..).trans (if_pos rfl)))
    · rintro _ _ _ ⟨⟩
      exact ⟨rfl, .created, there⟩
  | join looking flying =>
    rw [flight, flight?, looking] at flying
    cases flying
  | @take source task joined analysis result waiting present recorded =>
    obtain ⟨rfl, -⟩ := alone.own source task joined waiting
    have done : (get.afterTask source false result).stage = .done result := by cases result <;> rfl
    rw [done]
    refine ⟨?_, by rintro _ _ _ ⟨⟩⟩
    rw [flight, flight?_of_recorded waiting present recorded]
    rfl
  | @work source task joined analysis analyses notices stage waiting present going opened _ _ =>
    obtain ⟨rfl, before, there⟩ := alone.own source task joined waiting
    cases present.symm.trans there
    have after : ({ cache with
        analyses, notices
        tasks := cache.tasks.set task
          ⟨get.identity, source, get.fingerprint source, stage⟩ } : Cache).tasks.get? task =
        some ⟨get.identity, source, get.fingerprint source, stage⟩ :=
      (Table.get?_set ..).trans (if_pos rfl)
    refine ⟨?_, fun source' task' joined' waiting' => ?_⟩
    · rw [flight?_of_open waiting after fun result => opened result]
      refine flight.trans (flight?_of_open waiting present ?_)
      rintro result rfl
      cases going
    · cases waiting.symm.trans waiting'
      exact ⟨rfl, stage, after⟩
  | @record source task joined analysis result waiting present found =>
    obtain ⟨rfl, before, there⟩ := alone.own source task joined waiting
    cases present.symm.trans there
    obtain rfl : before = .found result := found
    have flying := flight.trans (flight?_of_open waiting present fun result => by simp)
    have now := recorded_of_flight ⟨get.identity, source, get.fingerprint source, .found result⟩
      flying rfl result
    have after := (tasks_recorded cache task task
      ⟨get.identity, source, get.fingerprint source, .found result⟩ result).trans (if_pos rfl)
    refine ⟨?_, fun source' task' joined' waiting' => ?_⟩
    · rw [flight?_of_recorded waiting after rfl]
      refine (congrArg Slot.inFlight? now.1).trans ?_
      cases result <;> rfl
    · cases waiting.symm.trans waiting'
      exact ⟨rfl, _, after⟩

/-- The analysis that a call on another path waits for stays where it is. -/
theorem Transition.waited (step : Transition setup cache get reply cache' stage) (sound : cache.Sound)
    (alone : get.Alone cache) (apart : get.identity.path.parts ≠ other.identity.path.parts)
    (beside : other.Alone cache) {source : String} {task : Nat} {joined : Bool}
    (waiting : other.stage = .waiting source task joined) :
    cache'.tasks.get? task = cache.tasks.get? task := by
  obtain ⟨-, stage, there⟩ := beside.own source task joined waiting
  rw [there]
  exact (step.frame sound alone apart).2 task _ there rfl

/-- A call on another path stays alone. -/
theorem Transition.alone_other (step : Transition setup cache get reply cache' stage)
    (sound : cache.Sound) (alone : get.Alone cache)
    (apart : get.identity.path.parts ≠ other.identity.path.parts) (beside : other.Alone cache) :
    other.Alone cache' where
  flight := by
    rw [(step.frame sound alone apart).1, beside.flight]
    unfold flight?
    cases stage : other.stage with
    | waiting source task joined => simp only [step.waited sound alone apart beside stage]
    | _ => rfl
  own := by
    intro source task joined waiting
    rw [step.waited sound alone apart beside waiting]
    exact beside.own source task joined waiting

end Get

end Cache

end ComponentCatalog
