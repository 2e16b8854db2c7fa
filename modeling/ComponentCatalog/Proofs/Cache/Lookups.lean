import ComponentCatalog.Proofs.Cache.Launches
import Mathlib.Data.List.Nodup
import Mathlib.Data.List.Perm.Subperm

/-! # What a call finds by looking up

A call that joined the analysis of another source looks up again once that has ended, and may find
another one on its way. What it has found by then are analyses of its path that have ended, so none of
them is joined again, and there are at least as many analyses of the path. What each step of a call adds
is told here, for as many calls as bound the analyses of the path.
-/

namespace ComponentCatalog

open Component

namespace Cache

/-- The analysis that is joined. -/
def Lookup.joined? : Lookup → Option Nat
  | .joined task => some task
  | _ => none

/-- The analysis that is started. -/
def Lookup.started? : Lookup → Option Nat
  | .started task => some task
  | _ => none

/-- The result of an analysis is recorded. -/
def ended (cache : Cache) (task : Nat) : Bool :=
  match (cache.tasks.get? task).map Analysis.stage with
  | some (.recorded _) => true
  | _ => false

/-- The analyses of a path, in the order in which they were started. -/
def analysesAt (path : Path) (cache : Cache) : List Nat :=
  cache.tasks.filterMap fun task =>
    if task.2.identity.path.parts = path.parts then some task.1 else none

namespace Get

/-- A call for a path may yet start an analysis. -/
def mayStart (path : Path) (get : Get) : Bool :=
  get.identity.path.parts = path.parts &&
    match get.stage with
    | .reading | .looking _ => true
    | .waiting _ _ joined => joined
    | .done _ => false

/-- What a call finds with its next step, if that is a lookup. -/
def lookup? (cache : Cache) (get : Get) : Option Lookup :=
  match get.stage with
  | .looking source => some (cache.lookup get.identity (get.fingerprint source) source).2
  | _ => none

/-- A call is held up while it has not been told its source, and while the analysis that it waits for
has not ended. -/
def free (cache : Cache) (get : Get) (reply : Reply) : Bool :=
  match get.stage, reply with
  | .reading, .text _ => true
  | .reading, _ => false
  | .waiting _ task _, _ => cache.ended task
  | _, _ => true

end Get

variable {setup : Setup} {cache cache' : Cache} {path : Path} {task : Nat} {get : Get} {reply : Reply}
  {stage : Get.Stage}

theorem ended_iff : cache.ended task = true ↔ ∃ analysis result,
    cache.tasks.get? task = some analysis ∧ analysis.stage = .recorded result := by
  unfold ended
  cases present : cache.tasks.get? task with
  | none => simp
  | some analysis => cases recorded : analysis.stage <;> simp [recorded]

theorem Extends.ended (grows : cache.Extends cache') (past : cache.ended task = true) :
    cache'.ended task = true := by
  obtain ⟨analysis, result, present, recorded⟩ := ended_iff.mp past
  obtain ⟨later, there, goes⟩ := grows.tasks present
  rw [goes.recorded _ recorded] at there
  exact ended_iff.mpr ⟨analysis, result, there, recorded⟩

/-- What is on its way has not ended. -/
theorem Sound.not_ended (sound : cache.Sound) {flight : InFlight}
    (flying : (cache.slot path).inFlight? = some flight) : ¬ cache.ended flight.task = true := by
  intro past
  obtain ⟨analysis, result, present, recorded⟩ := ended_iff.mp past
  obtain ⟨other, there, -, -, opened⟩ := (sound.slot path).flight flight flying
  cases present.symm.trans there
  exact opened _ recorded

theorem mem_analysesAt {analysis : Analysis} (present : cache.tasks.get? task = some analysis)
    (parts : analysis.identity.path.parts = path.parts) : task ∈ cache.analysesAt path :=
  List.mem_filterMap.mpr ⟨(task, analysis), Table.mem_of_get? present, if_pos parts⟩

theorem analysesAt_congr (tasks : cache'.tasks = cache.tasks) :
    cache'.analysesAt path = cache.analysesAt path := by
  simp only [analysesAt, tasks]

theorem analysesAt_set {analysis : Analysis} {later : Stage}
    (present : cache.tasks.get? task = some analysis)
    (tasks : cache'.tasks = cache.tasks.set task { analysis with stage := later }) :
    cache'.analysesAt path = cache.analysesAt path := by
  rw [analysesAt, tasks]
  exact Table.filterMap_set present rfl

/-- With a step of a call no more analyses come than it was to start. -/
theorem Get.Transition.analysesAt_le (step : Get.Transition setup cache get reply cache' stage)
    (sound : cache.Sound) (path : Path) :
    (cache'.analysesAt path).length + (Get.mayStart path { get with stage }).toNat ≤
      (cache.analysesAt path).length + (get.mayStart path).toNat := by
  cases step with
  | rest => exact Nat.le_refl _
  | read reading _ => simp [Get.mayStart, reading]
  | unreadable _ _ => simp [Get.mayStart, analysesAt_congr (tasks_recordUnreadable ..)]
  | hit _ _ _ => simp [Get.mayStart]
  | @start source looking _ _ =>
    simp only [analysesAt, sound.tasks_launched_concat, List.filterMap_append, List.length_append,
      Get.mayStart, looking]
    by_cases same : get.identity.path.parts = path.parts <;> simp [same]
  | join looking _ => simp [Get.mayStart, looking]
  | @take source task joined analysis result waiting _ _ =>
    rcases get.afterTask_cases source joined result with ⟨done, -⟩ | ⟨rfl, looking, -⟩
    · simp [Get.mayStart, done]
    · simp [Get.mayStart, looking, waiting]
  | work _ present _ _ _ _ => exact Nat.le_of_eq (by rw [analysesAt_set present rfl])
  | record _ present _ => exact Nat.le_of_eq (by rw [analysesAt_set present rfl])

/-! ## What one call has found -/

/-- What a call found so far, of as many calls for its path. -/
structure Tallied (path : Path) (calls : Nat) (cache : Cache) (found : List Lookup) : Prop where
  bounded : found.length ≤ calls
  starts : (found.filterMap Lookup.started?).length ≤ 1
  joins : (found.filterMap Lookup.joined?).Nodup
  known : ∀ task ∈ found.filterMap Lookup.joined?, ∃ analysis,
    cache.tasks.get? task = some analysis ∧ analysis.identity.path.parts = path.parts

/-- All that was found are analyses that were joined and have ended. -/
def Over (cache : Cache) (found : List Lookup) : Prop :=
  ∀ lookup ∈ found, ∃ task, lookup = .joined task ∧ cache.ended task = true

/-- How far a call is, by what it found and by how often it was not held up. -/
inductive Searching (cache : Cache) (found : List Lookup) (steps : Nat) : Get.Stage → Prop
  | reading (new : found = []) (rested : steps = 0) : Searching cache found steps .reading
  | looking {source : String} (past : cache.Over found) (count : steps = 2 * found.length + 1) :
      Searching cache found steps (.looking source)
  | joined {source : String} {task : Nat} {before : List Lookup}
      (last : found = before ++ [.joined task]) (past : cache.Over before)
      (count : steps = 2 * found.length) :
      Searching cache found steps (.waiting source task true)
  | started {source : String} {task : Nat} (count : steps = 2 * found.length) :
      Searching cache found steps (.waiting source task false)
  | done {result : Except String Entry} : Searching cache found steps (.done result)

variable {calls calls' steps : Nat} {found : List Lookup} {source : String}

theorem Tallied.mono (tallied : Tallied path calls cache found) (more : calls ≤ calls')
    (grows : cache.Extends cache') : Tallied path calls' cache' found where
  bounded := Nat.le_trans tallied.bounded more
  starts := tallied.starts
  joins := tallied.joins
  known := by
    intro task member
    obtain ⟨analysis, present, parts⟩ := tallied.known task member
    obtain ⟨later, there, goes⟩ := grows.tasks present
    exact ⟨later, there, by rw [goes.identity, parts]⟩

theorem Over.mono (past : cache.Over found) (grows : cache.Extends cache') : cache'.Over found :=
  fun lookup member =>
    let ⟨task, joined, ended⟩ := past lookup member
    ⟨task, joined, grows.ended ended⟩

theorem Searching.mono (searching : Searching cache found steps stage)
    (grows : cache.Extends cache') : Searching cache' found steps stage := by
  cases searching with
  | reading new rested => exact .reading new rested
  | looking past count => exact .looking (past.mono grows) count
  | joined last past count => exact .joined last (past.mono grows) count
  | started count => exact .started count
  | done => exact .done

theorem Over.started?_eq_nil (past : cache.Over found) : found.filterMap Lookup.started? = [] := by
  rw [List.filterMap_eq_nil_iff]
  intro lookup member
  obtain ⟨task, rfl, -⟩ := past lookup member
  rfl

theorem Over.length_joined? (past : cache.Over found) :
    (found.filterMap Lookup.joined?).length = found.length := by
  rw [List.length_filterMap_eq_countP, List.countP_eq_length]
  intro lookup member
  obtain ⟨task, rfl, -⟩ := past lookup member
  rfl

/-- As long as a call may start an analysis, it has found fewer than there are calls: each of what it
found is another analysis. -/
theorem Tallied.room (tallied : Tallied path calls cache found) (past : cache.Over found)
    (load : (cache.analysesAt path).length < calls) : found.length < calls := by
  have subset : found.filterMap Lookup.joined? ⊆ cache.analysesAt path := by
    intro task member
    obtain ⟨analysis, present, parts⟩ := tallied.known task member
    exact mem_analysesAt present parts
  have fewer := (tallied.joins.subperm subset).length_le
  rw [past.length_joined?] at fewer
  omega

/-- One lookup more joins no analysis that was joined before, if it joins one that has not ended. -/
theorem Tallied.concat (tallied : Tallied path calls cache found) (past : cache.Over found)
    (room : found.length < calls) {lookup : Lookup}
    (joins : ∀ task, lookup.joined? = some task → ¬ cache.ended task = true ∧
      ∃ analysis, cache.tasks.get? task = some analysis ∧
        analysis.identity.path.parts = path.parts) :
    Tallied path calls cache (found ++ [lookup]) := by
  have appended {α : Type} (pick : Lookup → Option α) :
      (found ++ [lookup]).filterMap pick = found.filterMap pick ++ (pick lookup).toList := by
    rw [List.filterMap_append]
    cases picked : pick lookup <;> simp [picked]
  refine ⟨by rw [List.length_append]; exact room, ?_, ?_, ?_⟩
  · rw [appended, past.started?_eq_nil, List.nil_append]
    exact Option.length_toList_le
  · rw [appended]
    refine List.nodup_append.mpr ⟨tallied.joins, Option.toList_nodup _, ?_⟩
    -- What was joined before has ended, what is joined now has not.
    intro task before other now same
    obtain ⟨_, there, joined⟩ := List.mem_filterMap.mp before
    obtain ⟨_, rfl, ended⟩ := past _ there
    cases joined
    exact (joins other (Option.mem_toList.mp now)).1 (same ▸ ended)
  · rw [appended]
    intro task member
    rcases List.mem_append.mp member with before | now
    · exact tallied.known task before
    · exact (joins task (Option.mem_toList.mp now)).2

namespace Get

/-- A call with what it found so far, of as many calls for its path. -/
structure Searched (path : Path) (calls : Nat) (cache : Cache) (found : List Lookup) (steps : Nat)
    (get : Get) : Prop where
  tallied : Tallied path calls cache found
  searching : Searching cache found steps get.stage

theorem Searched.mono (searched : get.Searched path calls cache found steps)
    (more : calls ≤ calls') (grows : cache.Extends cache') :
    get.Searched path calls' cache' found steps :=
  ⟨searched.tallied.mono more grows, searched.searching.mono grows⟩

/-- A call that reads has found nothing yet. -/
private theorem Searched.read (searched : get.Searched path calls cache found steps)
    (reading : get.stage = .reading) :
    Searched path calls (get.step setup cache reply).1 found
      (steps + (get.free cache reply).toNat) (get.step setup cache reply).2 := by
  have tallied := searched.tallied
  have searching := searched.searching
  rw [reading] at searching
  obtain ⟨rfl, rfl⟩ : found = [] ∧ steps = 0 := by
    cases searching with
    | reading new rested => exact ⟨new, rested⟩
  simp only [Get.step, free, reading]
  cases reply with
  | text result =>
    cases result with
    | ok source => exact ⟨tallied, .looking (by simp [Over]) rfl⟩
    | error fault => exact ⟨tallied.mono (Nat.le_refl _) (.recordUnreadable ..), .done⟩
  | _ => exact searched

/-- A call that looks up finds something that it has not found before. -/
private theorem Searched.look (searched : get.Searched path calls cache found steps)
    (sound : cache.Sound) (parts : get.identity.path.parts = path.parts)
    (looking : get.stage = .looking source) (load : (cache.analysesAt path).length < calls) :
    ∃ lookup, get.lookup? cache = some lookup ∧
      Searched path calls (get.step setup cache reply).1 (found ++ [lookup]) (steps + 1)
        (get.step setup cache reply).2 := by
  obtain ⟨tallied, searching⟩ := searched
  rw [looking] at searching
  obtain ⟨past, count⟩ : cache.Over found ∧ steps = 2 * found.length + 1 := by
    cases searching with
    | looking past count => exact ⟨past, count⟩
  have room := tallied.room past load
  have count' (lookup : Lookup) : steps + 1 = 2 * (found ++ [lookup]).length := by
    rw [List.length_append, List.length_singleton]
    omega
  cases flying : (cache.slot get.identity.path).inFlight? with
  | some flight =>
    refine ⟨.joined flight.task, by simp only [lookup?, looking, Cache.lookup, flying], ?_⟩
    rw [step_join setup reply looking flying]
    refine ⟨tallied.concat past room ?_, .joined rfl past (count' _)⟩
    rintro _ ⟨⟩
    obtain ⟨analysis, present, same, -⟩ := (sound.slot get.identity.path).flight flight flying
    exact ⟨sound.not_ended flying, analysis, present, same.trans parts⟩
  | none =>
    cases hit : (cache.slot get.identity.path).hit? get.identity (get.fingerprint source) with
    | some entry =>
      refine ⟨.hit entry, by simp only [lookup?, looking, Cache.lookup, flying, hit], ?_⟩
      rw [step_hit setup reply looking flying hit]
      exact ⟨tallied.concat past room (by simp [Lookup.joined?]), .done⟩
    | none =>
      refine ⟨.started cache.nextTask, ?_, ?_⟩
      · simp only [lookup?, looking, Cache.lookup, flying, hit]
      · rw [step_start setup reply looking flying hit]
        have now : Tallied path calls cache (found ++ [.started cache.nextTask]) :=
          tallied.concat past room (by simp [Lookup.joined?])
        exact ⟨now.mono (Nat.le_refl _) (.launched sound ..), .started (count' _)⟩

/-- A call that waits goes on once the analysis has ended. -/
private theorem Searched.wait (searched : get.Searched path calls cache found steps)
    (sound : cache.Sound) {joined : Bool} (waiting : get.stage = .waiting source task joined) :
    Searched path calls (get.step setup cache reply).1 found
      (steps + (cache.ended task).toNat) (get.step setup cache reply).2 := by
  cases past : cache.ended task with
  | false =>
    have stays : (get.step setup cache reply).2 = get := by
      simp only [Get.step, waiting]
      split
      · next recorded => simp [ended, recorded] at past
      · rfl
    rw [stays]
    exact searched.mono (Nat.le_refl _) ((get.step_transition setup cache reply).grows sound)
  | true =>
    obtain ⟨other, result, there, recorded⟩ := ended_iff.mp past
    rw [step_take setup reply waiting there recorded]
    refine ⟨searched.tallied, ?_⟩
    rcases get.afterTask_cases source joined result with ⟨done, -⟩ | ⟨rfl, looking, -⟩
    · exact done ▸ .done
    · rw [looking]
      have searching := searched.searching
      rw [waiting] at searching
      cases searching with
      | joined last before count =>
        refine .looking ?_ (congrArg (· + 1) count)
        intro lookup member
        rw [last] at member
        rcases List.mem_append.mp member with earlier | latest
        · exact before lookup earlier
        · exact ⟨task, List.mem_singleton.mp latest, past⟩

/-- A step of a call leads to what it found with it, if anything. -/
theorem Searched.step (searched : get.Searched path calls cache found steps)
    (setup : Setup) (sound : cache.Sound) (parts : get.identity.path.parts = path.parts)
    (load : get.mayStart path = true → (cache.analysesAt path).length < calls) (reply : Reply) :
    Searched path calls (get.step setup cache reply).1
      (found ++ (get.lookup? cache).toList) (steps + (get.free cache reply).toNat)
      (get.step setup cache reply).2 := by
  cases stage : get.stage with
  | reading =>
    have none : get.lookup? cache = none := by simp only [lookup?, stage]
    rw [none, Option.toList_none, List.append_nil]
    exact searched.read stage
  | looking source =>
    have may : get.mayStart path = true := by simp [mayStart, stage, parts]
    obtain ⟨lookup, finds, next⟩ := searched.look sound parts stage (load may)
    have free : get.free cache reply = true := by simp only [Get.free, stage]
    rw [finds, free]
    exact next
  | waiting source task joined =>
    have none : get.lookup? cache = none := by simp only [lookup?, stage]
    have free : get.free cache reply = cache.ended task := by simp only [Get.free, stage]
    rw [none, free, Option.toList_none, List.append_nil]
    exact searched.wait sound stage
  | done result =>
    have none : get.lookup? cache = none := by simp only [lookup?, stage]
    have stays : get.step setup cache reply = (cache, get) := by simp only [Get.step, stage]
    rw [none, stays, Option.toList_none, List.append_nil]
    exact ⟨searched.tallied, stage ▸ .done⟩

end Get

end Cache

end ComponentCatalog
