import ComponentCatalog.Proofs.Cache.Alone

/-! # Analyses that are started

An analysis keeps its number, its component and its text from when it is started. So the analyses that
there are tell which ones were started since. For a call that is alone it is settled by what it finds
whether it starts one, and whether the analyzer is asked: what was started and what is yet to be started
are together the same behind each of its steps.
-/

namespace ComponentCatalog

open Component

namespace Cache

/-- The analyses that were started from a number on: of which component, and of which text. -/
def launches (first : Nat) (cache : Cache) : List (Identity × String) :=
  cache.tasks.filterMap fun task =>
    if first ≤ task.1 then some (task.2.identity, task.2.source) else none

/-- Is the analyzer asked in an analysis of a text? Not if the steps fail. -/
def Setup.asks (setup : Setup) (launch : Identity × String) : Bool :=
  (setup.pipeline.apply launch.1 launch.2).isOk

/-- What is to be started for a component with a text; nothing if an entry is at hand. -/
def missing? (cache : Cache) (identity : Identity) (text : String) : Option (Identity × String) :=
  match (cache.slot identity.path).hit? identity (.compute identity.path text) with
  | some _ => none
  | none => some (identity, text)

/-- What an analysis is yet to ask the analyzer about. -/
def Analysis.toAsk? (setup : Setup) (analysis : Analysis) : Option (Identity × String) :=
  match analysis.stage with
  | .created => some (analysis.identity, analysis.source) |>.filter setup.asks
  | _ => none

namespace Get

/-- What a call is yet to start. -/
def due? (source : Path → Except Files.Fault String) (cache : Cache) (get : Get) :
    Option (Identity × String) :=
  match get.stage with
  | .reading => (source get.identity.path).toOption.bind (cache.missing? get.identity)
  | .looking text => cache.missing? get.identity text
  | _ => none

/-- What a call is yet to ask the analyzer about. -/
def toAsk? (setup : Setup) (source : Path → Except Files.Fault String) (cache : Cache) (get : Get) :
    Option (Identity × String) :=
  match get.stage with
  | .waiting _ task _ => (cache.tasks.get? task).bind (Analysis.toAsk? setup)
  | _ => (get.due? source cache).filter setup.asks

end Get

variable {setup : Setup} {source : Path → Except Files.Fault String} {cache cache' : Cache}
  {get other : Get} {reply : Reply} {stage : Get.Stage} {first : Nat}

/-! ## Numbers of analyses -/

theorem launches_congr (tasks : cache'.tasks = cache.tasks) :
    cache'.launches first = cache.launches first := by
  simp only [launches, tasks]

/-- The analysis that is started comes behind the others. -/
theorem Sound.tasks_launched_concat (sound : cache.Sound) (identity : Identity)
    (fingerprint : Fingerprint) (text : String) :
    (cache.launched identity fingerprint text).tasks =
      cache.tasks ++ [(cache.nextTask, { identity, source := text, fingerprint })] := by
  refine Table.set_of_new ?_ _
  cases present : cache.tasks.get? cache.nextTask with
  | none => rfl
  | some analysis => exact absurd (sound.numbered present) (Nat.lt_irrefl _)

theorem launches_launched (sound : cache.Sound) (later : first ≤ cache.nextTask) (identity : Identity)
    (fingerprint : Fingerprint) (text : String) :
    (cache.launched identity fingerprint text).launches first =
      cache.launches first ++ [(identity, text)] := by
  simp only [launches, sound.tasks_launched_concat, List.filterMap_append, List.filterMap_cons,
    later, ↓reduceIte, List.filterMap_nil]

/-- An analysis that goes on is of the same component and the same text. -/
theorem launches_set {task : Nat} {analysis : Analysis} {later : Stage}
    (present : cache.tasks.get? task = some analysis)
    (tasks : cache'.tasks = cache.tasks.set task { analysis with stage := later }) :
    cache'.launches first = cache.launches first := by
  rw [launches, tasks]
  exact Table.filterMap_set present rfl

/-! ## Asking the analyzer -/

/-- An answer of the analyzer is not another question. -/
private theorem Analysis.answer_asks (analysis : Analysis) (setup : Setup) (cache : Cache) (time : Nat)
    (answer : Analyzer.Answer) :
    (analysis.answer setup cache time answer).1.analyses = cache.analyses ∧
      (analysis.answer setup cache time answer).2.toAsk? setup = none := by
  cases answer with
  | described raw =>
    simp only [Analysis.answer, describe]
    split
    · split <;> exact ⟨rfl, rfl⟩
    · exact ⟨rfl, rfl⟩
  | failed fault => cases fault <;> exact ⟨rfl, rfl⟩
  | _ => exact ⟨rfl, rfl⟩

/-- A new analysis asks the analyzer once, unless the steps fail. -/
private theorem Analysis.begin_asks (analysis : Analysis) (setup : Setup) (cache : Cache) :
    (analysis.begin setup cache).1.analyses +
        ((analysis.begin setup cache).2.toAsk? setup).toList.length =
      cache.analyses +
        ((some (analysis.identity, analysis.source)).filter setup.asks).toList.length := by
  unfold begin
  cases made : setup.pipeline.apply analysis.identity analysis.source with
  | error fault =>
    have asks : setup.asks (analysis.identity, analysis.source) = false := by
      rw [Setup.asks, made]
      rfl
    rw [Option.filter_some, asks]
    rfl
  | ok text =>
    have asks : setup.asks (analysis.identity, analysis.source) = true := by
      rw [Setup.asks, made]
      rfl
    rw [Option.filter_some, asks]
    rfl

/-- What an analysis without a store has asked and what it is yet to ask are together the same behind each
of its steps. -/
theorem Analysis.analyses_add (storeless : setup.store? = none) {analysis : Analysis}
    (going : analysis.result? = none) (task : Nat) (cache : Cache) (reply : Reply) :
    (analysis.step setup task cache reply).1.analyses +
        ((analysis.step setup task cache reply).2.toAsk? setup).toList.length =
      cache.analyses + (analysis.toAsk? setup).toList.length := by
  cases stage : analysis.stage with
  | created =>
    have before : analysis.toAsk? setup =
        (some (analysis.identity, analysis.source)).filter setup.asks := by simp only [toAsk?, stage]
    rw [step_created setup cache stage storeless, before]
    exact analysis.begin_asks setup cache
  | asked request =>
    have before : analysis.toAsk? setup = none := by simp only [toAsk?, stage]
    cases reply with
    | answered answer time =>
      obtain ⟨analyses, after⟩ := analysis.answer_asks setup cache time answer
      rw [step_asked setup cache stage, analyses, after, before]
    | _ =>
      unfold step
      simp only [stage]
  | storing metadata time =>
    unfold step
    simp only [stage, storeless]
  | _ => simp [result?, stage] at going

/-! ## Calls that are alone -/

namespace Get

/-- A call reads its source as it is. -/
def Reads (source : Path → Except Files.Fault String) (get : Get) (reply : Reply) : Prop :=
  get.stage = .reading → ∀ result, reply = .text result → result = source get.identity.path

private theorem stage_afterTask_own (get : Get) (text : String) (result : Except String Entry) :
    (get.afterTask text false result).stage = .done result := by
  cases result <;> rfl

/-- What was started and what a call is yet to start are together the same behind each of its steps. -/
theorem Transition.launches_append (step : Transition setup cache get reply cache' stage)
    (sound : cache.Sound) (alone : get.Alone cache) (later : first ≤ cache.nextTask)
    (reads : get.Reads source reply) :
    cache'.launches first ++ (Get.due? source cache' { get with stage }).toList =
      cache.launches first ++ (get.due? source cache).toList := by
  cases step with
  | rest => rfl
  | read reading replied =>
    simp only [due?, reading, ← reads reading _ replied, Except.toOption, Option.bind_some]
  | unreadable reading replied =>
    rw [launches_congr (tasks_recordUnreadable ..)]
    simp only [due?, reading, ← reads reading _ replied, Except.toOption, Option.bind_none]
  | hit looking _ hit =>
    rw [fingerprint] at hit
    simp only [due?, looking, missing?, hit]
  | start looking _ miss =>
    rw [fingerprint] at miss
    rw [launches_launched sound later]
    simp only [due?, looking, missing?, miss, Option.toList_some, Option.toList_none, List.append_nil]
  | join looking flying =>
    rw [alone.flight, flight?, looking] at flying
    cases flying
  | take waiting _ _ =>
    obtain ⟨rfl, -⟩ := alone.own _ _ _ waiting
    simp only [due?, waiting, stage_afterTask_own]
  | work waiting present _ _ _ _ =>
    rw [launches_set present rfl]
    simp only [due?, waiting]
  | record waiting present _ =>
    rw [launches_set present rfl]
    simp only [due?, waiting]

/-- What was asked and what a call is yet to ask are together as much behind each of its steps. -/
theorem Transition.analyses_add (step : Transition setup cache get reply cache' stage)
    (storeless : setup.store? = none) (alone : get.Alone cache) (reads : get.Reads source reply) :
    cache'.analyses + (Get.toAsk? setup source cache' { get with stage }).toList.length =
      cache.analyses + (get.toAsk? setup source cache).toList.length := by
  cases step with
  | rest => rfl
  | read reading replied =>
    simp only [toAsk?, due?, reading, ← reads reading _ replied, Except.toOption, Option.bind_some]
  | @unreadable fault reading replied =>
    have analyses : (cache.recordUnreadable get.identity fault).analyses = cache.analyses := by
      rcases recordUnreadable_cases cache get.identity fault with ⟨-, eq⟩ | ⟨-, eq⟩ <;> rw [eq] <;> rfl
    rw [analyses]
    simp only [toAsk?, due?, reading, ← reads reading _ replied, Except.toOption, Option.bind_none]
  | hit looking _ hit =>
    rw [fingerprint] at hit
    simp only [toAsk?, due?, looking, missing?, hit]
  | start looking _ miss =>
    rw [fingerprint] at miss
    simp only [toAsk?, due?, looking, missing?, miss, tasks_launched, ↓reduceIte, Option.bind_some,
      Analysis.toAsk?]
    rfl
  | join looking flying =>
    rw [alone.flight, flight?, looking] at flying
    cases flying
  | take waiting present recorded =>
    obtain ⟨rfl, -⟩ := alone.own _ _ _ waiting
    simp [toAsk?, due?, waiting, stage_afterTask_own, present, Analysis.toAsk?, recorded]
  | @work text task joined analysis analyses notices later waiting present going _ _ step =>
    have same := Analysis.analyses_add storeless going task cache reply
    rw [step] at same
    simpa only [toAsk?, waiting, present, Table.get?_set, ↓reduceIte, Option.bind_some] using same
  | @record text task joined analysis result waiting present found =>
    have analyses : (cache.recorded task analysis result).analyses = cache.analyses := by
      rcases finish_cases cache analysis.identity.path task result.toOption with
        ⟨-, eq⟩ | ⟨_, _, -, -, -, ⟨_, -, eq⟩ | ⟨-, eq⟩⟩ <;> simp only [recorded, eq] <;> rfl
    rw [analyses]
    simp only [toAsk?, waiting, present, tasks_recorded, ↓reduceIte, Option.bind_some,
      Analysis.toAsk?, found]

/-- What a call on another path is yet to start stays. -/
theorem Transition.due?_other (step : Transition setup cache get reply cache' stage)
    (sound : cache.Sound) (alone : get.Alone cache)
    (apart : get.identity.path.parts ≠ other.identity.path.parts) :
    other.due? source cache' = other.due? source cache := by
  have same : cache'.missing? other.identity = cache.missing? other.identity := by
    funext text
    simp only [missing?, (step.frame sound alone apart).1]
  simp only [due?, same]

/-- What a call on another path is yet to ask stays. -/
theorem Transition.toAsk?_other (step : Transition setup cache get reply cache' stage)
    (sound : cache.Sound) (alone : get.Alone cache)
    (apart : get.identity.path.parts ≠ other.identity.path.parts) (beside : other.Alone cache) :
    other.toAsk? setup source cache' = other.toAsk? setup source cache := by
  have due : other.due? source cache' = other.due? source cache := step.due?_other sound alone apart
  unfold toAsk?
  cases waits : other.stage with
  | waiting text task joined => simp only [step.waited sound alone apart beside waits]
  | _ => simp only [due]

end Get

end Cache

end ComponentCatalog
