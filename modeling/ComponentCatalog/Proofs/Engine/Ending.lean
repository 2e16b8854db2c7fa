import ComponentCatalog.Proofs.Engine.Beside
import ComponentCatalog.Proofs.Engine.Prospect

/-! # A call that gets all components ends

Every step that gets a reply to what it needs leaves less to do: an analysis passes through its stages
once, a call that is alone looks up the cache once, and publishing goes through the components and then
through the files. While the call has no result there is a step that it can take. So whatever the order
of the steps and whatever is replied, the call comes to a result.
-/

namespace ComponentCatalog

open Component

/-- A reply is one to a need. -/
def Need.Fits (need : Need) (reply : Reply) : Prop :=
  match need, reply with
  | .nothing, .nothing | .readText _, .text _ | .readBytes _, .bytes _ | .look _, .there _
  | .makeDirs _, .done _ | .write .., .done _ | .remove _, .done _ | .describe .., .answered .. => True
  | _, _ => False

theorem Engine.Leaves.fits {need : Need} {reply : Reply} {path : Path} {before after : Option ByteArray}
    (leaves : Leaves need reply path before after) : need.Fits reply := by
  unfold Leaves at leaves
  split at leaves <;> trivial

namespace Cache

/-- How many steps an analysis takes from a stage on, and the taking of its result. -/
def Stage.left : Stage → Nat
  | .created => 5
  | .asked _ => 4
  | .storing .. => 3
  | .found _ => 2
  | .recorded _ => 1

/-- How many steps are left to get an entry, at most. -/
def Get.left (cache : Cache) (get : Get) : Nat :=
  match get.stage with
  | .reading => 7
  | .looking _ => 6
  | .waiting _ task _ => ((cache.tasks.get? task).map fun analysis => analysis.stage.left).getD 0
  | .done _ => 0

variable {setup : Setup} {analysis : Analysis} {cache cache' : Cache} {get other : Get} {need : Need}
  {reply : Reply} {stage : Get.Stage}

private theorem Analysis.left_begin (analysis : Analysis) (setup : Setup) (cache : Cache) :
    (analysis.begin setup cache).2.stage.left < Stage.created.left := by
  unfold Analysis.begin
  split
  · exact (by decide : 2 < 5)
  · exact (by decide : 4 < 5)

private theorem Analysis.left_answer (analysis : Analysis) (setup : Setup) (cache : Cache) (time : Nat)
    (answer : Analyzer.Answer) :
    (analysis.answer setup cache time answer).2.stage.left < 4 := by
  cases answer with
  | described raw =>
    simp only [Analysis.answer, describe]
    split
    · split
      · exact (by decide : 3 < 4)
      · exact (by decide : 2 < 4)
    · exact (by decide : 2 < 4)
  | failed fault => cases fault <;> exact (by decide : 2 < 4)
  | _ => exact (by decide : 2 < 4)

/-- A step takes an analysis to a later stage. -/
theorem Analysis.left_step (going : analysis.result? = none) (storesIn : analysis.StoresIn setup)
    {task : Nat} (fits : (analysis.need setup task).Fits reply) (cache : Cache) :
    (analysis.step setup task cache reply).2.stage.left < analysis.stage.left := by
  cases stage : analysis.stage with
  | created =>
    cases store : setup.store? with
    | none =>
      rw [step_created setup cache stage store]
      exact left_begin ..
    | some store' =>
      simp only [need, stage, store] at fits
      cases reply with
      | bytes result =>
        rw [step_created_bytes setup cache stage (Option.isSome_of_eq_some store)]
        split
        · exact (by decide : 2 < 5)
        · exact left_begin ..
      | _ => cases fits
  | asked request =>
    simp only [need, stage] at fits
    cases reply with
    | answered answer time =>
      rw [step_asked setup cache stage]
      exact left_answer ..
    | _ => cases fits
  | storing metadata time =>
    obtain ⟨store, there⟩ := Option.isSome_iff_exists.mp (storesIn metadata time stage)
    simp only [need, stage, there] at fits
    cases reply with
    | done result =>
      unfold step
      simp only [stage, there, stored_snd]
      exact (by decide : 2 < 3)
    | _ => cases fits
  | found result => simp [result?, stage] at going
  | recorded result => simp [result?, stage] at going

/-- A step leaves less to do for a call that is alone. -/
theorem Get.left_step (alone : get.Alone cache) (storesIn : get.StoresIn setup cache)
    (needs : get.need? setup cache = some need) (fits : need.Fits reply) :
    (get.step setup cache reply).2.left (get.step setup cache reply).1 < get.left cache := by
  have flight := alone.flight
  cases stage : get.stage with
  | reading =>
    simp only [need?, stage, Option.some.injEq] at needs
    subst needs
    cases reply with
    | text result =>
      simp only [Get.step, stage]
      cases result <;> simp [Get.left, stage]
    | _ => cases fits
  | looking source =>
    rw [flight?, stage] at flight
    cases hit : (cache.slot get.identity.path).hit? get.identity (get.fingerprint source) with
    | some entry =>
      rw [step_hit setup reply stage flight hit]
      simp [Get.left, stage]
    | none =>
      rw [step_start setup reply stage flight hit]
      simp [Get.left, stage, tasks_launched, Stage.left]
  | waiting source task joined =>
    obtain ⟨rfl, at_, there⟩ := alone.own source task joined stage
    have now : get.left cache = at_.left := by simp [Get.left, stage, there]
    have goes_on (going : Analysis.result? ⟨get.identity, source, get.fingerprint source, at_⟩ = none) :
        (get.step setup cache reply).2.left (get.step setup cache reply).1 < get.left cache := by
      simp only [need?, stage, there, Option.map_some, Option.some.injEq] at needs
      subst needs
      have less := Analysis.left_step going (storesIn _ _ _ _ stage there) fits cache
      rw [step_going setup reply stage there going, now]
      simpa [Get.left, stage, Table.get?_set] using less
    cases at_ with
    | recorded result =>
      rw [step_take setup reply stage there rfl, now]
      cases result <;> simp [Get.left, afterTask, Stage.left]
    | found result =>
      rw [step_record setup reply stage there rfl, now]
      simp [Get.left, stage, tasks_recorded, Stage.left]
    | _ => exact goes_on rfl
  | done result => simp [need?, stage] at needs

/-- A step on another path leaves as much to do. -/
theorem Get.left_other (step : Get.Transition setup cache get reply cache' stage) (sound : cache.Sound)
    (alone : get.Alone cache) (apart : get.identity.path.parts ≠ other.identity.path.parts)
    (beside : other.Alone cache) : other.left cache' = other.left cache := by
  unfold Get.left
  cases at_ : other.stage with
  | waiting source task joined => simp only [step.waited sound alone apart beside at_]
  | _ => rfl

/-- A call that is alone needs something until it has its entry. -/
theorem Get.exists_need (setup : Setup) (alone : get.Alone cache) (missing : get.result? = none) :
    ∃ need, get.need? setup cache = some need := by
  cases stage : get.stage with
  | waiting source task joined =>
    obtain ⟨-, at_, present⟩ := alone.own _ _ _ stage
    simp [Get.need?, stage, present]
  | done result => simp [Get.result?, stage] at missing
  | _ => simp [Get.need?, stage]

end Cache

namespace Engine

open Cache

/-! ## Steps of a call -/

/-- How many steps it takes to write a file, at most. -/
def Artifact.left (artifact : Artifact) : Nat :=
  match artifact.stage with
  | .reading => 3
  | .makingDirs _ => 2
  | .writing => 1

/-- How many steps it takes to publish, at most. -/
def Publication.left (engine : Engine) : Publication → Nat
  | .waiting => engine.registry.list.length + 9
  | .collecting _ rest _ => rest.length + 8
  | .writing _ artifacts => (artifacts.map Artifact.left).sum + 1

/-- How many steps are left of a call that gets all components, at most. -/
def Call.left (engine : Engine) : Call → Nat
  | .getting _ gets => (gets.map (Get.left engine.cache)).sum + engine.registry.list.length + 9
  | .publishing _ publication => publication.left engine
  | _ => 0

/-- How many steps are left of the call with a number, at most. -/
def left (engine : Engine) (id : Nat) : Nat :=
  ((engine.calls.get? id).map (Call.left engine)).getD 0

variable {before engine : Engine} {id index : Nat} {artifact next : Artifact} {need : Need}
  {reply : Reply}

theorem left_of_call {call : Call} (now : engine.calls.get? id = some call) :
    engine.left id = call.left engine := by
  simp only [left, now, Option.map_some, Option.getD_some]

/-- A step leaves less to do for a file. -/
theorem Artifact.left_step (fits : artifact.need.Fits reply)
    (going : artifact.step reply = .going next) : next.left < artifact.left := by
  have replace : artifact.replace.left < 3 := by
    unfold left
    rcases artifact.stage_replace with ⟨dir, stage⟩ | stage <;> simp [stage]
  cases stage : artifact.stage with
  | reading =>
    have now : artifact.left = 3 := by simp only [left, stage]
    simp only [need, stage] at fits
    cases reply with
    | bytes result =>
      cases result with
      | ok bytes =>
        simp only [step, stage] at going
        split at going <;> cases going
        exact now ▸ replace
      | error fault =>
        simp only [step, stage] at going
        cases going
        exact now ▸ replace
    | _ => cases fits
  | makingDirs dir =>
    simp only [need, stage] at fits
    cases reply with
    | done result =>
      cases result with
      | ok _ =>
        simp only [step, stage] at going
        cases going
        simp [left, stage]
      | error cause =>
        simp only [step, stage] at going
        cases going
    | _ => cases fits
  | writing =>
    simp only [need, stage] at fits
    cases reply with
    | done result =>
      cases result <;> simp only [step, stage] at going <;> cases going
    | _ => cases fits

private theorem left_artifacts (engine : Engine) (snapshot : Snapshot) :
    ((engine.artifacts snapshot).map Artifact.left).sum ≤ 6 := by
  unfold artifacts
  split
  · exact Nat.le_refl 6
  · exact Nat.zero_le 6

private theorem left_setCall (engine : Engine) (id : Nat) (call : Call) :
    (engine.setCall id call).left id = call.left (engine.setCall id call) :=
  left_of_call ((calls_setCall ..).trans (if_pos rfl))

private theorem left_finish (engine : Engine) (id : Nat) (result : Except Fault Answer) :
    (engine.finish id result).left id = 0 :=
  left_of_call ((calls_finish ..).trans (if_pos rfl))

private theorem left_deliver (engine : Engine) (id : Nat) (pending : Pending) (snapshot : Snapshot) :
    (engine.deliver id pending snapshot).left id = 0 := by
  rw [deliver_eq]
  exact left_finish ..

/-- Going on with what a call gets takes the steps of the single entries, and publishing. -/
theorem left_withGets (engine : Engine) (id : Nat) (goal : Goal) (gets : List Get)
    (nonempty : gets = [] → ∃ before, goal = .all before) :
    (engine.withGets id goal gets).left id ≤
      (gets.map (Get.left engine.cache)).sum + engine.registry.list.length + 9 := by
  rcases engine.withGets_cases id goal gets with ⟨-, eq⟩ | ⟨-, reason, eq⟩ | ⟨entries, done, eq⟩ <;> rw [eq]
  · exact Nat.le_of_eq (left_setCall ..)
  · exact Nat.le_trans (Nat.le_of_eq (left_finish ..)) (Nat.zero_le _)
  · generalize after : engine.withEntries id entries goal = next
    cases after ▸ engine.withEntries_spec id entries goal with
    | rest kind =>
      obtain ⟨before, all⟩ := nonempty (List.map_eq_nil_iff.mp done)
      exact absurd all (kind before)
    | publish _ =>
      refine Nat.le_trans (Nat.le_of_eq (left_setCall ..)) ?_
      simp only [Call.left, Publication.left]
      exact Nat.add_le_add_right (Nat.le_add_left ..) 9
    | plain => exact Nat.le_trans (Nat.le_of_eq (left_finish ..)) (Nat.zero_le _)

/-! ## The call that gets them -/

/-- How far a call is that gets all components that were registered before. -/
def Call.Fetches (before engine : Engine) : Call → Prop
  | .getting goal gets =>
    (∃ analyses, goal = .all analyses) ∧ before.Beside engine gets ∧ ∃ get ∈ gets, get.result? = none
  | .publishing _ .waiting => engine.publisher? = before.publisher?
  | .publishing .. | .finished _ => True
  | _ => False

/-- A call gets all components that were registered before. -/
def Fetches (before : Engine) (id : Nat) (engine : Engine) : Prop :=
  ∃ call, engine.calls.get? id = some call ∧ call.Fetches before engine

private theorem fetches_setCall {call : Call} (fetches : call.Fetches before (engine.setCall id call)) :
    before.Fetches id (engine.setCall id call) :=
  ⟨call, (calls_setCall ..).trans (if_pos rfl), fetches⟩

private theorem fetches_finish (before engine : Engine) (id : Nat) (result : Except Fault Answer) :
    before.Fetches id (engine.finish id result) :=
  ⟨.finished result, (calls_finish ..).trans (if_pos rfl), trivial⟩

private theorem fetches_deliver (before engine : Engine) (id : Nat) (pending : Pending)
    (snapshot : Snapshot) : before.Fetches id (engine.deliver id pending snapshot) := by
  rw [deliver_eq]
  exact fetches_finish ..

private theorem fetches_withGets {gets : List Get} (beside : before.Beside engine gets) (id : Nat)
    {goal : Goal} (all : ∃ analyses, goal = .all analyses) :
    before.Fetches id (engine.withGets id goal gets) := by
  obtain ⟨analyses, rfl⟩ := all
  rcases engine.withGets_cases id (.all analyses) gets with
    ⟨⟨get, member, missing⟩, eq⟩ | ⟨-, reason, eq⟩ | ⟨entries, -, eq⟩ <;> rw [eq]
  · exact fetches_setCall ⟨⟨_, rfl⟩, beside.setCall .., get, member, missing⟩
  · exact fetches_finish ..
  · exact fetches_setCall beside.still.publisher

/-- The call begins when nothing is on its way. -/
theorem Sound.fetches (sound : engine.Sound)
    (landed : ∀ path, (engine.cache.slot path).inFlight? = none) (id : Nat) :
    engine.Fetches id (engine.start id .parseAll) :=
  fetches_withGets (.begin sound landed) id ⟨_, rfl⟩

/-- Each step takes the call on. -/
theorem Fetches.step (fetches : before.Fetches id engine)
    (distinct : Registry.Distinct before.registry.list) (index : Nat) (reply : Reply) :
    before.Fetches id (engine.step id index reply) := by
  obtain ⟨call, there, phase⟩ := fetches
  have spec := engine.step_spec id index reply
  generalize engine.step id index reply = next at spec
  have same : ∀ {call : Call}, engine.calls.get? id = some call → call.Fetches before engine :=
    fun now => Option.some.inj (there.symm.trans now) ▸ phase
  cases spec with
  | rest => exact ⟨call, there, phase⟩
  | get now this =>
    obtain ⟨all, beside, -⟩ := same now
    obtain ⟨front, back, rfl, set⟩ := exists_split this
    rw [set]
    exact fetches_withGets (beside.step distinct reply) id all
  | reuse _ _ _ => exact fetches_deliver ..
  | deliver _ => exact fetches_deliver ..
  | failed _ _ => exact fetches_finish ..
  | turn _ _ _ => exact fetches_setCall trivial
  | collect _ => exact fetches_setCall trivial
  | publish _ => exact fetches_setCall trivial
  | write _ _ => exact fetches_setCall trivial
  | written _ _ => exact fetches_setCall trivial
  | forget now => exact (same now).elim
  | forgotten now => exact (same now).elim
  | removed now => exact (same now).elim
  | stubThere now _ => exact (same now).elim
  | stubMissing now _ => exact (same now).elim
  | stubWrite now _ => exact (same now).elim
  | stubWritten now _ => exact (same now).elim
  | stubFailed now _ => exact (same now).elim

/-- A step for one of several entries that are got alone leaves less to do for all of them. -/
theorem left_step_among {setup : Setup} {cache : Cache} {front back : List Get} {get : Get}
    (sound : cache.Sound) (alone : ∀ other ∈ front ++ get :: back, other.Alone cache)
    (apart : ∀ other ∈ front ++ back, get.identity.path.parts ≠ other.identity.path.parts)
    (storesIn : get.StoresIn setup cache) (needs : get.need? setup cache = some need)
    (fits : need.Fits reply) :
    ((front ++ (get.step setup cache reply).2 :: back).map
      (Get.left (get.step setup cache reply).1)).sum <
      ((front ++ get :: back).map (Get.left cache)).sum := by
  have mine := alone get (by simp)
  have less := Get.left_step mine storesIn needs fits
  have step := get.step_transition setup cache reply
  have others : (front ++ back).map (Get.left (get.step setup cache reply).1) =
      (front ++ back).map (Get.left cache) := by
    refine List.map_congr_left fun other among => ?_
    exact Get.left_other step sound mine (apart other among)
      (alone other (mem_split_iff.mpr (.inr among)))
  rw [sum_split, sum_split, others]
  exact Nat.add_lt_add_right less _

/-- A step of publishing leaves less to do. -/
theorem left_publishing {pending : Pending} {publication : Publication}
    (now : engine.calls.get? id = some (.publishing pending publication))
    (needs : engine.need? id index = some need)
    (fits : need.Fits reply) :
    (engine.step id index reply).left id < engine.left id := by
  have ends : ∀ pending snapshot,
      (engine.deliver id pending snapshot).left id < publication.left engine := by
    intro pending snapshot
    rw [left_deliver]
    cases publication <;> exact Nat.succ_pos _
  rw [left_of_call now, Call.left]
  simp only [need?, now] at needs
  cases publication with
  | waiting =>
    simp only at needs
    split at needs
    · next free =>
      simp only [Engine.step, now, if_pos free, stepTurn]
      split
      · exact ends ..
      · rw [left_setCall]
        exact Nat.lt_succ_self _
    · cases needs
  | collecting revision rest shown =>
    simp only [Engine.step, now]
    cases rest with
    | nil =>
      simp only [stepCollect, left_setCall, Call.left, Publication.left]
      exact Nat.lt_of_le_of_lt (Nat.succ_le_succ (left_artifacts ..)) (Nat.lt_succ_self 7)
    | cons identity rest => simp [stepCollect, left_setCall, Call.left, Publication.left]
  | writing snapshot artifacts =>
    simp only [Engine.step, now]
    cases artifacts with
    | nil => exact ends ..
    | cons artifact rest =>
      cases needs
      simp only [stepWrite]
      split
      · next going =>
        have less := Artifact.left_step fits going
        simpa [left_setCall, Call.left, Publication.left] using less
      · have some : 0 < artifact.left := by unfold Artifact.left; split <;> decide
        simpa [left_setCall, Call.left, Publication.left] using some
      · rw [left_finish]
        exact Nat.succ_pos _

/-- Each step leaves less to do. -/
theorem Fetches.left_step (fetches : before.Fetches id engine)
    (distinct : Registry.Distinct before.registry.list)
    (needs : engine.need? id index = some need) (fits : need.Fits reply) :
    (engine.step id index reply).left id < engine.left id := by
  obtain ⟨call, there, phase⟩ := fetches
  cases call with
  | getting goal gets =>
    obtain ⟨⟨analyses, rfl⟩, beside, -⟩ := phase
    simp only [need?, there] at needs
    obtain ⟨get, this, own⟩ := Option.bind_eq_some_iff.mp needs
    obtain ⟨front, back, rfl, set⟩ := exists_split this
    have less := left_step_among beside.sound beside.alone
      (fun other among => (beside.apart distinct other among).2) (beside.storesIn get (by simp)) own fits
    simp only [Engine.step, there, stepGet, this, set]
    refine Nat.lt_of_le_of_lt (left_withGets _ _ _ _ (by simp)) ?_
    rw [left_of_call there, Call.left]
    simpa using less
  | publishing pending publication => exact left_publishing there needs fits
  | finished result => simp [need?, there] at needs
  | _ => exact phase.elim

/-- A call takes a step with a reply to what it needs. What it reads are the sources. -/
def Informed (source : Path → Except Files.Fault String) (id : Nat) (engine : Engine) (event : Event) :
    Prop :=
  ∃ index reply need, event = .step id index reply ∧ engine.need? id index = some need ∧
    need.Fits reply ∧ ∀ path, need = .readText path → reply = .text (source path)

/-- What is left to do bounds the steps of the call. -/
theorem Fetches.bounded (fetches : before.Fetches id engine)
    (distinct : Registry.Distinct before.registry.list) {source : Path → Except Files.Fault String}
    {events : List Event} (follows : Follows act (Informed source id) engine events) :
    events.length + (engine.run events).left id ≤ engine.left id := by
  induction events generalizing engine with
  | nil => exact Nat.le_of_eq (Nat.zero_add _)
  | cons event rest ih =>
    obtain ⟨⟨index, reply, need, rfl, needs, fits, -⟩, follows⟩ := follows
    have less : (engine.act (.step id index reply)).left id < engine.left id :=
      fetches.left_step distinct needs fits
    have after : before.Fetches id (engine.act (.step id index reply)) :=
      fetches.step distinct index reply
    have bound := ih after follows
    simp only [List.length_cons, run, List.foldl_cons] at bound ⊢
    omega

/-- While the call has no result, there is a step that it can take, unless another one publishes. -/
theorem Fetches.exists_need (fetches : before.Fetches id engine) (free : before.publisher? = none)
    (going : engine.result? id = none) : ∃ index need, engine.need? id index = some need := by
  obtain ⟨call, there, phase⟩ := fetches
  simp only [need?, there]
  cases call with
  | getting goal gets =>
    obtain ⟨-, beside, get, member, missing⟩ := phase
    obtain ⟨index, this⟩ := List.getElem?_of_mem member
    obtain ⟨need, needs⟩ := Get.exists_need engine.setup (beside.alone get member) missing
    exact ⟨index, need, by simp [this, needs]⟩
  | publishing pending publication =>
    cases publication with
    | waiting =>
      have publisher : engine.publisher? = before.publisher? := phase
      simp [publisher, free]
    | collecting revision rest shown => simp
    | writing snapshot artifacts => cases artifacts <;> simp
  | finished result =>
    rw [result?, there] at going
    cases going
  | _ => exact phase.elim

/-- A call that has its result takes no step. -/
theorem need?_of_result (answered : (engine.result? id).isSome) : engine.need? id index = none := by
  rw [result?] at answered
  cases there : engine.calls.get? id with
  | none => simp [there] at answered
  | some call =>
    rw [there] at answered
    cases call with
    | finished result => simp [need?, there]
    | _ => cases answered

end Engine

end ComponentCatalog
