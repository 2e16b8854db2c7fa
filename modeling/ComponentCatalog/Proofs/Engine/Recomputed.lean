import ComponentCatalog.Proofs.Cache.Launches
import ComponentCatalog.Proofs.Engine.Incidents
import ComponentCatalog.Proofs.Engine.Isolated

/-! # What is analyzed again

Without a store, getting all components starts one analysis for each component whose source can be read
and of which the latest incident is not that just that source was analyzed for just that component. What
was started and what is yet to be started are together the same throughout the call, and at its end
nothing is yet to be started.
-/

namespace ComponentCatalog

open Component

namespace Engine

open Cache

/-! ## What is due -/

/-- The analyses that getting all components is to start. -/
def due (source : Path → Except Files.Fault String) (engine : Engine) : List (Identity × String) :=
  engine.registry.list.filterMap fun identity => Get.due? source engine.cache { identity }

/-- The components whose source can be read and of which the latest incident is not that just that
source was analyzed for just that component; with their sources. -/
def outdated (source : Path → Except Files.Fault String) (log : List Incident)
    (components : List Identity) : List (Identity × String) :=
  components.filterMap fun identity =>
    match source identity.path with
    | .ok text =>
      if Incident.lastOn identity.path log = some (.analyzed identity text) then none
      else some (identity, text)
    | .error _ => none

variable {source : Path → Except Files.Fault String} {before engine : Engine} {log : List Incident}

/-- What is due is what is outdated. -/
theorem Remembers.due_eq (remembers : engine.Remembers log)
    (free : ∀ identity ∈ engine.registry.list, ∀ text, source identity.path = .ok text →
      ∀ other earlier, .analyzed other earlier ∈ log →
        Digest.digest128 (Fingerprint.hashed other.path earlier) =
          Digest.digest128 (Fingerprint.hashed identity.path text) →
        Fingerprint.hashed other.path earlier = Fingerprint.hashed identity.path text) :
    engine.due source = outdated source log engine.registry.list := by
  refine List.filterMap_congr fun identity member => ?_
  cases read : source identity.path with
  | error fault => simp only [Get.due?, read, Except.toOption, Option.bind_none]
  | ok text =>
    have known := remembers.hit?_isSome_iff (free identity member text read)
    simp only [Get.due?, read, Except.toOption, Option.bind_some, missing?]
    split
    · next hit =>
      rw [hit] at known
      rw [if_pos (known.mp rfl)]
    · next miss =>
      rw [miss] at known
      rw [if_neg fun latest => absurd (known.mpr latest) Bool.false_ne_true]

/-- No component is outdated twice. -/
theorem nodup_outdated {components : List Identity} (distinct : Registry.Distinct components)
    (source : Path → Except Files.Fault String) (log : List Incident) :
    ((outdated source log components).map Prod.fst).Nodup := by
  have sub : List.Sublist ((outdated source log components).map Prod.fst) components := by
    unfold outdated
    induction components with
    | nil => exact .slnil
    | cons identity rest ih =>
      have others := ih (List.pairwise_cons.mp distinct).2
      rw [List.filterMap_cons]
      split
      · exact others.cons _
      · next launch picked =>
        have own : launch.1 = identity := by
          split at picked
          · split at picked <;> cases picked
            rfl
          · cases picked
        rw [List.map_cons, own]
        exact others.cons_cons _
  exact (List.Nodup.of_map _ distinct.names).sublist sub

/-! ## Account of what is started -/

/-- What was started and asked since a call began to get all components, and what is yet to be. -/
structure Launched (source : Path → Except Files.Fault String) (before engine : Engine)
    (gets : List Get) : Prop where
  later : before.cache.nextTask ≤ engine.cache.nextTask
  launches : List.Perm (engine.cache.launches before.cache.nextTask ++
    gets.filterMap (Get.due? source engine.cache)) (before.due source)
  asked : engine.cache.analyses +
      (gets.filterMap (Get.toAsk? engine.setup source engine.cache)).length =
    before.cache.analyses + (before.due source).countP before.setup.asks

variable {gets front back : List Get} {get : Get} {reply : Reply}

/-- Nothing was started before. -/
theorem Launched.begin (sound : engine.Sound) (source : Path → Except Files.Fault String) :
    engine.Launched source engine (engine.registry.list.map fun identity => { identity }) where
  later := Nat.le_refl _
  launches := by
    have none : engine.cache.launches engine.cache.nextTask = [] := by
      refine List.filterMap_eq_nil_iff.mpr fun task member => if_neg ?_
      obtain ⟨analysis, there⟩ := Option.isSome_iff_exists.mp (Table.isSome_get?_of_mem member)
      exact Nat.not_le_of_lt (sound.cache.numbered there)
    rw [none, List.nil_append, List.filterMap_map]
    exact .refl _
  asked := by
    rw [List.countP_eq_length_filter, due, List.filter_filterMap, List.filterMap_map]
    rfl

/-- A step for one of the entries keeps the account. -/
theorem Launched.step (launched : before.Launched source engine (front ++ get :: back))
    (beside : before.Beside engine (front ++ get :: back))
    (distinct : Registry.Distinct before.registry.list) (storeless : before.setup.store? = none)
    (reads : get.Reads source reply) :
    before.Launched source { engine with cache := (get.step engine.setup engine.cache reply).1 }
      (front ++ (get.step engine.setup engine.cache reply).2 :: back) := by
  have step := get.step_transition engine.setup engine.cache reply
  have mine := beside.alone get (by simp)
  rw [get.step_snd]
  generalize (get.step engine.setup engine.cache reply).1 = cache at step ⊢
  generalize (get.step engine.setup engine.cache reply).2.stage = stage at step ⊢
  have apart := fun other among => (beside.apart distinct other among).2
  have alone := fun (other : Get) (among : other ∈ front ++ back) =>
    beside.alone other (mem_split_iff.mpr (.inr among))
  have due : (front ++ back).filterMap (Get.due? source cache) =
      (front ++ back).filterMap (Get.due? source engine.cache) :=
    List.filterMap_congr fun other among => step.due?_other beside.sound mine (apart other among)
  have toAsk : (front ++ back).filterMap (Get.toAsk? engine.setup source cache) =
      (front ++ back).filterMap (Get.toAsk? engine.setup source engine.cache) :=
    List.filterMap_congr fun other among =>
      step.toAsk?_other beside.sound mine (apart other among) (alone other among)
  refine ⟨Nat.le_trans launched.later (step.grows beside.sound).nextTask, ?_, ?_⟩
  · calc List.Perm _ (cache.launches before.cache.nextTask ++
          ((Get.due? source cache { get with stage }).toList ++
            (front ++ back).filterMap (Get.due? source cache))) :=
          (filterMap_split _).append_left _
      List.Perm _ (engine.cache.launches before.cache.nextTask ++
          ((get.due? source engine.cache).toList ++
            (front ++ back).filterMap (Get.due? source engine.cache))) := by
          rw [due, ← List.append_assoc, ← List.append_assoc,
            step.launches_append beside.sound mine launched.later reads]
      List.Perm _ (engine.cache.launches before.cache.nextTask ++
          (front ++ get :: back).filterMap (Get.due? source engine.cache)) :=
          (filterMap_split _).symm.append_left _
      List.Perm _ (before.due source) := launched.launches
  · have own := step.analyses_add (beside.still.setup ▸ storeless) mine reads
    have asked := launched.asked
    rw [(filterMap_split _).length_eq, List.length_append] at asked ⊢
    simp only [toAsk]
    omega

/-- Nothing is yet to be started once all entries are there. -/
theorem Launched.done (launched : before.Launched source engine gets)
    (got : ∀ get ∈ gets, ∃ result, get.stage = .done result) : before.Launched source engine [] := by
  have none : gets.filterMap (Get.due? source engine.cache) = [] := by
    refine List.filterMap_eq_nil_iff.mpr fun get member => ?_
    obtain ⟨result, stage⟩ := got get member
    simp only [Get.due?, stage]
  have none' : gets.filterMap (Get.toAsk? engine.setup source engine.cache) = [] := by
    refine List.filterMap_eq_nil_iff.mpr fun get member => ?_
    obtain ⟨result, stage⟩ := got get member
    simp only [Get.toAsk?, Get.due?, stage, Option.filter_none]
  refine ⟨launched.later, ?_, ?_⟩
  · have launches := launched.launches
    rwa [none] at launches
  · have asked := launched.asked
    rwa [none'] at asked

/-- Publishing starts nothing. -/
theorem Launched.of_eq (launched : before.Launched source engine []) {next : Engine}
    (tasks : next.cache.tasks = engine.cache.tasks)
    (nextTask : next.cache.nextTask = engine.cache.nextTask)
    (analyses : next.cache.analyses = engine.cache.analyses) : before.Launched source next [] := by
  refine ⟨nextTask ▸ launched.later, ?_, ?_⟩
  · rw [launches_congr tasks]
    exact launched.launches
  · rw [analyses]
    exact launched.asked

/-! ## The call -/

/-- The account of a call that gets all components of an engine. -/
def Call.Launches (source : Path → Except Files.Fault String) (before engine : Engine) : Call → Prop
  | .getting _ gets => before.Launched source engine gets
  | .publishing .. | .finished _ => before.Launched source engine []
  | _ => False

/-- A call gets all components of an engine, and the account of what it starts is kept. -/
structure Recomputes (source : Path → Except Files.Fault String) (before : Engine) (id : Nat)
    (engine : Engine) : Prop where
  fetches : before.Fetches id engine
  launches : ∃ call, engine.calls.get? id = some call ∧ call.Launches source before engine

variable {id : Nat}

private theorem launches_setCall {call : Call}
    (launches : call.Launches source before (engine.setCall id call)) :
    ∃ call', (engine.setCall id call).calls.get? id = some call' ∧
      call'.Launches source before (engine.setCall id call) :=
  ⟨call, (calls_setCall ..).trans (if_pos rfl), launches⟩

private theorem launches_finish (launched : before.Launched source engine [])
    (result : Except Fault Answer) :
    ∃ call, (engine.finish id result).calls.get? id = some call ∧
      call.Launches source before (engine.finish id result) :=
  ⟨.finished result, (calls_finish ..).trans (if_pos rfl), launched.of_eq rfl rfl rfl⟩

private theorem launches_deliver (launched : before.Launched source engine []) (pending : Pending)
    (snapshot : Snapshot) :
    ∃ call, (engine.deliver id pending snapshot).calls.get? id = some call ∧
      call.Launches source before (engine.deliver id pending snapshot) := by
  rw [deliver_eq]
  refine launches_finish ?_ _
  exact launched.of_eq rfl rfl rfl

private theorem launches_withGets (launched : before.Launched source engine gets) {goal : Goal}
    (all : ∃ analyses, goal = .all analyses) :
    ∃ call, (engine.withGets id goal gets).calls.get? id = some call ∧
      call.Launches source before (engine.withGets id goal gets) := by
  have done : ∀ {results : List (Except String Entry)}, gets.map Get.stage = results.map Get.Stage.done →
      before.Launched source engine [] := by
    intro results same
    refine launched.done fun get member => ?_
    have there := List.mem_map_of_mem (f := Get.stage) member
    rw [same] at there
    obtain ⟨result, -, stage⟩ := List.mem_map.mp there
    exact ⟨result, stage.symm⟩
  obtain ⟨analyses, rfl⟩ := all
  rcases engine.withGets_cases id (.all analyses) gets with
    ⟨-, eq⟩ | ⟨⟨results, same⟩, reason, eq⟩ | ⟨entries, same, eq⟩ <;> rw [eq]
  · exact launches_setCall ⟨launched.later, launched.launches, launched.asked⟩
  · exact launches_finish (done same) _
  · have each : gets.map Get.stage = (entries.map Except.ok).map Get.Stage.done := by
      rw [same, List.map_map]
      rfl
    exact launches_setCall ((done each).of_eq rfl rfl rfl)

/-- The call begins when nothing is on its way. -/
theorem Sound.recomputes (sound : engine.Sound)
    (landed : ∀ path, (engine.cache.slot path).inFlight? = none)
    (source : Path → Except Files.Fault String) (id : Nat) :
    engine.Recomputes source id (engine.start id .parseAll) :=
  ⟨sound.fetches landed id, launches_withGets (.begin sound source) ⟨_, rfl⟩⟩

/-- Each step keeps the account. -/
theorem Recomputes.act (recomputes : before.Recomputes source id engine)
    (distinct : Registry.Distinct before.registry.list) (storeless : before.setup.store? = none)
    {event : Event} (informed : engine.Informed source id event) :
    before.Recomputes source id (engine.act event) := by
  obtain ⟨index, reply, need, rfl, needs, -, reads⟩ := informed
  refine ⟨recomputes.fetches.step distinct index reply, ?_⟩
  obtain ⟨call, there, phase⟩ := recomputes.fetches
  obtain ⟨_, there', account⟩ := recomputes.launches
  cases there.symm.trans there'
  have spec := engine.step_spec id index reply
  rw [Engine.act]
  generalize engine.step id index reply = next at spec
  have same : ∀ {call' : Call}, engine.calls.get? id = some call' →
      call'.Fetches before engine ∧ call'.Launches source before engine := by
    intro call' now
    cases there.symm.trans now
    exact ⟨phase, account⟩
  cases spec with
  | rest => exact ⟨call, there, account⟩
  | @get goal gets get now this =>
    obtain ⟨⟨all, beside, -⟩, launched⟩ := same now
    have own : get.need? engine.setup engine.cache = some need := by
      simpa only [need?, now, this, Option.bind_some] using needs
    have informed : get.Reads source reply := by
      intro reading result replied
      have path : need = .readText get.identity.path := by
        simpa [Get.need?, reading] using own.symm
      exact Reply.text.inj (replied.symm.trans (reads _ path))
    obtain ⟨front, back, rfl, set⟩ := exists_split this
    rw [set]
    exact launches_withGets (launched.step beside distinct storeless informed) all
  | reuse now _ _ => exact launches_deliver (same now).2 _ _
  | deliver now => exact launches_deliver (same now).2 _ _
  | failed now _ => exact launches_finish (same now).2 _
  | turn now _ _ => exact launches_setCall ((same now).2.of_eq rfl rfl rfl)
  | collect now => exact launches_setCall ((same now).2.of_eq rfl rfl rfl)
  | publish now => exact launches_setCall ((same now).2.of_eq rfl rfl rfl)
  | write now _ => exact launches_setCall ((same now).2.of_eq rfl rfl rfl)
  | written now _ => exact launches_setCall ((same now).2.of_eq rfl rfl rfl)
  | forget now => exact (same now).1.elim
  | forgotten now => exact (same now).1.elim
  | removed now => exact (same now).1.elim
  | stubThere now _ => exact (same now).1.elim
  | stubMissing now _ => exact (same now).1.elim
  | stubWrite now _ => exact (same now).1.elim
  | stubWritten now _ => exact (same now).1.elim
  | stubFailed now _ => exact (same now).1.elim

/-- There is a reply to every need. -/
theorem Need.exists_reply (source : Path → Except Files.Fault String) (need : Need) :
    ∃ reply, need.Fits reply ∧ ∀ path, need = .readText path → reply = .text (source path) := by
  cases need with
  | nothing => exact ⟨.nothing, trivial, by simp⟩
  | readText path => exact ⟨.text (source path), trivial, by simp⟩
  | readBytes path => exact ⟨.bytes (.error .missing), trivial, by simp⟩
  | describe task request => exact ⟨.answered .late 0, trivial, by simp⟩
  | look path => exact ⟨.there false, trivial, by simp⟩
  | _ => exact ⟨.done (.ok ()), trivial, by simp⟩

/-- While the call has no result, there is a step that it can take. -/
theorem Recomputes.exists_informed (recomputes : before.Recomputes source id engine)
    (free : before.publisher? = none) (going : engine.result? id = none) :
    ∃ event, engine.Informed source id event := by
  obtain ⟨index, need, needs⟩ := recomputes.fetches.exists_need free going
  obtain ⟨reply, fits, reads⟩ := Need.exists_reply source need
  exact ⟨_, index, reply, need, rfl, needs, fits, reads⟩

/-- With the result nothing is yet to be started. -/
theorem Recomputes.of_result (recomputes : before.Recomputes source id engine)
    (answered : (engine.result? id).isSome) : before.Launched source engine [] := by
  obtain ⟨call, there, launched⟩ := recomputes.launches
  rw [result?, there, Option.bind_some] at answered
  cases call with
  | finished result => exact launched
  | _ => cases answered

/-- While calls follow one another and there is no store, every call that gets all components comes to a
result. It then has started one analysis for each component whose source can be read and of which the latest
incident is not that just that source was analyzed for just that component, and no other one; and it has
asked the analyzer once for each of them that the steps let pass. -/
theorem parseAll_recomputes {created : Engine} (new : created.Created) {events : List Event}
    (follows : Follows act OneByOne created events) (idle : (created.run events).Idle)
    (storeless : (created.run events).setup.store? = none)
    (source : Path → Except Files.Fault String)
    (free : ∀ identity ∈ (created.run events).registry.list, ∀ text,
      source identity.path = .ok text → ∀ other earlier,
      .analyzed other earlier ∈ created.incidents events →
      Digest.digest128 (Fingerprint.hashed other.path earlier) =
        Digest.digest128 (Fingerprint.hashed identity.path text) →
      Fingerprint.hashed other.path earlier = Fingerprint.hashed identity.path text) (id : Nat) :
    let engine := created.run events
    let due := outdated source (created.incidents events) engine.registry.list
    (due.map Prod.fst).Nodup ∧
    ∃ bound, ∀ steps, Follows act (Informed source id) (engine.start id .parseAll) steps →
      steps.length ≤ bound ∧
      let after := (engine.start id .parseAll).run steps
      (after.result? id = none ∧ ∃ event, after.Informed source id event) ∨
      (after.result? id).isSome ∧ (after.cache.launches engine.cache.nextTask).Perm due ∧
        after.cache.analyses = engine.cache.analyses + due.countP engine.setup.asks := by
  obtain ⟨_, _, orderly⟩ : ∃ other call, (created.run events).Orderly other call := by
    obtain ⟨_, _, _, _, _, rfl⟩ := new
    exact Serial.orderly ⟨_, _, _, _, _, events, follows, rfl⟩
  have landed := (orderly.idle idle id (.ok .nothing)).landed (by simp)
  have publisher := (new.attended_run follows).publisher_of_idle idle
  have remembers := remembers_run new.orderly new.remembers follows
  rw [List.nil_append] at remembers
  intro engine due
  refine ⟨nodup_outdated orderly.distinct .., (engine.start id .parseAll).left id, ?_⟩
  intro steps informed
  have begun := orderly.sound.recomputes landed source id
  have bound := begun.fetches.bounded orderly.distinct informed
  have recomputes := informed.preserves
    (fun _ _ recomputes told => Recomputes.act recomputes orderly.distinct storeless told) begun
  refine ⟨Nat.le_trans (Nat.le_add_right ..) bound, ?_⟩
  intro after
  cases answered : after.result? id with
  | none => exact .inl ⟨rfl, recomputes.exists_informed publisher answered⟩
  | some result =>
    have launched := recomputes.of_result (Option.isSome_of_eq_some answered)
    have launches := launched.launches
    have asked := launched.asked
    rw [remembers.due_eq free] at launches asked
    rw [List.filterMap_nil, List.append_nil] at launches
    exact .inr ⟨rfl, launches, asked⟩

/-- Two components become known and are got. One of them cannot be parsed, and for the other one there is
no analyzer. -/
def strandedEvents : List Event :=
  pairing ++ .start 1 .parseAll :: strandedRun.map Site.Change.event

/-- Both are being got again. -/
def strandedSite : Site := ⟨(bareEngine.run strandedEvents).start 2 .parseAll, fun _ => none⟩

/-- Both are got again, with the same sources. -/
def strandedAgain : List Event :=
  (strandedSite.served stranded 2 [0, 0, 1, 1, 1, 1, 1, 1]).map Site.Change.event

private theorem follows_strandedEvents : Follows act OneByOne bareEngine strandedEvents := by
  refine Follows.append ⟨?_, trivial, trivial, trivial, trivial, trivial, trivial, trivial⟩
    ⟨idle_pair, ?_⟩
  · rintro _ _ ⟨⟩
  · refine (Site.follows_events (Site.follows_served stranded True 1 (pairUnder pair.setup) _)).mono ?_
    rintro _ _ ⟨_, _, _, rfl, -⟩
    trivial

/-- Both are known then, and one of them was analyzed. -/
private theorem run_strandedEvents :
    (bareEngine.run strandedEvents).registry.list =
        [⟨"Card", ⟨"/Card.vue"⟩, false⟩, ⟨"Menu", ⟨"/Menu.vue"⟩, false⟩] ∧
      bareEngine.incidents strandedEvents = [.analyzed ⟨"Card", ⟨"/Card.vue"⟩, false⟩ ""] := by
  decide +kernel

/-- The fingerprints of the two components differ. -/
private theorem free_strandedEvents (identity : Identity)
    (known : identity ∈ (bareEngine.run strandedEvents).registry.list) (text : String)
    (read : stranded.source identity.path = .ok text) (other : Identity) (earlier : String)
    (analyzed : .analyzed other earlier ∈ bareEngine.incidents strandedEvents)
    (same : Digest.digest128 (Fingerprint.hashed other.path earlier) =
      Digest.digest128 (Fingerprint.hashed identity.path text)) :
    Fingerprint.hashed other.path earlier = Fingerprint.hashed identity.path text := by
  have apart : Digest.digest128 (Fingerprint.hashed ⟨"/Card.vue"⟩ "") ≠
      Digest.digest128 (Fingerprint.hashed ⟨"/Menu.vue"⟩ "") := by decide +kernel
  rw [run_strandedEvents.2] at analyzed
  rw [run_strandedEvents.1] at known
  cases List.mem_singleton.mp analyzed
  cases read
  rcases List.mem_cons.mp known with rfl | later
  · rfl
  · cases List.mem_singleton.mp later
    exact absurd same apart

/-- The component that could not be parsed is not analyzed again; the one without an analyzer is. -/
theorem parseAll_recomputes_stranded :
    let before := bareEngine.run strandedEvents
    let after := (before.start 2 .parseAll).run strandedAgain
    (after.cache.launches before.cache.nextTask).Perm [(⟨"Menu", ⟨"/Menu.vue"⟩, false⟩, "")] ∧
      after.cache.analyses = before.cache.analyses + 1 := by
  have new : bareEngine.Created := ⟨_, _, _, _, _, rfl⟩
  obtain ⟨-, bound, runs⟩ := parseAll_recomputes new follows_strandedEvents
    (idle_of_all (by decide +kernel)) (Option.isNone_iff_eq_none.mp (by decide +kernel))
    stranded.source free_strandedEvents 2
  have answered : ((strandedSite.engine.run strandedAgain).result? 2).isSome := by decide +kernel
  have due : outdated stranded.source (bareEngine.incidents strandedEvents)
      (bareEngine.run strandedEvents).registry.list =
        [(⟨"Menu", ⟨"/Menu.vue"⟩, false⟩, "")] := by
    rw [run_strandedEvents.1, run_strandedEvents.2]
    decide +kernel
  rw [due] at runs
  rcases (runs strandedAgain (Site.follows_events (Site.follows_served stranded True 2 strandedSite _))).2
    with ⟨going, -⟩ | ⟨-, launches, asked⟩
  · exact absurd going (Option.isSome_iff_ne_none.mp answered)
  · have passes : (bareEngine.run strandedEvents).setup.asks
        (⟨"Menu", ⟨"/Menu.vue"⟩, false⟩, "") = true := by decide +kernel
    rw [List.countP_singleton, if_pos passes] at asked
    exact ⟨launches, asked⟩

end Engine

end ComponentCatalog
