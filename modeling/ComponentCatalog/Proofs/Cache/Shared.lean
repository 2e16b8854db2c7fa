import ComponentCatalog.Proofs.Cache.World
import ComponentCatalog.Proofs.Component.Registry

/-! # Calls that share one analysis

While the file of a component keeps its content and its slot is left alone, calls for the component
share what comes of it: whoever looks up joins the analysis on its way, hits the entry it left, or
starts one, which is the only one. `Shares` is the invariant that every move preserves.
-/

namespace ComponentCatalog

open Component

namespace Cache

/-- A task that was started for a path since a number was the next one. -/
def StartedOn (cache : Cache) (since : Nat) (path : Path) (task : Nat) : Prop :=
  since ≤ task ∧ ∃ analysis, cache.tasks.get? task = some analysis ∧
    analysis.identity.path.parts = path.parts

/-- What is on its way to the slot of a component is an analysis of it. -/
def FliesFor (cache : Cache) (identity : Identity) : Prop :=
  ∀ flight analysis, (cache.slot identity.path).inFlight? = some flight →
    cache.tasks.get? flight.task = some analysis → analysis.identity.same identity = true

/-- All calls on a path have ended. -/
def Session.Quiet (session : Session) (path : Path) : Prop :=
  ∀ id get, session.get? id = some get → get.identity.path.parts = path.parts →
    ∃ result, get.stage = .done result

namespace World

variable (world : World) (setup : Setup) (identity : Identity) (content : Except Files.Fault String)

/-- The entry of a component whose file has a content. -/
def entryOf? : Except Files.Fault String → Option Entry
  | .ok text => (world.outcome? setup identity text).map fun outcome =>
      ⟨identity, some (Fingerprint.compute identity.path text), outcome⟩
  | .error fault => some (unreadableEntry identity fault)

/-- What a call came by that was made while the file of its component has a content. -/
structure Serves (cache : Cache) (get : Get) : Prop where
  own : get.identity = identity
  source : ∀ source, get.source? = some source → content = .ok source
  waits : ∀ source task joined, get.stage = .waiting source task joined →
    ∃ analysis, cache.tasks.get? task = some analysis ∧ analysis.identity.same identity = true
  done : ∀ result, get.stage = .done result →
    ∃ entry, result = .ok entry ∧ world.entryOf? setup identity content = some entry

/-- What was started since a number was next is one analysis, and it is on its way or has left its
entry in the slot. -/
structure Single (since : Nat) (cache : Cache) : Prop where
  flies : cache.FliesFor identity
  fresh : ∀ {task}, cache.StartedOn since identity.path task → ∃ text, content = .ok text ∧
    ((cache.slot identity.path).inFlight? =
        some ⟨task, Fingerprint.compute identity.path text, false⟩ ∨
      ((cache.slot identity.path).inFlight? = none ∧
        ((cache.slot identity.path).hit? identity
          (Fingerprint.compute identity.path text)).isSome))
  one : ∀ {task other}, cache.StartedOn since identity.path task →
    cache.StartedOn since identity.path other → task = other

/-- Calls on the path of a component were made before the first of a number and have ended, or are
served since. -/
structure Shares (since first : Nat) (session : Session) : Prop where
  single : Single identity content since session.cache
  made : first ≤ session.calls.length
  ended : ∀ {id get}, session.get? id = some get →
    get.identity.path.parts = identity.path.parts → id < first → ∃ result, get.stage = .done result
  served : ∀ {id get}, session.get? id = some get →
    get.identity.path.parts = identity.path.parts → first ≤ id →
      world.Serves setup identity content session.cache get

/-- The file of a component keeps its content, all calls on its path are for the component, and its
slot is left alone. -/
def Keeps (session : Session) (next : Move) : Prop :=
  world.Admits setup session next ∧
  match next with
  | .call other => other.path.parts = identity.path.parts → other = identity
  | .step id reply => ∀ get result, session.get? id = some get →
      get.identity.path.parts = identity.path.parts → get.stage = .reading →
        reply = .text result → result = content
  | .drop _ | .snapshot _ => True
  | .invalidate path | .remove path => path.parts ≠ identity.path.parts
  | .invalidateAll => False

variable {world setup identity content}

/-! ## One entry -/

theorem exists_entry (world : World) (setup : Setup) (identity : Identity)
    (content : Except Files.Fault String) :
    ∃ entry, world.entryOf? setup identity content = some entry := by
  cases content with
  | ok text =>
    obtain ⟨outcome, found⟩ := world.exists_outcome setup identity text
    exact ⟨_, by rw [entryOf?, found, Option.map_some]⟩
  | error fault => exact ⟨_, rfl⟩

/-- An analysis of the component for the fingerprint of a text came to the entry of that text. -/
private theorem entryOf?_of_analysis {analysis : Analysis} {text : String} {entry : Entry}
    (sound : analysis.Sound) (explains : world.Explains setup analysis)
    (holds : world.holds identity.path text) (same : analysis.identity.same identity = true)
    (found : analysis.result? = some (.ok entry))
    (hashed : entry.fingerprint? = some (Fingerprint.compute identity.path text)) :
    world.entryOf? setup identity (.ok text) = some entry := by
  obtain ⟨outcome, rfl⟩ := sound.found entry found
  have print : analysis.fingerprint = Fingerprint.compute identity.path text :=
    Option.some.inj hashed
  obtain ⟨path, source⟩ := world.apart explains.holds holds (sound.hashed.symm.trans print)
  have own := Identity.eq_of_same same path
  have outcome? : analysis.outcome? = some outcome := by
    unfold Analysis.result? at found
    unfold Analysis.outcome?
    split at found
    · next result stage =>
      cases found
      rw [stage]
      rfl
    · next result stage =>
      cases found
      rw [stage]
      rfl
    · cases found
  have comes := explains.outcome outcome outcome?
  rw [own, source] at comes
  simp only [entryOf?, comes, Option.map_some, Analysis.entry, print, own]

/-- What hits the slot of the component is the entry of the text. -/
private theorem entryOf?_of_hit {cache : Cache} (sound : cache.Sound)
    (each : ∀ {task analysis}, cache.tasks.get? task = some analysis →
      world.Explains setup analysis) {text : String} (holds : world.holds identity.path text)
    {entry : Entry} (hit : (cache.slot identity.path).hit? identity
      (Fingerprint.compute identity.path text) = some entry) :
    world.entryOf? setup identity (.ok text) = some entry := by
  obtain ⟨held, last, same⟩ := Slot.hit?_eq_some hit
  obtain ⟨shown, last', hashed⟩ := (sound.slot identity.path).held _ held
  cases last.symm.trans last'
  rcases (sound.slot identity.path).last entry last with
    ⟨other, fault, -, rfl⟩ | ⟨task, analysis, present, -, recorded⟩
  · cases hashed
  · have found := Analysis.result?_of_recorded recorded
    obtain ⟨outcome, rfl⟩ := (sound.analyses present).found entry found
    exact entryOf?_of_analysis (sound.analyses present) (each present) holds same found hashed

/-! ## One analysis -/

section

variable {cache cache' : Cache} {get : Get} {reply : Reply} {stage : Get.Stage} {since task : Nat}

/-- A task was started before a step, or is the one that the step starts. -/
private theorem startedOn_before (step : Get.Transition setup cache get reply cache' stage)
    {path : Path} (started : cache'.StartedOn since path task) :
    cache.StartedOn since path task ∨
      task = cache.nextTask ∧ get.identity.path.parts = path.parts ∧
      ∃ source, get.stage = .looking source ∧ (cache.slot path).inFlight? = none ∧
        (cache.slot path).hit? get.identity (get.fingerprint source) = none ∧
        cache'.slot path = { cache.slot path with
          inFlight? := some ⟨cache.nextTask, get.fingerprint source, false⟩ } := by
  obtain ⟨younger, later, there, parts⟩ := started
  cases step with
  | unreadable _ _ => exact .inl ⟨younger, later, by simpa using there, parts⟩
  | @start source looking idle miss =>
    rw [tasks_launched] at there
    split at there
    · next same =>
      cases there
      have slot := slot?_launched cache path get.identity (get.fingerprint source) source
      rw [if_pos parts, slot_congr cache parts] at slot
      rw [slot_congr cache parts] at idle miss
      exact .inr ⟨same.symm, parts, source, looking, idle, miss, slot_eq _ slot⟩
    · exact .inl ⟨younger, later, there, parts⟩
  | @work _ _ _ analysis _ _ _ _ present _ _ _ _ =>
    simp only [Table.get?_set] at there
    split at there
    · next same =>
      cases there
      exact .inl ⟨younger, analysis, same ▸ present, parts⟩
    · exact .inl ⟨younger, later, there, parts⟩
  | @record _ _ _ analysis _ _ present _ =>
    rw [tasks_recorded] at there
    split at there
    · next same =>
      cases there
      exact .inl ⟨younger, analysis, same ▸ present, parts⟩
    · exact .inl ⟨younger, later, there, parts⟩
  | _ => exact .inl ⟨younger, later, there, parts⟩

/-- What is known of a call that takes a step on the path of the component. -/
private structure Steps (world : World) (setup : Setup) (identity : Identity)
    (content : Except Files.Fault String) (cache : Cache) (get : Get) (reply : Reply) : Prop where
  serves : world.Serves setup identity content cache get
  reads : ∀ result, get.stage = .reading → reply = .text result → result = content

/-- A call that is about to start an analysis starts the first one. -/
private theorem Steps.not_started (mine : Steps world setup identity content cache get reply)
    (single : Single identity content since cache) {source : String}
    (looking : get.stage = .looking source)
    (idle : (cache.slot identity.path).inFlight? = none)
    (miss : (cache.slot identity.path).hit? get.identity (get.fingerprint source) = none) :
    ¬ cache.StartedOn since identity.path task := by
  intro started
  have known := mine.serves.source source (by simp only [Get.source?, looking])
  rw [Get.fingerprint, mine.serves.own] at miss
  obtain ⟨_, known', flying | ⟨-, hit⟩⟩ := single.fresh started
  · cases flying.symm.trans idle
  · cases known.symm.trans known'
    rw [miss] at hit
    cases hit

private theorem Single.flies_step (single : Single identity content since cache)
    (sound : cache.Sound) (waits : get.Sound cache)
    (step : Get.Transition setup cache get reply cache' stage)
    (own : get.identity.path.parts = identity.path.parts → get.identity = identity)
    {flight : InFlight} {later : Analysis}
    (flying : (cache'.slot identity.path).inFlight? = some flight)
    (there : cache'.tasks.get? flight.task = some later) : later.identity.same identity = true := by
  have kept : (cache.slot identity.path).inFlight? = some flight →
      later.identity.same identity = true := by
    intro before
    obtain ⟨analysis, present, -⟩ := (sound.slot identity.path).flight flight before
    obtain ⟨after, there', goes⟩ := (step.grows sound).tasks present
    cases there.symm.trans there'
    rw [goes.identity]
    exact single.flies _ _ before present
  cases step.slotChange identity.path with
  | kept same => exact kept (same ▸ flying)
  | unreadable _ _ _ _ now => simp [now, Slot.unreadable] at flying
  | started parts _ _ _ now waiting =>
    rw [now] at flying
    cases flying
    obtain ⟨analysis, there', -, mine⟩ :=
      (step.get_sound sound waits).waits _ _ _ waiting
    cases there.symm.trans there'
    rw [(mine rfl).1, own parts]
    exact Identity.same_refl identity
  | recorded _ _ _ now _ => simp [now, Slot.recorded] at flying
  | landed _ _ _ now _ => simp [now, Slot.landed] at flying

private theorem Single.fresh_step (single : Single identity content since cache)
    (sound : cache.Sound)
    (each : ∀ {task analysis}, cache.tasks.get? task = some analysis →
      world.Explains setup analysis)
    (step : Get.Transition setup cache get reply cache' stage)
    (mine : get.identity.path.parts = identity.path.parts →
      Steps world setup identity content cache get reply)
    (started : cache'.StartedOn since identity.path task) : ∃ text, content = .ok text ∧
      ((cache'.slot identity.path).inFlight? =
          some ⟨task, Fingerprint.compute identity.path text, false⟩ ∨
        ((cache'.slot identity.path).inFlight? = none ∧
          ((cache'.slot identity.path).hit? identity
            (Fingerprint.compute identity.path text)).isSome)) := by
  rcases startedOn_before step started with
    before | ⟨rfl, parts, source, looking, idle, miss, now⟩
  · obtain ⟨text, same, there⟩ := single.fresh before
    refine ⟨text, same, ?_⟩
    cases step.slotChange identity.path with
    | kept slot =>
      rw [slot]
      exact there
    | unreadable parts reading reply _ _ =>
      cases (mine parts).reads _ reading reply
      cases same
    | @started source parts looking idle miss _ _ =>
      exact absurd before ((mine parts).not_started single looking idle miss)
    | @recorded flight analysis entry flying present found now _ =>
      rcases there with flown | ⟨idle, -⟩
      · cases flying.symm.trans flown
        have same := single.flies _ _ flown present
        obtain ⟨outcome, rfl⟩ := (sound.analyses present).found entry
          (Analysis.result?_of_found found)
        refine .inr ⟨by rw [now]; rfl, ?_⟩
        simp [now, Slot.recorded, Slot.hit?, Analysis.entry, Option.filter, same]
      · cases flying.symm.trans idle
    | @landed flight analysis reason _ present found _ _ =>
      exact absurd ⟨reason, Analysis.result?_of_found found⟩ (each present).available
  · have serves := (mine parts).serves
    have known := serves.source source (by simp only [Get.source?, looking])
    refine ⟨source, known, .inl ?_⟩
    rw [now, Get.fingerprint, serves.own]

/-- Every step of a call preserves it. -/
private theorem Single.step (single : Single identity content since cache)
    (sound : cache.Sound) (waits : get.Sound cache)
    (each : ∀ {task analysis}, cache.tasks.get? task = some analysis →
      world.Explains setup analysis)
    (step : Get.Transition setup cache get reply cache' stage)
    (mine : get.identity.path.parts = identity.path.parts →
      Steps world setup identity content cache get reply) :
    Single identity content since cache' where
  flies := fun _ _ => single.flies_step sound waits step fun parts => (mine parts).serves.own
  fresh := single.fresh_step sound each step mine
  one := by
    intro task other started started'
    rcases startedOn_before step started with
      before | ⟨rfl, parts, source, looking, idle, miss, -⟩ <;>
    rcases startedOn_before step started' with
      before' | ⟨rfl, parts', source', looking', idle', miss', -⟩
    · exact single.one before before'
    · exact absurd before ((mine parts').not_started single looking' idle' miss')
    · exact absurd before' ((mine parts).not_started single looking idle miss)
    · rfl

/-! ## One result -/

theorem Serves.mono (serves : world.Serves setup identity content cache get)
    (grows : cache.Extends cache') : world.Serves setup identity content cache' get where
  own := serves.own
  source := serves.source
  done := serves.done
  waits := by
    intro source task joined waiting
    obtain ⟨analysis, present, same⟩ := serves.waits source task joined waiting
    obtain ⟨later, there, goes⟩ := grows.tasks present
    exact ⟨later, there, by rw [goes.identity, same]⟩

/-- A call that waited for its own or for a joined analysis has the entry, or looks up again. -/
private theorem Serves.take (serves : world.Serves setup identity content cache get)
    (sound : cache.Sound) (waits : get.Sound cache)
    (each : ∀ {task analysis}, cache.tasks.get? task = some analysis →
      world.Explains setup analysis)
    (holds : ∀ source, get.source? = some source → world.holds get.identity.path source)
    {source : String} {joined : Bool} {analysis : Analysis} {result : Except String Entry}
    (waiting : get.stage = .waiting source task joined)
    (present : cache.tasks.get? task = some analysis) (recorded : analysis.stage = .recorded result) :
    world.Serves setup identity content cache
      { get with stage := (get.afterTask source joined result).stage } := by
  have here : get.source? = some source := by simp only [Get.source?, waiting]
  have known := serves.source source here
  obtain ⟨analysis', present', same⟩ := serves.waits source task joined waiting
  cases present.symm.trans present'
  have found := Analysis.result?_of_recorded recorded
  rcases get.afterTask_cases source joined result with ⟨stage, joinedSame⟩ | ⟨-, stage, -⟩ <;>
    rw [stage]
  · refine ⟨serves.own, by simp [Get.source?], by simp, ?_⟩
    rintro _ ⟨⟩
    cases result with
    | error reason => exact absurd ⟨reason, found⟩ (each present).available
    | ok entry =>
      have hashed : entry.fingerprint? = some (get.fingerprint source) := by
        cases joined with
        | true => exact joinedSame rfl entry rfl
        | false =>
          obtain ⟨own, present'', -, mine⟩ := waits.waits source task false waiting
          cases present.symm.trans present''
          obtain ⟨outcome, rfl⟩ := (sound.analyses present).found entry found
          rw [Analysis.entry, (sound.analyses present).hashed, (mine rfl).1, (mine rfl).2,
            Get.fingerprint]
      rw [Get.fingerprint, serves.own] at hashed
      refine ⟨entry, rfl, ?_⟩
      rw [known]
      exact entryOf?_of_analysis (sound.analyses present) (each present)
        (serves.own ▸ holds source here) same found hashed
  · refine ⟨serves.own, ?_, by simp, by simp⟩
    rintro _ ⟨⟩
    exact known

/-- A step on the path of the component serves the call that takes it. -/
private theorem Serves.step (mine : Steps world setup identity content cache get reply)
    (single : Single identity content since cache) (sound : cache.Sound) (waits : get.Sound cache)
    (each : ∀ {task analysis}, cache.tasks.get? task = some analysis →
      world.Explains setup analysis)
    (holds : ∀ source, get.source? = some source → world.holds get.identity.path source)
    (step : Get.Transition setup cache get reply cache' stage) :
    world.Serves setup identity content cache' { get with stage } := by
  have serves := mine.serves
  have grows := step.grows sound
  cases step with
  | rest => exact serves
  | read reading text =>
    refine ⟨serves.own, ?_, by simp, by simp⟩
    rintro _ ⟨⟩
    exact (mine.reads _ reading text).symm
  | @unreadable fault reading text =>
    refine ⟨serves.own, by simp [Get.source?], by simp, ?_⟩
    rintro _ ⟨⟩
    refine ⟨_, rfl, ?_⟩
    rw [← mine.reads _ reading text, entryOf?, serves.own]
  | @hit source entry looking _ hit =>
    have here : get.source? = some source := by simp only [Get.source?, looking]
    refine ⟨serves.own, by simp [Get.source?], by simp, ?_⟩
    rintro _ ⟨⟩
    refine ⟨entry, rfl, ?_⟩
    have holds' := holds source here
    rw [Get.fingerprint, serves.own] at hit
    rw [serves.own] at holds'
    rw [serves.source source here]
    exact entryOf?_of_hit sound each holds' hit
  | @start source looking _ _ =>
    refine ⟨serves.own, ?_, ?_, by simp⟩
    · rintro _ ⟨⟩
      exact serves.source source (by simp only [Get.source?, looking])
    · rintro _ _ _ ⟨⟩
      refine ⟨_, (tasks_launched ..).trans (if_pos rfl), ?_⟩
      rw [serves.own]
      exact Identity.same_refl identity
  | @join source flight looking flying =>
    refine ⟨serves.own, ?_, ?_, by simp⟩
    · rintro _ ⟨⟩
      exact serves.source source (by simp only [Get.source?, looking])
    · rintro _ _ _ ⟨⟩
      rw [serves.own] at flying
      obtain ⟨analysis, present, -⟩ := (sound.slot identity.path).flight flight flying
      exact ⟨analysis, present, single.flies _ _ flying present⟩
  | take waiting present recorded => exact serves.take sound waits each holds waiting present recorded
  | work _ _ _ _ _ _ => exact serves.mono grows
  | record _ _ _ => exact serves.mono grows

end

/-! ## Runs -/

variable {since first : Nat} {session : Session}

private theorem Single.of_same {cache cache' : Cache} (single : Single identity content since cache)
    (tasks : cache'.tasks = cache.tasks)
    (slot : cache'.slot identity.path = cache.slot identity.path) :
    Single identity content since cache' where
  flies := by
    unfold FliesFor
    rw [slot, tasks]
    exact single.flies
  fresh := by
    rw [slot]
    simp only [StartedOn, tasks]
    exact single.fresh
  one := by
    simp only [StartedOn, tasks]
    exact single.one

private theorem Shares.of_cache (shares : world.Shares setup identity content since first session)
    {cache : Cache} (tasks : cache.tasks = session.cache.tasks)
    (slot : cache.slot identity.path = session.cache.slot identity.path)
    (grows : session.cache.Extends cache) :
    world.Shares setup identity content since first { session with cache } where
  single := shares.single.of_same tasks slot
  made := shares.made
  ended := shares.ended
  served := fun known parts later => (shares.served known parts later).mono grows

private theorem Shares.stepped (shares : world.Shares setup identity content since first session)
    (sound : session.Sound) (accounts : world.Accounts setup session) {id : Nat} {reply : Reply}
    {get : Get} (known : session.get? id = some get)
    (going : ∀ result, get.stage ≠ .done result)
    (keeps : world.Keeps setup identity content session (.step id reply)) :
    world.Shares setup identity content since first
      (session.stepped id (get.step setup session.cache reply)) := by
  have step := get.step_transition setup session.cache reply
  have grows := step.grows sound.cache
  have later : get.identity.path.parts = identity.path.parts → first ≤ id := by
    intro parts
    rcases Nat.lt_or_ge id first with early | later
    · obtain ⟨result, stage⟩ := shares.ended known parts early
      exact absurd stage (going result)
    · exact later
  have mine : get.identity.path.parts = identity.path.parts →
      Steps world setup identity content session.cache get reply := fun parts =>
    ⟨shares.served known parts (later parts), fun result reading text =>
      keeps.2 get result known parts reading text⟩
  have waits := sound.calls known
  refine ⟨shares.single.step sound.cache waits accounts.analyses step mine, ?_, ?_, ?_⟩
  · simpa [Session.stepped] using shares.made
  · intro other get' there parts early
    rw [Session.get?_stepped session known, get.step_snd setup session.cache reply] at there
    split at there
    · next same =>
      cases there
      exact absurd early (Nat.not_lt.mpr (same ▸ later parts))
    · exact shares.ended there parts early
  · intro other get' there parts after
    rw [Session.get?_stepped session known, get.step_snd setup session.cache reply] at there
    split at there
    · cases there
      exact Serves.step (mine parts) shares.single sound.cache waits accounts.analyses
        (fun _ own => accounts.sources known own) step
    · exact (shares.served there parts after).mono grows

/-- Every move preserves it while the file keeps its content. -/
private theorem Shares.move (shares : world.Shares setup identity content since first session)
    (sound : session.Sound) (accounts : world.Accounts setup session) (next : Move)
    (keeps : world.Keeps setup identity content session next) :
    world.Shares setup identity content since first (session.move setup next) := by
  cases next with
  | call other =>
    refine ⟨shares.single, by simpa [Session.move, Session.pushed] using Nat.le_succ_of_le shares.made,
      ?_, ?_⟩
    · intro id get there parts early
      rw [Session.get?_call] at there
      split at there
      · next last => exact absurd early (Nat.not_lt.mpr (last ▸ shares.made))
      · exact shares.ended there parts early
    · intro id get there parts after
      rw [Session.get?_call] at there
      split at there
      · cases there
        exact ⟨keeps.2 parts, by simp [Get.source?], by simp, by simp⟩
      · exact shares.served there parts after
  | step id reply =>
    cases known : session.get? id with
    | none => rwa [Session.move_step_none setup reply known]
    | some get =>
      cases stage : get.stage with
      | done result => rwa [Session.move_step_done setup reply known stage]
      | _ =>
        rw [Session.move_step setup reply known]
        exact shares.stepped sound accounts known (by simp [stage]) keeps
  | drop id =>
    refine ⟨shares.single, by simpa [Session.move] using shares.made, ?_, ?_⟩ <;>
    · intro other get there
      rw [Session.get?_drop] at there
      split at there
      · cases there
      · first | exact shares.ended there | exact shares.served there
  | invalidate path =>
    refine shares.of_cache (by simp) ?_ (.invalidate session.cache path)
    simp only [Cache.slot, slot?_invalidate, if_neg keeps.2]
  | invalidateAll => exact keeps.2.elim
  | remove path =>
    refine shares.of_cache (by simp) ?_ (.remove session.cache path)
    simp only [Cache.slot, slot?_remove, if_neg keeps.2]
  | snapshot components =>
    exact shares.of_cache rfl rfl (.of_tasks_eq rfl (Nat.le_refl _) (Nat.le_refl _))

/-- While the file of a component keeps its content, calls for the component start one analysis at
most, and all that end have the same entry, in whatever order they take their steps and whichever of
them are dropped. -/
theorem one_analysis_one_entry (keyed : setup.Keyed) (reached : world.Reached setup session)
    (identity : Identity) (content : Except Files.Fault String) (quiet : session.Quiet identity.path)
    (flies : session.cache.FliesFor identity) :
    ∃ entry, ∀ moves, Follows (Session.move setup) (world.Keeps setup identity content) session moves →
      (∀ task other,
        (session.run setup moves).cache.StartedOn session.cache.nextTask identity.path task →
        (session.run setup moves).cache.StartedOn session.cache.nextTask identity.path other →
          task = other) ∧
      ∀ id get result, session.calls.length ≤ id → (session.run setup moves).get? id = some get →
        get.identity.path.parts = identity.path.parts → get.result? = some result →
          result = .ok entry := by
  obtain ⟨entry, expected⟩ := world.exists_entry setup identity content
  refine ⟨entry, fun moves keeps => ?_⟩
  have begun : world.Shares setup identity content session.cache.nextTask session.calls.length
      session := by
    refine ⟨⟨flies, ?_, ?_⟩, Nat.le_refl _, ?_, ?_⟩
    · rintro task ⟨younger, analysis, present, -⟩
      have older := reached.reached.sound.cache.numbered present
      omega
    · rintro task other ⟨younger, analysis, present, -⟩
      have older := reached.reached.sound.cache.numbered present
      omega
    · exact fun known parts _ => quiet _ _ known parts
    · intro id get known _ outside
      have inside := Session.lt_of_get? known
      omega
  obtain ⟨-, -, shares⟩ := keeps.preserves
    (P := fun later => later.Sound ∧ world.Accounts setup later ∧ world.Shares setup identity content
      session.cache.nextTask session.calls.length later)
    (by
      rintro later next ⟨sound, accounts, shares⟩ keeps
      exact ⟨sound.move setup next, accounts.move sound keyed next keeps.1,
        shares.move sound accounts next keeps⟩)
    ⟨reached.reached.sound, reached.accounts keyed, begun⟩
  refine ⟨fun _ _ => shares.single.one, fun id get result later known parts done => ?_⟩
  have stage : get.stage = .done result := by
    unfold Get.result? at done
    split at done
    · next stage => rw [stage, Option.some.inj done]
    · cases done
  obtain ⟨got, rfl, same⟩ := (shares.served known parts later).done result stage
  rw [Option.some.inj (expected.symm.trans same)]

end World

/-- A component with two texts, and an analyzer that finds no description in either. -/
def cardWorld : World where
  answer := fun _ => .failed (.parse "")
  available := by simp
  holds := fun path text => path = ⟨"/a"⟩ ∧ (text = "old" ∨ text = "new")
  apart := by
    have differ : Fingerprint.compute ⟨"/a"⟩ "old" ≠ Fingerprint.compute ⟨"/a"⟩ "new" := by
      decide +kernel
    rintro _ _ _ _ ⟨rfl, rfl | rfl⟩ ⟨rfl, rfl | rfl⟩ same
    · exact ⟨rfl, rfl⟩
    · exact absurd same differ
    · exact absurd same.symm differ
    · exact ⟨rfl, rfl⟩

/-- A call that started the analysis of the first text is dropped, and the analysis is left. -/
def leftMoves : List Move :=
  [.call ⟨"Card", ⟨"/a"⟩, false⟩, .step 0 (.text (.ok "old")), .step 0 .nothing, .drop 0]

private theorem reached_leftMoves :
    cardWorld.Reached .plain (({} : Session).run .plain leftMoves) := by
  refine ⟨leftMoves, ⟨trivial, ?_, ?_, trivial, trivial⟩, rfl⟩
  · intro get known
    cases known
    refine ⟨?_, by simp⟩
    rintro _ - ⟨⟩
    exact ⟨rfl, .inl rfl⟩
  · intro get known
    have looking : get.stage = .looking "old" := by
      rw [← Option.some.inj known]
      rfl
    exact ⟨fun _ reading => by simp [looking] at reading,
      fun _ _ _ _ waiting => by simp [looking] at waiting⟩

/-- Behind the analysis that was left, calls that read the second text share one analysis. -/
theorem one_analysis_one_entry_left :
    let session := ({} : Session).run .plain leftMoves
    ∃ entry, ∀ moves, Follows (Session.move .plain)
        (cardWorld.Keeps .plain ⟨"Card", ⟨"/a"⟩, false⟩ (.ok "new")) session moves →
      (∀ task other, (session.run .plain moves).cache.StartedOn session.cache.nextTask ⟨"/a"⟩ task →
        (session.run .plain moves).cache.StartedOn session.cache.nextTask ⟨"/a"⟩ other →
          task = other) ∧
      ∀ id get result, session.calls.length ≤ id → (session.run .plain moves).get? id = some get →
        get.identity.path.parts = (⟨"/a"⟩ : Path).parts → get.result? = some result →
          result = .ok entry := by
  refine World.one_analysis_one_entry (by intro stored; cases stored) reached_leftMoves
    ⟨"Card", ⟨"/a"⟩, false⟩ (.ok "new") ?_ ?_
  · intro id get known
    have dropped : (({} : Session).run .plain leftMoves).calls = [none] := rfl
    simp only [Session.get?, dropped] at known
    cases id <;> simp at known
  · intro flight analysis flying present
    have here : ((({} : Session).run .plain leftMoves).cache.slot ⟨"/a"⟩).inFlight? =
        some ⟨1, Fingerprint.compute ⟨"/a"⟩ "old", false⟩ := rfl
    obtain rfl := Option.some.inj (here.symm.trans flying)
    have there : (({} : Session).run .plain leftMoves).cache.tasks.get? 1 = some ⟨⟨"Card", ⟨"/a"⟩, false⟩, "old",
        Fingerprint.compute ⟨"/a"⟩ "old", .created⟩ := rfl
    obtain rfl := Option.some.inj (there.symm.trans present)
    rfl

end Cache

end ComponentCatalog
