import ComponentCatalog.Engine.Basic
import ComponentCatalog.Proofs.Cache.Session
import ComponentCatalog.Proofs.Store.Entry
import ComponentCatalog.Proofs.Transform.Pipeline

/-! # What analyses come to in a steady world

An analyzer that answers a request always alike, steps that only see the text, and fingerprints that
tell sources apart make the outcome of an analysis a matter of its component and its source. A store
that holds nothing but what such analyses stored does not change it: what is read there is what would
have been found.
-/

namespace ComponentCatalog

open Component

namespace Cache

/-- An analyzer that is never missing and answers a request always alike, and the sources that files
hold at some time. The cache takes a source for unchanged if its fingerprint is; so a changed source
has to change the fingerprint. -/
structure World where
  answer : Analyzer.Request → Analyzer.Answer
  available : ∀ request reason, answer request ≠ .failed (.unavailable reason)
  holds : Path → String → Prop
  apart : ∀ {path other : Path} {source text : String}, holds path source → holds other text →
    Fingerprint.compute path source = Fingerprint.compute other text →
      path = other ∧ source = text

/-- Where metadata are stored, steps do not see which component they work on. -/
def Setup.Keyed (setup : Setup) : Prop :=
  setup.store?.isSome → setup.pipeline.cacheKey?.isSome

/-- An engine that options ask for stores only what its steps have a key for. -/
theorem Setup.keyed_create (options : Options) (exclude : List Exclude) (pipeline : Pipeline)
    (analyzerKey? : Option String) (made : Except Files.Fault Unit) :
    (Engine.create options exclude pipeline (Engine.storePlan options analyzerKey? pipeline)
      made).setup.Keyed := by
  intro stores
  cases key : pipeline.cacheKey? with
  | some _ => exact Option.isSome_of_eq_some key
  | none =>
    cases cacheDir : options.cacheDir? <;>
      simp [Engine.create, Engine.storePlan, Engine.StorePlan.settle, key, cacheDir] at stores

/-- The outcome that an analysis has come to, be it found yet or still to be stored. -/
def Analysis.outcome? (analysis : Analysis) : Option Outcome :=
  match analysis.stage with
  | .storing metadata _ => some (.resolved metadata)
  | .found (.ok entry) | .recorded (.ok entry) => some entry.outcome
  | _ => none

namespace World

variable (world : World) (setup : Setup)

/-- The outcome of a component with a source. -/
def outcome? (identity : Identity) (source : String) : Option Outcome :=
  match setup.pipeline.apply identity source with
  | .error fault => some (.failed ⟨.transform, fault.message⟩)
  | .ok text =>
    let analysis : Analysis := ⟨identity, source, Fingerprint.compute identity.path source, .created⟩
    (analysis.answer setup {} 0 (world.answer (analysis.request setup text))).2.outcome?

/-- An entry that an analysis in this world stores. -/
structure Stores (entry : Store.Entry) : Prop where
  storedAt : entry.storedAt ≤ Doc.greatestWord
  found : ∃ identity source, world.holds identity.path source ∧
    entry.fingerprint = Fingerprint.compute identity.path source ∧
    world.outcome? setup identity source = some (.resolved entry.metadata)

/-- The bytes of a file of the store: an entry that was stored, or none at all. -/
def Stored (bytes : ByteArray) : Prop :=
  (∃ entry, world.Stores setup entry ∧ bytes = entry.text.toUTF8) ∨
    ∃ fault, Store.Entry.ofBytes bytes = .error fault

/-- The world replies to what an analysis needs. -/
structure Replies (analysis : Analysis) (reply : Reply) : Prop where
  stored : ∀ bytes, analysis.stage = .created → reply = .bytes (.ok bytes) →
    world.Stored setup bytes
  answered : ∀ request answer time, analysis.stage = .asked request →
    reply = .answered answer time → answer = world.answer request ∧ time ≤ Doc.greatestWord

/-- What an analysis came to is what its component and its source come to. -/
structure Explains (analysis : Analysis) : Prop where
  holds : world.holds analysis.identity.path analysis.source
  asked : ∀ request, analysis.stage = .asked request →
    ∃ text, setup.pipeline.apply analysis.identity analysis.source = .ok text ∧
      request = analysis.request setup text
  outcome : ∀ outcome, analysis.outcome? = some outcome →
    world.outcome? setup analysis.identity analysis.source = some outcome
  storing : ∀ metadata time, analysis.stage = .storing metadata time → time ≤ Doc.greatestWord
  available : ¬ analysis.Unavailable

variable {world setup}

/-! ## Outcomes -/

/-- What an answer comes to depends on neither the analysis that asked nor the time. -/
private theorem outcome?_answer (analysis other : Analysis) (cache cache' : Cache) (time time' : Nat)
    (answer : Analyzer.Answer) :
    (analysis.answer setup cache time answer).2.outcome? =
      (other.answer setup cache' time' answer).2.outcome? := by
  cases answer with
  | described raw =>
    simp only [Analysis.answer, Analysis.describe]
    split
    · split <;> rfl
    · rfl
  | failed fault => cases fault <;> rfl
  | late => rfl
  | panicked reason => rfl

theorem outcome?_of_error {identity : Identity} {source : String} {fault : Transform.Fault}
    (failed : setup.pipeline.apply identity source = .error fault) :
    world.outcome? setup identity source = some (.failed ⟨.transform, fault.message⟩) := by
  simp only [outcome?, failed]

/-- What the analyzer answers comes to the outcome of the component and its source. -/
theorem outcome?_of_text (world : World) {analysis : Analysis} {text : String}
    (applied : setup.pipeline.apply analysis.identity analysis.source = .ok text) (cache : Cache)
    (time : Nat) :
    (analysis.answer setup cache time (world.answer (analysis.request setup text))).2.outcome? =
      world.outcome? setup analysis.identity analysis.source := by
  simp only [outcome?, applied]
  exact outcome?_answer ..

/-- Where the steps have a key, components at one path come to the same. -/
theorem outcome?_eq_of_key (keyed : setup.pipeline.cacheKey?.isSome) {identity other : Identity}
    (path : identity.path = other.path) (source : String) :
    world.outcome? setup identity source = world.outcome? setup other source := by
  unfold outcome?
  rw [Pipeline.apply_eq_of_key keyed identity other source]
  split
  · rfl
  · simp only [Analysis.request, path]
    exact outcome?_answer ..

/-- Unless there is no analyzer, an answer comes to an outcome, or to metadata that are to be stored. -/
private theorem answer_cases {answer : Analyzer.Answer}
    (available : ∀ reason, answer ≠ .failed (.unavailable reason)) (analysis : Analysis)
    (cache : Cache) (time : Nat) :
    (∃ outcome, (analysis.answer setup cache time answer).2 = analysis.finding outcome) ∨
      ∃ metadata, (analysis.answer setup cache time answer).2 =
        { analysis with stage := .storing metadata time } := by
  cases answer with
  | described raw =>
    simp only [Analysis.answer, Analysis.describe]
    split
    · split
      · exact .inr ⟨_, rfl⟩
      · exact .inl ⟨_, rfl⟩
    · exact .inl ⟨_, rfl⟩
  | failed fault =>
    cases fault with
    | unavailable reason => exact absurd rfl (available reason)
    | timeout micros => exact .inl ⟨_, rfl⟩
    | parse reason => exact .inl ⟨_, rfl⟩
  | late => exact .inl ⟨_, rfl⟩
  | panicked reason => exact .inl ⟨_, rfl⟩

/-- Every component comes to an outcome. -/
theorem exists_outcome (world : World) (setup : Setup) (identity : Identity) (source : String) :
    ∃ outcome, world.outcome? setup identity source = some outcome := by
  let analysis : Analysis := ⟨identity, source, Fingerprint.compute identity.path source, .created⟩
  cases applied : setup.pipeline.apply analysis.identity analysis.source with
  | error fault => exact ⟨_, outcome?_of_error applied⟩
  | ok text =>
    have found := outcome?_of_text world applied {} 0
    rcases answer_cases (world.available _) analysis {} 0 with ⟨outcome, eq⟩ | ⟨metadata, eq⟩ <;>
      rw [eq] at found
    · exact ⟨outcome, found.symm⟩
    · exact ⟨.resolved metadata, found.symm⟩

/-- What is read in the store is what would be found. -/
theorem outcome?_of_stored (keyed : setup.pipeline.cacheKey?.isSome) {identity : Identity}
    {source : String} (holds : world.holds identity.path source) {bytes : ByteArray}
    (stored : world.Stored setup bytes) {metadata : Metadata}
    (read : Store.Entry.metadataFor? (Fingerprint.compute identity.path source) bytes =
      some metadata) :
    world.outcome? setup identity source = some (.resolved metadata) := by
  rcases stored with ⟨entry, stores, written⟩ | ⟨fault, broken⟩
  · obtain ⟨other, text, there, hashed, found⟩ := stores.found
    have fits : entry.Fits := ⟨by rw [hashed]; exact Fingerprint.compute_lt _ _, stores.storedAt⟩
    unfold Store.Entry.metadataFor? at read
    rw [written, fits.ofBytes_text] at read
    simp only [hashed, beq_iff_eq] at read
    split at read
    · next same =>
      obtain ⟨path, rfl⟩ := world.apart there holds same
      cases read
      rw [← outcome?_eq_of_key keyed path, found]
    · cases read
  · unfold Store.Entry.metadataFor? at read
    rw [broken] at read
    cases read

/-! ## Steps of an analysis -/

variable {analysis : Analysis}

private theorem Explains.finding (explains : world.Explains setup analysis) {outcome : Outcome}
    (found : world.outcome? setup analysis.identity analysis.source = some outcome) :
    world.Explains setup (analysis.finding outcome) where
  holds := explains.holds
  asked := by simp [Analysis.finding]
  outcome := by
    intro other same
    obtain rfl : outcome = other := Option.some.inj same
    exact found
  storing := by simp [Analysis.finding]
  available := by simp [Analysis.Unavailable, Analysis.result?, Analysis.finding]

private theorem Explains.begin (explains : world.Explains setup analysis) (cache : Cache) :
    world.Explains setup (analysis.begin setup cache).2 := by
  unfold Analysis.begin
  split
  · next fault failed => exact explains.finding (outcome?_of_error failed)
  · next text applied =>
    refine ⟨explains.holds, ?_, by simp [Analysis.outcome?], by simp, ?_⟩
    · rintro request same
      cases same
      exact ⟨text, applied, rfl⟩
    · simp [Analysis.Unavailable, Analysis.result?]

private theorem Explains.answer (explains : world.Explains setup analysis) {text : String}
    (applied : setup.pipeline.apply analysis.identity analysis.source = .ok text) (cache : Cache)
    {time : Nat} (clock : time ≤ Doc.greatestWord) :
    world.Explains setup
      (analysis.answer setup cache time (world.answer (analysis.request setup text))).2 := by
  have found := outcome?_of_text world applied cache time
  rcases answer_cases (world.available _) analysis cache time with ⟨outcome, eq⟩ | ⟨metadata, eq⟩ <;>
    rw [eq] at found ⊢
  · exact explains.finding found.symm
  · refine ⟨explains.holds, by simp, ?_, ?_, by simp [Analysis.Unavailable, Analysis.result?]⟩
    · intro outcome same
      exact found.symm.trans same
    · intro other later same
      cases same
      exact clock

/-- A step of an analysis goes on with what the world replies. -/
theorem Explains.step (explains : world.Explains setup analysis) (sound : analysis.Sound)
    (keyed : setup.Keyed) {reply : Reply} (replies : world.Replies setup analysis reply)
    (task : Nat) (cache : Cache) :
    world.Explains setup (analysis.step setup task cache reply).2 := by
  unfold Analysis.step
  split
  · exact explains.begin cache
  · next store bytes created stored =>
    split
    · next metadata read =>
      rw [sound.hashed] at read
      have key := keyed (Option.isSome_of_eq_some stored)
      exact explains.finding
        (outcome?_of_stored key explains.holds (replies.stored bytes created rfl) read)
    · exact explains.begin cache
  · exact explains.begin cache
  · next request answer time asked =>
    obtain ⟨text, applied, rfl⟩ := explains.asked request asked
    obtain ⟨rfl, clock⟩ := replies.answered _ answer time asked rfl
    exact explains.answer applied cache clock
  · next metadata time store result storing _ =>
    have found := explains.outcome (.resolved metadata) (by simp only [Analysis.outcome?, storing])
    cases result with
    | ok => exact explains.finding found
    | error cause => exact explains.finding found
  · next result found =>
    refine ⟨explains.holds, by simp, ?_, by simp, ?_⟩
    · intro outcome same
      refine explains.outcome outcome (Eq.trans ?_ same)
      cases result <;> simp only [Analysis.outcome?, found]
    · rintro ⟨reason, unavailable⟩
      exact explains.available ⟨reason, by simpa [Analysis.result?, found] using unavailable⟩
  · exact explains

/-- What an analysis writes is an entry that it stores. -/
theorem Explains.stores (explains : world.Explains setup analysis) (sound : analysis.Sound)
    {task : Nat} {file : Path} {text : String} (need : analysis.need setup task = .write file text) :
    ∃ entry, world.Stores setup entry ∧ text = entry.text := by
  unfold Analysis.need at need
  split at need
  · cases need
  · cases need
  · next metadata time store storing _ =>
    cases need
    refine ⟨_, ⟨explains.storing metadata time storing, ?_⟩, rfl⟩
    exact ⟨analysis.identity, analysis.source, explains.holds, sound.hashed,
      explains.outcome (.resolved metadata) (by simp only [Analysis.outcome?, storing])⟩
  · cases need

/-! ## Sessions in a world -/

end World

/-- The source that a call read, as long as it needs it. -/
def Get.source? (get : Get) : Option String :=
  match get.stage with
  | .looking source | .waiting source _ _ => some source
  | _ => none

namespace World

variable (world : World) (setup : Setup)

/-- The world replies to a move. -/
def Admits (session : Session) : Move → Prop
  | .step id reply => ∀ get, session.get? id = some get →
    (∀ text, get.stage = .reading → reply = .text (.ok text) →
      world.holds get.identity.path text) ∧
    ∀ source task joined analysis, get.stage = .waiting source task joined →
      session.cache.tasks.get? task = some analysis → world.Replies setup analysis reply
  | _ => True

/-- A session that moves with the replies of the world lead to. -/
def Reached (session : Session) : Prop :=
  ∃ moves, Follows (Session.move setup) (world.Admits setup) {} moves ∧
    ({} : Session).run setup moves = session

/-- What all analyses came to is what their components and their sources come to. -/
structure Accounts (session : Session) : Prop where
  analyses : ∀ {task analysis}, session.cache.tasks.get? task = some analysis →
    world.Explains setup analysis
  sources : ∀ {id get source}, session.get? id = some get → get.source? = some source →
    world.holds get.identity.path source

variable {world setup}

private theorem explains_new {identity : Identity} {source : String}
    (holds : world.holds identity.path source) (fingerprint : Fingerprint) :
    world.Explains setup { identity, source, fingerprint } where
  holds := holds
  asked := by simp
  outcome := by simp [Analysis.outcome?]
  storing := by simp
  available := by simp [Analysis.Unavailable, Analysis.result?]

private theorem analyses_step (keyed : setup.Keyed) {cache cache' : Cache} {get : Get}
    {reply : Reply} {stage : Get.Stage} (step : Get.Transition setup cache get reply cache' stage)
    (sound : cache.Sound)
    (each : ∀ {task analysis}, cache.tasks.get? task = some analysis →
      world.Explains setup analysis)
    (source : ∀ source, get.source? = some source → world.holds get.identity.path source)
    (replies : ∀ source task joined analysis, get.stage = .waiting source task joined →
      cache.tasks.get? task = some analysis → world.Replies setup analysis reply)
    {task : Nat} {later : Analysis} (there : cache'.tasks.get? task = some later) :
    world.Explains setup later := by
  cases step with
  | unreadable _ _ => exact each (by simpa using there)
  | @start text looking _ _ =>
    rw [tasks_launched] at there
    split at there
    · cases there
      exact explains_new (source text (by simp only [Get.source?, looking])) _
    · exact each there
  | @work text other joined analysis analyses notices stage waiting present going _ _ eq =>
    simp only [Table.get?_set] at there
    split at there
    · cases there
      have next := (each present).step (sound.analyses present) keyed
        (replies text other joined analysis waiting present) other cache
      rwa [eq] at next
    · exact each there
  | @record text other joined analysis result waiting present found =>
    rw [tasks_recorded] at there
    split at there
    · cases there
      have next := (each present).step (sound.analyses present) keyed
        (replies text other joined analysis waiting present) other cache
      rwa [analysis.step_found setup cache found] at next
    · exact each there
  | _ => exact each there

private theorem source_step {cache cache' : Cache} {get : Get} {reply : Reply}
    {stage : Get.Stage} (step : Get.Transition setup cache get reply cache' stage) {source : String}
    (there : Get.source? { get with stage } = some source) :
    get.source? = some source ∨
      get.stage = .reading ∧ reply = .text (.ok source) := by
  cases step with
  | read reading text =>
    cases there
    exact .inr ⟨reading, text⟩
  | unreadable _ _ => cases there
  | hit _ _ _ => cases there
  | start looking _ _ => exact .inl (by simpa only [Get.source?, looking] using there)
  | join looking _ => exact .inl (by simpa only [Get.source?, looking] using there)
  | @take text task joined analysis result waiting _ _ =>
    refine .inl ?_
    rcases get.afterTask_cases text joined result with ⟨stage, -⟩ | ⟨-, stage, -⟩ <;>
      simp only [Get.source?, stage, waiting] at there ⊢
    · cases there
    · exact there
  | _ => exact .inl there

private theorem Accounts.of_cache {session : Session} (accounts : world.Accounts setup session)
    {cache : Cache} (tasks : cache.tasks = session.cache.tasks) :
    world.Accounts setup { session with cache } :=
  ⟨fun there => accounts.analyses (tasks ▸ there), accounts.sources⟩

private theorem Accounts.stepped {session : Session} (accounts : world.Accounts setup session)
    (sound : session.Sound) (keyed : setup.Keyed) {id : Nat} {reply : Reply}
    (admits : world.Admits setup session (.step id reply)) {get : Get}
    (known : session.get? id = some get) :
    world.Accounts setup (session.stepped id (get.step setup session.cache reply)) := by
  have step := get.step_transition setup session.cache reply
  obtain ⟨reads, replies⟩ := admits get known
  refine ⟨fun there => analyses_step keyed step sound.cache accounts.analyses
    (fun _ own => accounts.sources known own) replies there, fun {other get' source} there own => ?_⟩
  rw [Session.get?_stepped session known, get.step_snd setup session.cache reply] at there
  split at there
  · cases there
    have holds : world.holds get.identity.path source := by
      rcases source_step step own with before | ⟨reading, text⟩
      · exact accounts.sources known before
      · exact reads source reading text
    exact holds
  · exact accounts.sources there own

/-- Every move to which the world replies preserves it. -/
theorem Accounts.move {session : Session} (accounts : world.Accounts setup session)
    (sound : session.Sound) (keyed : setup.Keyed) (next : Move)
    (admits : world.Admits setup session next) :
    world.Accounts setup (session.move setup next) := by
  cases next with
  | call identity =>
    refine ⟨accounts.analyses, fun there own => ?_⟩
    rw [Session.get?_call] at there
    split at there
    · cases there
      cases own
    · exact accounts.sources there own
  | step id reply =>
    cases known : session.get? id with
    | none => rwa [Session.move_step_none setup reply known]
    | some get =>
      rw [Session.move_step setup reply known]
      exact accounts.stepped sound keyed admits known
  | drop id =>
    refine ⟨accounts.analyses, fun there own => ?_⟩
    rw [Session.get?_drop] at there
    split at there
    · cases there
    · exact accounts.sources there own
  | invalidate path => exact accounts.of_cache (by simp)
  | remove path => exact accounts.of_cache (by simp)
  | _ => exact accounts.of_cache rfl

theorem Reached.reached {session : Session} (reached : world.Reached setup session) :
    session.Reached setup := by
  obtain ⟨moves, -, rfl⟩ := reached
  exact ⟨moves, rfl⟩

/-- In every session of the world, analyses came to what their components and sources come to. -/
theorem Reached.accounts {session : Session} (reached : world.Reached setup session)
    (keyed : setup.Keyed) : world.Accounts setup session := by
  obtain ⟨moves, follows, rfl⟩ := reached
  refine (follows.preserves (P := fun session => session.Sound ∧ world.Accounts setup session)
    ?_ ⟨.empty, ?_⟩).2
  · rintro _ next ⟨sound, accounts⟩ admits
    exact ⟨sound.move setup next, accounts.move sound keyed next admits⟩
  · exact ⟨by simp [Table.get?], fun there => by simp [Session.get?] at there⟩

end World

end Cache

end ComponentCatalog
