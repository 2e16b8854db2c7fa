import ComponentCatalog.Cache.Basic
import ComponentCatalog.Host.Exchange
import ComponentCatalog.Metadata.Normalize

/-!
# Analyses step by step

An analysis goes on only while someone who waits for it drives it. It takes what is stored for its
source; else the steps change the source, the analyzer is asked, and what it found is stored. What
came of it is recorded, and only then can those who wait have it.
-/

namespace ComponentCatalog

open Component

namespace Cache

/-- How components are analyzed. -/
structure Setup where
  pipeline : Pipeline
  fields : Metadata.Fields
  checker : Options.Checker
  timeoutMs : Nat
  store? : Option Store

namespace Analysis

def entry (analysis : Analysis) (outcome : Outcome) : Entry :=
  ⟨analysis.identity, some analysis.fingerprint, outcome⟩

/-- The analysis that found out what came of it. -/
def finding (analysis : Analysis) (outcome : Outcome) : Analysis :=
  { analysis with stage := .found (.ok (analysis.entry outcome)) }

/-- The analysis that found a failure. -/
def failing (analysis : Analysis) (kind : FailureKind) (reason : String) : Analysis :=
  analysis.finding (.failed ⟨kind, reason⟩)

def request (analysis : Analysis) (setup : Setup) (text : String) : Analyzer.Request where
  path := analysis.identity.path
  source := text
  fields := setup.fields
  ignore := setup.checker.ignore
  forceUseTs := setup.checker.forceUseTs
  strict := setup.checker.strict

/-- What the next step of an analysis needs. -/
def need (analysis : Analysis) (setup : Setup) (task : Nat) : Need :=
  match analysis.stage, setup.store? with
  | .created, some store => .readBytes (store.file analysis.identity.path)
  | .asked request, _ => .describe task request
  | .storing metadata time, some store =>
    -- The fingerprint is that of the source, not of what the steps made of it.
    let entry : Store.Entry := ⟨analysis.fingerprint, time, metadata⟩
    .write (store.file analysis.identity.path) entry.text
  | _, _ => .nothing

/-- Changes the source and asks the analyzer. -/
def begin (analysis : Analysis) (setup : Setup) (cache : Cache) : Cache × Analysis :=
  match setup.pipeline.apply analysis.identity analysis.source with
  | .error fault =>
    (cache.tell (.transformFailed analysis.identity.name fault),
      analysis.failing .transform fault.message)
  | .ok text =>
    -- Counted when it is asked for, whatever the analyzer is going to say.
    ({ cache with analyses := cache.analyses + 1 },
      { analysis with stage := .asked (analysis.request setup text) })

def describe (analysis : Analysis) (setup : Setup) (raw : Json) (time : Nat) (cache : Cache) :
    Cache × Analysis :=
  match Metadata.normalize setup.fields raw with
  | .ok metadata =>
    if setup.store?.isSome then (cache, { analysis with stage := .storing metadata time })
    else (cache, analysis.finding (.resolved metadata))
  | .error malformed =>
    let reason := "malformed analyzer output: " ++ malformed.message
    (cache.tell (.notParsed analysis.identity.name reason), analysis.failing .parse reason)

def fail (analysis : Analysis) (fault : Analyzer.Fault) (cache : Cache) : Cache × Analysis :=
  match fault with
  -- This says nothing of the component, so there is nothing to record.
  | .unavailable reason => (cache, { analysis with stage := .found (.error reason) })
  | .timeout _ =>
    (cache.tell (.timedOut analysis.identity.name fault), analysis.failing .timeout fault.message)
  | .parse reason =>
    (cache.tell (.notParsed analysis.identity.name reason), analysis.failing .parse reason)

/-- The analysis goes on with what the analyzer answered. -/
def answer (analysis : Analysis) (setup : Setup) (cache : Cache) (time : Nat) :
    Analyzer.Answer → Cache × Analysis
  | .described raw => analysis.describe setup raw time cache
  | .failed fault => analysis.fail fault cache
  | .late => analysis.fail (.timeout (setup.timeoutMs * 1000)) cache
  | .panicked reason =>
    (cache.tell (.panicked analysis.identity.name reason),
      analysis.failing .panic ("analyzer panicked: " ++ reason))

/-- The analysis after its metadata were stored, or were not. -/
def stored (analysis : Analysis) (store : Store) (metadata : Metadata) (cache : Cache) :
    Except Files.Fault Unit → Cache × Analysis
  | .ok () => (cache, analysis.finding (.resolved metadata))
  | .error cause =>
    (cache.tell (.notStored analysis.identity.name ⟨store.file analysis.identity.path, cause⟩),
      -- The metadata are as good as before.
      analysis.finding (.resolved metadata))

/-- One step of an analysis, with the reply to what it needed. -/
def step (analysis : Analysis) (setup : Setup) (task : Nat) (cache : Cache) (reply : Reply) :
    Cache × Analysis :=
  match analysis.stage, setup.store?, reply with
  | .created, none, _ => analysis.begin setup cache
  | .created, some _, .bytes (.ok bytes) =>
    match Store.Entry.metadataFor? analysis.fingerprint bytes with
    | some metadata => (cache, analysis.finding (.resolved metadata))
    | none => analysis.begin setup cache
  -- What cannot be read counts as not stored.
  | .created, some _, .bytes (.error _) => analysis.begin setup cache
  | .asked _, _, .answered answer time => analysis.answer setup cache time answer
  | .storing metadata _, some store, .done result => analysis.stored store metadata cache result
  | .found result, _, _ =>
    (cache.finish analysis.identity.path task result.toOption,
      { analysis with stage := .recorded result })
  | _, _, _ => (cache, analysis)

end Analysis

/-- Takes one step of a task. -/
def advance (cache : Cache) (setup : Setup) (task : Nat) (reply : Reply) : Cache :=
  match cache.tasks.get? task with
  | some analysis =>
    let (cache, analysis) := analysis.step setup task cache reply
    { cache with tasks := cache.tasks.set task analysis }
  | none => cache

/-! ## Getting entries -/

/-- How far it is to an entry. -/
inductive Get.Stage where
  | reading
  | looking (source : String)
  /-- For a task that was started by another one, or not. -/
  | waiting (source : String) (task : Nat) (joined : Bool)
  | done (result : Except String Entry)

/-- Getting the entry of a component. -/
structure Get where
  identity : Identity
  stage : Get.Stage := .reading

namespace Get

def fingerprint (get : Get) (source : String) : Fingerprint :=
  Fingerprint.compute get.identity.path source

/-- The entry that was got, or why there is no analyzer. -/
def result? (get : Get) : Option (Except String Entry) :=
  match get.stage with
  | .done result => some result
  | _ => none

/-- What the next step needs; nothing at all if the entry is there. -/
def need? (get : Get) (setup : Setup) (cache : Cache) : Option Need :=
  match get.stage with
  | .reading => some (.readText get.identity.path)
  | .looking _ => some .nothing
  | .waiting _ task _ => (cache.tasks.get? task).map fun analysis => analysis.need setup task
  | .done _ => none

/-- What becomes of waiting when the task has come to a result. One that was joined may have been for
another source; then the cache is looked up again. -/
def afterTask (get : Get) (source : String) (joined : Bool) (result : Except String Entry) : Get :=
  match result with
  | .error reason => { get with stage := .done (.error reason) }
  | .ok entry =>
    if joined && entry.fingerprint? != some (get.fingerprint source) then
      { get with stage := .looking source }
    else { get with stage := .done (.ok entry) }

/-- One step, with the reply to what it needed. -/
def step (get : Get) (setup : Setup) (cache : Cache) (reply : Reply) : Cache × Get :=
  match get.stage with
  | .reading =>
    match reply with
    | .text (.ok source) => (cache, { get with stage := .looking source })
    | .text (.error fault) =>
      (cache.recordUnreadable get.identity fault,
        { get with stage := .done (.ok (unreadableEntry get.identity fault)) })
    | _ => (cache, get)
  | .looking source =>
    match cache.lookup get.identity (get.fingerprint source) source with
    | (cache, .hit entry) => (cache, { get with stage := .done (.ok entry) })
    | (cache, .started task) => (cache, { get with stage := .waiting source task false })
    | (cache, .joined task) => (cache, { get with stage := .waiting source task true })
  | .waiting source task joined =>
    match (cache.tasks.get? task).map Analysis.stage with
    | some (.recorded result) => (cache, get.afterTask source joined result)
    -- Whoever waits takes the next step, also for a task that another one started.
    | _ => (cache.advance setup task reply, get)
  | .done _ => (cache, get)

end Get

end Cache

end ComponentCatalog
