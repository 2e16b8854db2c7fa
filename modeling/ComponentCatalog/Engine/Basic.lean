import ComponentCatalog.Engine.Call
import ComponentCatalog.Options.Json

/-!
# The engine

An engine knows the components, keeps what is known of them in its cache, and publishes snapshots of
it. Calls run side by side: whoever drives the engine chooses which one takes a step, and answers what
the step needs. A call that is dropped takes no further step.
-/

namespace ComponentCatalog

open Component Cache

open Engine in
/-- An engine with the calls that were made to it. -/
structure Engine where
  silent : Bool
  /-- What the short paths of published records start from. -/
  rootDir : Path
  /-- Where files are published. -/
  outputDir? : Option Path
  setup : Setup
  registry : Registry
  cache : Cache := {}
  published : Snapshot := .stub
  /-- The call that publishes. -/
  publisher? : Option Nat := none
  /-- The calls by their numbers, in the order in which they were made. -/
  calls : Table Nat Call := []

namespace Engine

/-! ## Making an engine -/

/-- The digest of what stored metadata depend on. -/
def storeDigest (options : Options) (analyzerKey pipelineKey : String) : UInt64 :=
  Digest.digest64 <| Store.wordBytes options.analysisDigest ++ analyzerKey.toUTF8.push 0 ++
    pipelineKey.toUTF8

/-- The store that an engine would use: none, or one that cannot be, or one in a directory. -/
inductive StorePlan where
  | none
  | withoutKey
  | use (store : Store)

/-- The store that the options ask for, given what tells analyzer and steps apart. -/
def storePlan (options : Options) (analyzerKey? : Option String) (pipeline : Pipeline) : StorePlan :=
  match options.cacheDir?, analyzerKey?, pipeline.cacheKey? with
  | Option.none, _, _ => .none
  | some dir, some analyzerKey, some pipelineKey =>
    .use ⟨dir, storeDigest options analyzerKey pipelineKey⟩
  | some _, _, _ => .withoutKey

/-- The directory that has to be made for the store. -/
def StorePlan.dir? : StorePlan → Option Path
  | use store => some store.dir
  | _ => Option.none

/-- The store of an engine, and what is to be told, given whether the directory could be made. -/
def StorePlan.settle (made : Except Files.Fault Unit) : StorePlan → Option Store × List Notice
  | none => (Option.none, [])
  | withoutKey => (Option.none, [.noCacheKey])
  | use store =>
    match made with
    | .ok () => (some store, [])
    | .error cause => (Option.none, [.noStore ⟨store.dir, cause⟩])

/-- The engine that options ask for, given whether the directory of the store could be made. -/
def create (options : Options) (exclude : List Exclude) (pipeline : Pipeline)
    (plan : StorePlan) (made : Except Files.Fault Unit) : Engine :=
  let (store?, notices) := plan.settle made
  { silent := options.silent
    rootDir := options.rootDir
    outputDir? := options.outputDir?
    setup := ⟨pipeline, options.metaFields, options.checkerOptions, options.analyzerTimeoutMs, store?⟩
    registry := { filter := ⟨exclude, options.globalsOnly⟩ }
    cache := { notices } }

/-! ## What is published -/

def records (engine : Engine) : RecordSet := .ofSnapshot engine.rootDir engine.published

/-- The text that answers a query. -/
def query (engine : Engine) (query? : Option String) : Except Fault String :=
  (engine.records.queryText query?).mapError .notFound

/-- The files to write for a snapshot. -/
def artifacts (engine : Engine) (snapshot : Snapshot) : List Artifact :=
  match engine.outputDir? with
  | some dir => Artifact.ofRecords dir (.ofSnapshot engine.rootDir snapshot)
  | none => []

/-- Takes a snapshot of the cache without publishing it. -/
def takeSnapshot (engine : Engine) : Engine × Snapshot :=
  let (cache, snapshot) := engine.cache.snapshot engine.registry.list
  ({ engine with cache }, snapshot)

def changeCache (engine : Engine) (change : Cache → Cache) : Engine :=
  { engine with cache := change engine.cache }

def takeNotices (engine : Engine) : Engine × List Notice :=
  (engine.changeCache fun cache => { cache with notices := [] }, engine.cache.notices)

/-! ## Calls -/

/-- Puts a call where it is now. -/
def setCall (engine : Engine) (id : Nat) (call : Call) : Engine :=
  { engine with calls := engine.calls.set id call }

/-- The result of a call that is finished. -/
def result? (engine : Engine) (id : Nat) : Option (Except Fault Answer) :=
  (engine.calls.get? id).bind Call.result?

/-- Ends a call. If it published, the next one can. -/
def finish (engine : Engine) (id : Nat) (result : Except Fault Answer) : Engine :=
  let publisher? := if engine.publisher? == some id then none else engine.publisher?
  { engine with publisher? }.setCall id (.finished result)

/-- What a call answers now that a snapshot is published. -/
def Pending.answer (snapshot : Snapshot) : Pending → Except Fault Answer
  | diff change => .ok (.diff change)
  | metadata _ (.resolved found) => .ok (.metadata found)
  | metadata name (.failed failure) => .error (.component name failure)
  | entry got => .ok (.entry (some got))
  | all .. => .ok (.snapshot snapshot)

/-- What is told once a call is through. -/
def Pending.notices (engine : Engine) : Pending → List Notice
  | all before components failed =>
    -- Analyses that other calls asked for in the meantime are counted, too.
    if engine.silent then [] else [.parsed components (engine.cache.analyses - before) failed]
  | _ => []

/-- Ends a call whose snapshot is published. -/
def deliver (engine : Engine) (id : Nat) (pending : Pending) (snapshot : Snapshot) : Engine :=
  let told := (pending.notices engine).foldl Cache.tell engine.cache
  { engine with cache := told }.finish id (pending.answer snapshot)

/-- Is there no outcome among those that were got for want of an analyzer? The first reason counts. -/
def entriesOf (results : List (Except String Entry)) : Except String (List Entry) := results.mapM id

def failures (entries : List Entry) : Nat :=
  (entries.filter fun entry =>
    match entry.outcome with
    | .failed _ => true
    | .resolved _ => false).length

/-- Goes on with the entries that a call got. -/
def withEntries (engine : Engine) (id : Nat) (entries : List Entry) : Goal → Engine
  | .metadata name =>
    match entries with
    | entry :: _ => engine.setCall id (.publishing (.metadata name entry.outcome) .waiting)
    | [] => engine
  | .all before =>
    engine.setCall id (.publishing (.all before entries.length (failures entries)) .waiting)
  | .published =>
    match entries with
    | entry :: _ => engine.setCall id (.publishing (.entry entry) .waiting)
    | [] => engine
  | .plain => engine.finish id (.ok (.entry entries.head?))

/-- Goes on with what a call gets: further steps, or the entries if all of them are there. -/
def withGets (engine : Engine) (id : Nat) (goal : Goal) (gets : List Get) : Engine :=
  match gets.mapM Get.result? with
  | none => engine.setCall id (.getting goal gets)
  | some results =>
    match entriesOf results with
    | .ok entries => engine.withEntries id entries goal
    | .error reason => engine.finish id (.error (.unavailable reason))

/-- Goes on with what was discovered: components that are gone are forgotten, and the change is
published. -/
def withDiff (engine : Engine) (id : Nat) (diff : Diff) : Engine :=
  if diff.isEmpty then engine.finish id (.ok (.diff diff))
  else engine.setCall id (.forgetting (diff.removed.map Identity.path) (some diff))

/-- Begins a call. -/
def start (engine : Engine) (id : Nat) : Job → Engine
  | .sync descriptors =>
    let (registry, diff, dropped) := engine.registry.register descriptors
    let cache := (dropped.map Notice.dropped).foldl Cache.tell engine.cache
    { engine with registry, cache }.withDiff id diff
  | .parse identity => engine.withGets id (.metadata identity.name) [{ identity }]
  | .parseNamed name =>
    match engine.registry.findByName? name with
    | some identity => engine.withGets id (.metadata identity.name) [{ identity }]
    | none => engine.finish id (.error (.unknown name))
  | .parseAll =>
    let gets := engine.registry.list.map fun identity => ({ identity } : Get)
    engine.withGets id (.all engine.cache.analyses) gets
  | .changed path =>
    match engine.registry.get? path with
    | some identity =>
      -- The entry holds no longer, even if the file reads as it did before.
      (engine.changeCache (·.invalidate path)).withGets id .published [{ identity }]
    | none => engine.finish id (.ok (.entry none))
  | .get identity => engine.withGets id .plain [{ identity }]
  | .forget path => engine.setCall id (.forgetting [path] none)
  | .stub =>
    match engine.outputDir? with
    | some dir => engine.setCall id (.lookingForStub (Artifact.stub dir))
    | none => engine.finish id (.ok (.snapshot engine.published))

/-- Drops a call. If it published, the next one can. -/
def drop (engine : Engine) (id : Nat) : Engine :=
  let publisher? := if engine.publisher? == some id then none else engine.publisher?
  { engine with publisher?, calls := engine.calls.erase id }

/-! ## Steps of a call -/

/-- What the step of a call needs; nothing at all if the call cannot take it. A call that gets several
entries can take a step for each of them. -/
def need? (engine : Engine) (id index : Nat) : Option Need :=
  match engine.calls.get? id with
  | some (.getting _ gets) => gets[index]?.bind fun get => get.need? engine.setup engine.cache
  | some (.forgetting (path :: _) _) =>
    some <| match engine.setup.store? with
      | some store => .remove (store.file path)
      | none => .nothing
  | some (.forgetting [] _) => some .nothing
  | some (.publishing _ .waiting) => if engine.publisher?.isNone then some .nothing else none
  | some (.publishing _ (.collecting ..)) => some .nothing
  | some (.publishing _ (.writing _ (artifact :: _))) => some artifact.need
  | some (.publishing _ (.writing _ [])) => some .nothing
  | some (.lookingForStub artifact) => some (.look artifact.file)
  | some (.writingStub artifact) => some artifact.need
  | some (.finished _) | none => none

def stepGet (engine : Engine) (id index : Nat) (goal : Goal) (gets : List Get) (reply : Reply) :
    Engine :=
  match gets[index]? with
  | some get =>
    let (cache, get) := get.step engine.setup engine.cache reply
    { engine with cache }.withGets id goal (gets.set index get)
  | none => engine

def stepForget (engine : Engine) (id : Nat) (diff? : Option Diff) : List Path → Engine
  | path :: rest =>
    (engine.changeCache (·.remove path)).setCall id (.forgetting rest diff?)
  | [] =>
    match diff? with
    | some diff => engine.setCall id (.publishing (.diff diff) .waiting)
    | none => engine.finish id (.ok .nothing)

/-- The turn of a call to publish: if nothing changed since the last snapshot, that one will do. -/
def stepTurn (engine : Engine) (id : Nat) (pending : Pending) : Engine :=
  let current := engine.published
  -- The stub will not do, even while nothing has changed yet.
  if !current.isStub && current.revision == engine.cache.revision then
    engine.deliver id pending current
  else
    -- What changes while components are collected counts as a change since this snapshot.
    let publication := .collecting engine.cache.revision engine.registry.list []
    { engine with publisher? := some id }.setCall id (.publishing pending publication)

/-- A step of taking a snapshot: one more component, or the end, when it is published. -/
def stepCollect (engine : Engine) (id : Nat) (pending : Pending) (revision : Nat)
    (shown : Table String SnapshotEntry) : List Identity → Engine
  | identity :: rest =>
    let shown := engine.cache.collect shown identity
    engine.setCall id (.publishing pending (.collecting revision rest shown))
  | [] =>
    let generation := engine.cache.generation + 1
    let snapshot : Snapshot := ⟨generation, revision, shown⟩
    let artifacts := engine.artifacts snapshot
    -- It is published before its files are written, and stays so if one of them cannot be.
    { engine.changeCache ({ · with generation }) with published := snapshot }.setCall id
      (.publishing pending (.writing snapshot artifacts))

def stepWrite (engine : Engine) (id : Nat) (pending : Pending) (snapshot : Snapshot) (reply : Reply) :
    List Artifact → Engine
  | artifact :: rest =>
    match artifact.step reply with
    | .going artifact =>
      engine.setCall id (.publishing pending (.writing snapshot (artifact :: rest)))
    | .written => engine.setCall id (.publishing pending (.writing snapshot rest))
    | .failed fault => engine.finish id (.error fault)
  | [] => engine.deliver id pending snapshot

def stepStub (engine : Engine) (id : Nat) (artifact : Artifact) (reply : Reply) : Engine :=
  match artifact.step reply with
  | .going artifact => engine.setCall id (.writingStub artifact)
  | .written => engine.finish id (.ok (.snapshot engine.published))
  | .failed fault => engine.finish id (.error fault)

/-- Takes a step of a call, with the reply to what it needed. -/
def step (engine : Engine) (id index : Nat) (reply : Reply) : Engine :=
  match engine.calls.get? id with
  | some (.getting goal gets) => engine.stepGet id index goal gets reply
  | some (.forgetting paths diff?) => engine.stepForget id diff? paths
  | some (.publishing pending .waiting) =>
    if engine.publisher?.isNone then engine.stepTurn id pending else engine
  | some (.publishing pending (.collecting revision rest shown)) =>
    engine.stepCollect id pending revision shown rest
  | some (.publishing pending (.writing snapshot artifacts)) =>
    engine.stepWrite id pending snapshot reply artifacts
  | some (.lookingForStub artifact) =>
    match reply with
    | .there true => engine.finish id (.ok (.snapshot engine.published))
    | .there false => engine.setCall id (.writingStub artifact)
    | _ => engine
  | some (.writingStub artifact) => engine.stepStub id artifact reply
  | some (.finished _) | none => engine

end Engine

end ComponentCatalog
