import ComponentCatalog.Host.Basic
import ComponentCatalog.Proofs.Engine.Visited
import ComponentCatalog.Proofs.Store.Keys
import Mathlib.Data.Set.Operations

/-! # Histories of engines that share a store

One engine after the other is made, is visited call by call, and comes to its end. Each `Epoch` may have
other options and another analyzer. What its analyzer finds is entered in the files of a store that all of
them share; and unless strings that are hashed have the same digest, what fits a source there was found for
that source, by an analyzer with the same key and under options that agree in all that matters.
-/

namespace ComponentCatalog

open Component

namespace Engine

open Cache

/-- What is asked of an engine between calls. With a call goes what the sources hold then, and the replies to
the writing of published files. -/
inductive Visit where
  | call (job : Job) (source : Path → Except Files.Fault String) (output : Output)
      (fits : ∀ file (need : Need), need.Fits (output file need))
  | invalidate (path : Path)
  | invalidateAll
  /-- A snapshot is taken that is not published. -/
  | snapshot

namespace Visit

/-- The components that are known behind a visit. -/
def registry (known : Registry) : Visit → Registry
  | call (.sync descriptors) _ _ _ => (known.register descriptors).1
  | _ => known

/-- The components that are got, with their sources. -/
def reads (known : Registry) : Visit → List (Identity × String)
  | call job source _ _ =>
    (job.gets known).filterMap fun identity => (source identity.path).toOption.map (identity, ·)
  | _ => []

/-- The components that are got by visits one after the other, with their sources. -/
def allReads : Registry → List Visit → List (Identity × String)
  | _, [] => []
  | known, visit :: visits => visit.reads known ++ allReads (visit.registry known) visits

theorem mem_reads {known : Registry} {job : Job} {source : Path → Except Files.Fault String}
    {output : Output} {fits : ∀ file (need : Need), need.Fits (output file need)} {identity : Identity}
    {text : String} (member : identity ∈ job.gets known) (read : source identity.path = .ok text) :
    (identity, text) ∈ (call job source output fits).reads known :=
  List.mem_filterMap.mpr ⟨identity, member, by rw [read]; rfl⟩

end Visit

/-- What becomes of an engine from its making to its end. Its steps are those that the options ask for. -/
structure Epoch where
  options : Options
  /-- The key of the analyzer. -/
  key : String
  exclude : List Exclude
  pipeline : Pipeline
  valid : options.validate = .ok ()
  excludes : options.excludes = .ok exclude
  steps : Pipeline.ofConfig options.transformers = .ok pipeline
  visits : List Visit

namespace Epoch

variable (epoch : Epoch)

/-- The engine that is made where a store is asked for in a directory or not at all, given whether the
directory could be made. -/
def engine (cacheDir? : Option Path) (made : Except Files.Fault Unit) : Engine :=
  let options := { epoch.options with cacheDir? }
  .create options epoch.exclude epoch.pipeline (storePlan options (some epoch.key) epoch.pipeline) made

/-- What tells the steps apart from others. -/
def stepsKey : String := epoch.pipeline.cacheKey?.getD ""

/-- The store in a directory. -/
def store (dir : Path) : Store := ⟨dir, storeDigest epoch.options epoch.key epoch.stepsKey⟩

/-- How components are analyzed. -/
def setup (store? : Option Store) : Setup :=
  ⟨epoch.pipeline, epoch.options.metaFields, epoch.options.checkerOptions,
    epoch.options.analyzerTimeoutMs, store?⟩

/-- The components that are got, with their sources. -/
def reads : List (Identity × String) :=
  Visit.allReads { filter := ⟨epoch.exclude, epoch.options.globalsOnly⟩ } epoch.visits

/-- What is hashed to 64 bits. The directory of a store is no part of it. -/
def hashed : List ByteArray :=
  epoch.options.keyText.toUTF8 :: storeHashed epoch.options epoch.key epoch.stepsKey ::
    epoch.reads.map fun read => (epoch.store default).hashed read.1.path

/-- What is hashed to 128 bits. -/
def fingerprinted : List ByteArray :=
  epoch.reads.map fun read => Fingerprint.hashed read.1.path read.2

/-- Whoever makes an engine with these options and an analyzer with this key gets this one. -/
theorem create_eq {m : Type → Type} [Monad m] [LawfulMonad m] (host : Host m) (cacheDir? : Option Path) :
    host.create { epoch.options with cacheDir? } (some epoch.key) =
      (fun made => .ok (epoch.engine cacheDir? made)) <$>
        host.makeStore (storePlan { epoch.options with cacheDir? } (some epoch.key) epoch.pipeline) := by
  have valid : ({ epoch.options with cacheDir? } : Options).validate = .ok () := epoch.valid
  have excludes : ({ epoch.options with cacheDir? } : Options).excludes = .ok epoch.exclude :=
    epoch.excludes
  simp only [Host.create, epoch.steps, Host.createWith, valid, excludes, engine, map_eq_pure_bind]

/-- The steps that options ask for have a key. -/
theorem isSome_key : epoch.pipeline.cacheKey?.isSome := Pipeline.isSome_key_ofConfig epoch.steps

private theorem setup_create (options : Options) (exclude : List Exclude) (pipeline : Pipeline)
    (plan : StorePlan) (made : Except Files.Fault Unit) :
    (Engine.create options exclude pipeline plan made).setup = ⟨pipeline, options.metaFields,
      options.checkerOptions, options.analyzerTimeoutMs, (plan.settle made).1⟩ := rfl

/-- An engine analyzes components as its epoch does, and its store is one of that. -/
theorem setup_engine (cacheDir? : Option Path) (made : Except Files.Fault Unit) :
    ∃ store?, (epoch.engine cacheDir? made).setup = epoch.setup store? ∧
      ∀ store, store? = some store → ∃ dir, cacheDir? = some dir ∧ store = epoch.store dir := by
  obtain ⟨stepsKey, keyed⟩ := Option.isSome_iff_exists.mp epoch.isSome_key
  refine ⟨_, setup_create .., fun store settled => ?_⟩
  cases cacheDir? with
  | none => cases settled
  | some dir =>
    simp only [storePlan, keyed] at settled
    cases made with
    | error fault => cases settled
    | ok =>
      cases settled
      refine ⟨dir, rfl, ?_⟩
      simp only [Epoch.store, Epoch.stepsKey, keyed, Option.getD_some]
      rfl

/-- How an engine stands at first does not depend on a store. -/
theorem standing_engine (cacheDir? : Option Path) (made : Except Files.Fault Unit) :
    (epoch.engine cacheDir? made).standing = (epoch.engine none (.ok ())).standing := rfl

end Epoch

/-- No two strings that are hashed in a history have the same digest. -/
structure CollisionFree (history : List Epoch) : Prop where
  short : Set.InjOn Digest.digest64 {bytes | bytes ∈ history.flatMap Epoch.hashed}
  long : Set.InjOn Digest.digest128 {bytes | bytes ∈ history.flatMap Epoch.fingerprinted}

/-- The entries of a file: what the analyzer of an epoch finds for a component that it gets. -/
def Entered (answer : String → Analyzer.Request → Analyzer.Answer) (history : List Epoch)
    (cacheDir? : Option Path) (path : Path) (entry : Store.Entry) : Prop :=
  ∃ dir, cacheDir? = some dir ∧ ∃ epoch ∈ history, ∃ identity source,
    (identity, source) ∈ epoch.reads ∧ path = (epoch.store dir).file identity.path ∧
    entry.storedAt ≤ Doc.greatestWord ∧ entry.fingerprint = .compute identity.path source ∧
    (epoch.setup none).Finds (answer epoch.key) identity source entry.metadata

variable {history : List Epoch} {epoch other : Epoch} {identity identity' : Identity}
  {source source' : String} {dir : Path} {answer : String → Analyzer.Request → Analyzer.Answer}
  {metadata : Metadata}

namespace CollisionFree

private theorem digests (free : CollisionFree history) (among : epoch ∈ history)
    (among' : other ∈ history) {bytes bytes' : ByteArray} (mine : bytes ∈ epoch.hashed)
    (its : bytes' ∈ other.hashed) (same : Digest.digest64 bytes = Digest.digest64 bytes') :
    bytes = bytes' :=
  free.short (List.mem_flatMap_of_mem among mine) (List.mem_flatMap_of_mem among' its) same

private theorem texts (free : CollisionFree history) (among : epoch ∈ history)
    (among' : other ∈ history) (mine : (identity, source) ∈ epoch.reads)
    (its : (identity', source') ∈ other.reads)
    (same : Fingerprint.compute identity.path source = .compute identity'.path source') :
    Fingerprint.hashed identity.path source = Fingerprint.hashed identity'.path source' := by
  rw [Fingerprint.compute_eq, Fingerprint.compute_eq, Fingerprint.mk.injEq] at same
  exact free.long (List.mem_flatMap_of_mem among (List.mem_map.mpr ⟨_, mine, rfl⟩))
    (List.mem_flatMap_of_mem among' (List.mem_map.mpr ⟨_, its, rfl⟩)) same

private theorem hashed_mem (reads : (identity, source) ∈ epoch.reads) (dir : Path) :
    (epoch.store dir).hashed identity.path ∈ epoch.hashed :=
  .tail _ (.tail _ (List.mem_map.mpr ⟨_, reads, rfl⟩))

/-- Epochs with the same digest agree in all that matters. -/
private theorem agree (free : CollisionFree history) (among : epoch ∈ history)
    (among' : other ∈ history) (same : (epoch.store dir).digest = (other.store dir).digest) :
    other.pipeline = epoch.pipeline ∧ other.options.metaFields = epoch.options.metaFields ∧
      other.options.checkerOptions = epoch.options.checkerOptions ∧ other.key = epoch.key := by
  simp only [Epoch.store, storeDigest_eq] at same
  have stores := free.digests among among' (.tail _ (.head _)) (.tail _ (.head _)) same
  obtain ⟨options, keys⟩ := storeHashed_inj stores
  simp only [Options.analysisDigest] at options
  have texts := free.digests among among' (.head _) (.head _) options
  obtain ⟨fields, transformers, checker, -⟩ := Options.keyText_inj (String.toByteArray_inj.mp texts)
  have steps := epoch.steps
  rw [transformers, other.steps] at steps
  have pipeline : other.pipeline = epoch.pipeline := Except.ok.inj steps
  refine ⟨pipeline, fields.symm, checker.symm, (keys ?_).symm⟩
  rw [Epoch.stepsKey, Epoch.stepsKey, pipeline]

/-- What is found for a source that has the same file and fingerprint is found. -/
theorem finds (free : CollisionFree history) (among : epoch ∈ history) (among' : other ∈ history)
    (mine : (identity, source) ∈ epoch.reads) (its : (identity', source') ∈ other.reads)
    (file : (epoch.store dir).file identity.path = (other.store dir).file identity'.path)
    (fingerprint : Fingerprint.compute identity.path source = .compute identity'.path source')
    (store? : Option Store)
    (found : (other.setup none).Finds (answer other.key) identity' source' metadata) :
    (epoch.setup store?).Finds (answer epoch.key) identity source metadata := by
  have names := free.digests among among' (hashed_mem mine dir) (hashed_mem its dir)
    (Store.digest_of_file file)
  obtain ⟨path, digest⟩ := Store.hashed_inj names
  obtain ⟨pipeline, fields, checker, key⟩ := free.agree among among' digest
  obtain ⟨-, rfl⟩ := Fingerprint.eq_of_hashed (congrArg Path.parts path)
    (free.texts among among' mine its fingerprint)
  rw [← key]
  exact found.transfer other.isSome_key path pipeline.symm fields.symm checker.symm

/-- An epoch shares what it enters with all others. -/
theorem shares (free : CollisionFree history) (among : epoch ∈ history) {cacheDir? : Option Path}
    {store? : Option Store} {sources : Path → Except Files.Fault String} {known : Identity → Prop}
    (stores : ∀ store, store? = some store → ∃ dir, cacheDir? = some dir ∧ store = epoch.store dir)
    (reads : ∀ identity source, known identity → sources identity.path = .ok source →
      (identity, source) ∈ epoch.reads) :
    Shares ⟨sources, answer epoch.key⟩ known (Entered answer history cacheDir?)
      (epoch.setup store?) where
  admits := by
    intro store identity source time metadata stored knows read clock found
    obtain ⟨dir, asked, rfl⟩ := stores store stored
    exact ⟨dir, asked, epoch, among, identity, source, reads _ _ knows read, rfl, clock, rfl, found⟩
  fits := by
    rintro store identity source entry - - - ⟨dir, -, other, -, identity', source', -, -, clock, own, -⟩
    exact ⟨own ▸ Fingerprint.compute_lt .., clock⟩
  found := by
    rintro store identity source entry stored knows read
      ⟨dir, asked, other, among', identity', source', its, file, -, own, found⟩ fingerprint
    obtain ⟨dir', asked', rfl⟩ := stores store stored
    cases asked.symm.trans asked'
    exact free.finds among among' (reads _ _ knows read) its file (fingerprint.symm.trans own) store? found

end CollisionFree

end Engine

end ComponentCatalog
