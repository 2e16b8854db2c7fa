import ComponentCatalog.Proofs.Engine.History

/-! # A store makes no difference

A history is lived with a store in a directory or with none. In each epoch an engine is made and visited;
it takes the steps of a call in any order until there are none left. Files of the store pass from one
epoch to the next. They may be lost at any time or hold but the beginning of what was to be written, and
neither reading nor writing them need succeed. What can be seen is always the same: results, components,
snapshots and how each component stands. So a life with a store cannot be told from one without.
-/

namespace ComponentCatalog

open Component

namespace Engine

open Cache

/-! ## Lives -/

/-- What can be seen of an engine behind a visit. -/
structure Sight where
  result? : Option (Except Fault Answer)
  registered : List Identity
  published : Snapshot
  status : Path → Status

/-- What can be seen of an engine when a visit had a result. -/
def sight (engine : Engine) (result? : Option (Except Fault Answer)) : Sight :=
  ⟨result?, engine.registry.list, engine.published, engine.cache.status⟩

/-- A visit leads from one site to another and to a result. The steps of a call are told what they need, and
it takes them until it can take no more. -/
def Visit.Leads (answer : Analyzer.Request → Analyzer.Answer) (before after : Site)
    (result? : Option (Except Fault Answer)) : Visit → Prop
  | call job source output _ => ∃ id changes,
    Follows Site.act (Site.Told ⟨source, answer⟩ output id) ⟨before.engine.start id job, before.files⟩
      changes ∧
    Site.run ⟨before.engine.start id job, before.files⟩ changes = after ∧
    (∀ change, ¬ after.Told ⟨source, answer⟩ output id change) ∧ result? = after.engine.result? id
  | invalidate path =>
    after = ⟨before.engine.act (.invalidate path), before.files⟩ ∧ result? = some (.ok .nothing)
  | invalidateAll =>
    after = ⟨before.engine.act .invalidateAll, before.files⟩ ∧ result? = some (.ok .nothing)
  | snapshot =>
    after = ⟨before.engine.takeSnapshot.1, before.files⟩ ∧
      result? = some (.ok (.snapshot before.engine.takeSnapshot.2))

/-- Visits one after the other, and what is seen behind each of them. -/
inductive Undergoes (answer : Analyzer.Request → Analyzer.Answer) :
    List Visit → Site → List Sight → Site → Prop
  | nothing (site : Site) : Undergoes answer [] site [] site
  | visit {visit : Visit} {visits : List Visit} {before between after : Site} {sights : List Sight}
      {result? : Option (Except Fault Answer)} (leads : visit.Leads answer before between result?)
      (rest : Undergoes answer visits between sights after) :
      Undergoes answer (visit :: visits) before (between.engine.sight result? :: sights) after

/-- Epochs one after the other with the same directory for a store, and what is seen in each of them. -/
inductive Lives (answer : String → Analyzer.Request → Analyzer.Answer) (cacheDir? : Option Path) :
    List Epoch → (Path → Option ByteArray) → List (List Sight) → Prop
  | nothing (files : Path → Option ByteArray) : Lives answer cacheDir? [] files []
  | epoch {epoch : Epoch} {history : List Epoch} {files : Path → Option ByteArray}
      {sights : List Sight} {seen : List (List Sight)} {after : Site} (made : Except Files.Fault Unit)
      (undergoes : Undergoes (answer epoch.key) epoch.visits ⟨epoch.engine cacheDir? made, files⟩ sights after)
      (rest : Lives answer cacheDir? history after.files seen) :
      Lives answer cacheDir? (epoch :: history) files (sights :: seen)

/-! ## Visits -/

/-- What a visit comes to. -/
def Visit.fate? (answer : Analyzer.Request → Analyzer.Answer) (engine : Engine) : Visit → Option Fate
  | call job source output _ => (engine.start 0 job).fate? ⟨source, answer⟩ output 0
  | invalidate path => some ⟨.ok .nothing, engine.standing.invalidate path⟩
  | invalidateAll => some ⟨.ok .nothing, engine.standing.invalidateAll⟩
  | snapshot => some engine.standing.takeSnapshot

/-- What a visit comes to depends on how the engine stands alone. -/
theorem Visit.fate?_congr {engine other : Engine} (answer : Analyzer.Request → Analyzer.Answer)
    (standing : other.standing = engine.standing) (setup : other.setup.storeless = engine.setup.storeless)
    (visit : Visit) : visit.fate? answer other = visit.fate? answer engine := by
  cases visit with
  | call job source output fits => exact fate?_start _ _ standing setup 0 0 job
  | invalidate path => rw [fate?, fate?, standing]
  | invalidateAll => rw [fate?, fate?, standing]
  | snapshot => rw [fate?, fate?, standing]

/-- What is seen depends on the result and on how the engine stands. -/
theorem sight_congr {engine other : Engine} (standing : other.standing = engine.standing)
    (result? : Option (Except Fault Answer)) : other.sight result? = engine.sight result? := by
  have known : other.cache.slot? = engine.cache.slot? := congrArg Standing.slot? standing
  have status : other.cache.status = engine.cache.status := by
    funext path
    exact congrArg (fun slot? => (Option.getD slot? ({} : Slot)).status) (congrFun known path)
  have registry : other.registry = engine.registry := congrArg Standing.registry standing
  have published : other.published = engine.published := congrArg Standing.published standing
  rw [sight, sight, status, registry, published]

private theorem registry_begun (engine : Engine) (id : Nat) (job : Job)
    (source : Path → Except Files.Fault String) (output : Output)
    (fits : ∀ file (need : Need), need.Fits (output file need)) :
    (engine.start id job).registry = (Visit.call job source output fits).registry engine.registry := by
  cases job with
  | sync descriptors => exact registry_withDiff ..
  | _ => exact registry_start engine id nofun

/-- Between its visits, an engine rests and analyzes components as its epoch does. Ahead of it are reads of
the epoch, and beside it are entries of the history. -/
structure Between (answer : String → Analyzer.Request → Analyzer.Answer) (history : List Epoch)
    (cacheDir? : Option Path) (epoch : Epoch) (visits : List Visit) (site : Site) : Prop where
  resting : site.engine.Resting
  setup : ∃ store?, site.engine.setup = epoch.setup store? ∧
    ∀ store, store? = some store → ∃ dir, cacheDir? = some dir ∧ store = epoch.store dir
  genuine : Genuine (Entered answer history cacheDir?) site.files
  reads : Visit.allReads site.engine.registry visits ⊆ epoch.reads

namespace Between

variable {answer : String → Analyzer.Request → Analyzer.Answer} {history : List Epoch}
  {cacheDir? cacheDir'? : Option Path} {epoch : Epoch} {visit : Visit} {visits : List Visit}
  {site site' after after' : Site} {sights sights' : List Sight}

theorem begin (epoch : Epoch) (made : Except Files.Fault Unit) {files : Path → Option ByteArray}
    (genuine : Genuine (Entered answer history cacheDir?) files) :
    Between answer history cacheDir? epoch epoch.visits ⟨epoch.engine cacheDir? made, files⟩ :=
  ⟨.create .., epoch.setup_engine cacheDir? made, genuine, List.Subset.refl _⟩

theorem storeless (between : Between answer history cacheDir? epoch visits site) :
    site.engine.setup.storeless = epoch.setup none := by
  obtain ⟨store?, setup, -⟩ := between.setup
  rw [setup]
  rfl

section

variable {job : Job} {source : Path → Except Files.Fault String} {output : Output}
  {fits : ∀ file (need : Need), need.Fits (output file need)}

/-- A call that is made between visits is alone, and what is stored for it can be trusted. -/
private theorem visited (free : CollisionFree history) (among : epoch ∈ history)
    (between : Between answer history cacheDir? epoch (.call job source output fits :: visits) site)
    {id : Nat} {fate : Fate}
    (fate? : (site.engine.start id job).fate? ⟨source, answer epoch.key⟩ output id = some fate) :
    Site.Visited ⟨source, answer epoch.key⟩ output (· ∈ job.gets site.engine.registry)
      (Entered answer history cacheDir?) id fate ⟨site.engine.start id job, site.files⟩ := by
  obtain ⟨store?, setup, stores⟩ := between.setup
  refine ⟨between.resting.sole id job fun _ member => member, ?_, between.genuine, fate?⟩
  rw [setup_start, setup]
  refine free.shares among stores fun identity text member read => between.reads ?_
  exact List.mem_append_left _ (Visit.mem_reads member read)

/-- A call that can take no step any more came to its fate, and the next visit can be made. -/
private theorem ended (free : CollisionFree history) (among : epoch ∈ history)
    (between : Between answer history cacheDir? epoch (.call job source output fits :: visits) site)
    {id : Nat} {changes : List Site.Change} {fate : Fate}
    (fate? : (site.engine.start id job).fate? ⟨source, answer epoch.key⟩ output id = some fate)
    (follows : Follows Site.act (Site.Told ⟨source, answer epoch.key⟩ output id)
      ⟨site.engine.start id job, site.files⟩ changes)
    (ran : Site.run ⟨site.engine.start id job, site.files⟩ changes = after)
    (stuck : ∀ change, ¬ after.Told ⟨source, answer epoch.key⟩ output id change) :
    after.engine.result? id = some fate.result ∧ after.engine.standing = fate.standing ∧
      Between answer history cacheDir? epoch visits after := by
  subst ran
  have visited := follows.preserves (fun _ _ visited told => visited.act fits told)
    (between.visited free among fate?)
  obtain ⟨result, standing, resting⟩ := visited.ends stuck
  have same := follows.preserves (P := fun site' => site'.engine.setup = site.engine.setup ∧
      site'.engine.registry = (Visit.call job source output fits).registry site.engine.registry) ?_
    ⟨setup_start .., registry_begun ..⟩
  · refine ⟨result, standing, resting, same.1 ▸ between.setup, visited.genuine, ?_⟩
    exact same.2 ▸ fun read member => between.reads (List.mem_append_right _ member)
  · rintro site' change ⟨setup, registry⟩ ⟨index, reply, -, -, event, -⟩
    rw [Site.act, event]
    exact ⟨(setup_step ..).trans setup, (registry_step ..).trans registry⟩

/-- Every call has a fate, whichever number it is given. -/
private theorem exists_fate
    (between : Between answer history cacheDir? epoch (.call job source output fits :: visits) site) :
    ∃ fate, ∀ id, (site.engine.start id job).fate? ⟨source, answer epoch.key⟩ output id = some fate := by
  have sole : (site.engine.start 0 job).Sole ⟨source, answer epoch.key⟩ (fun _ => True) 0 :=
    between.resting.sole 0 job fun _ _ => trivial
  obtain ⟨⟨call, now, -⟩, -⟩ := sole
  exact ⟨_, fun id => (fate?_start _ _ rfl rfl 0 id job).trans (congrArg (Option.map _) now)⟩

end

/-- A visit can be made to its end, and leads to its fate. -/
theorem leads (free : CollisionFree history) (among : epoch ∈ history)
    (between : Between answer history cacheDir? epoch (visit :: visits) site) :
    ∃ fate, visit.fate? (answer epoch.key) site.engine = some fate ∧
      (∃ after, visit.Leads (answer epoch.key) site after (some fate.result)) ∧
      ∀ after result?, visit.Leads (answer epoch.key) site after result? →
        result? = some fate.result ∧ after.engine.standing = fate.standing ∧
          Between answer history cacheDir? epoch visits after := by
  cases visit with
  | call job source output fits =>
    obtain ⟨fate, comes⟩ := between.exists_fate
    refine ⟨fate, comes 0, ?_, ?_⟩
    · obtain ⟨changes, follows, stuck⟩ := (between.visited free among (comes 0)).exists_run fits
      have result := (between.ended free among (comes 0) follows rfl stuck).1
      exact ⟨_, 0, changes, follows, rfl, stuck, result.symm⟩
    · rintro after _ ⟨id, changes, follows, ran, stuck, rfl⟩
      exact between.ended free among (comes id) follows ran stuck
  | invalidate path =>
    refine ⟨_, rfl, ⟨_, rfl, rfl⟩, ?_⟩
    rintro _ _ ⟨rfl, rfl⟩
    exact ⟨rfl, standing_invalidate .., between.resting.act_invalidate path, between.setup, between.genuine,
      between.reads⟩
  | invalidateAll =>
    refine ⟨_, rfl, ⟨_, rfl, rfl⟩, ?_⟩
    rintro _ _ ⟨rfl, rfl⟩
    exact ⟨rfl, standing_invalidateAll .., between.resting.act_invalidateAll, between.setup, between.genuine,
      between.reads⟩
  | snapshot =>
    have settled := site.engine.takeSnapshot_eq
    refine ⟨_, congrArg some settled.symm, ⟨_, rfl, rfl⟩, ?_⟩
    rintro _ _ ⟨rfl, rfl⟩
    exact ⟨rfl, rfl, between.resting.takeSnapshot, between.setup, between.genuine, between.reads⟩

/-- Visits leave entries alone. -/
theorem genuine_of_undergoes (free : CollisionFree history) (among : epoch ∈ history)
    (between : Between answer history cacheDir? epoch visits site)
    (undergoes : Undergoes (answer epoch.key) visits site sights after) :
    Genuine (Entered answer history cacheDir?) after.files := by
  induction undergoes with
  | nothing site => exact between.genuine
  | visit leads _ ih =>
    obtain ⟨fate, -, -, ends⟩ := between.leads free among
    exact ih (ends _ _ leads).2.2

/-- The same is seen of two engines that stand alike, whatever stores they have. -/
theorem agree (free : CollisionFree history) (among : epoch ∈ history)
    (between : Between answer history cacheDir? epoch visits site)
    (between' : Between answer history cacheDir'? epoch visits site')
    (standing : site'.engine.standing = site.engine.standing)
    (undergoes : Undergoes (answer epoch.key) visits site sights after)
    (undergoes' : Undergoes (answer epoch.key) visits site' sights' after') : sights' = sights := by
  induction undergoes generalizing site' sights' with
  | nothing site =>
    cases undergoes'
    rfl
  | visit leads _ ih =>
    cases undergoes' with
    | visit leads' rest' =>
      obtain ⟨fate, comes, -, ends⟩ := between.leads free among
      obtain ⟨fate', comes', -, ends'⟩ := between'.leads free among
      have setup := between'.storeless.trans between.storeless.symm
      rw [Visit.fate?_congr (answer epoch.key) standing setup, comes] at comes'
      cases comes'
      obtain ⟨result, stands, later⟩ := ends _ _ leads
      obtain ⟨result', stands', later'⟩ := ends' _ _ leads'
      have alike := stands'.trans stands.symm
      rw [result, result', sight_congr alike, ih later later' alike rest']

end Between

/-! ## Histories -/

namespace Lives

variable {answer : String → Analyzer.Request → Analyzer.Answer} {history epochs : List Epoch}
  {cacheDir? cacheDir'? : Option Path} {files files' : Path → Option ByteArray} {seen seen' : List (List Sight)}

/-- The same is seen whether and where there is a store. -/
theorem agree (free : CollisionFree history) (among : epochs ⊆ history)
    (genuine : Genuine (Entered answer history cacheDir?) files)
    (genuine' : Genuine (Entered answer history cacheDir'?) files')
    (lives : Lives answer cacheDir? epochs files seen)
    (lives' : Lives answer cacheDir'? epochs files' seen') : seen' = seen := by
  induction lives generalizing files' seen' with
  | nothing files =>
    cases lives'
    rfl
  | @epoch epoch _ _ _ _ _ made undergoes _ ih =>
    cases lives' with
    | epoch made' undergoes' rest' =>
      obtain ⟨here, others⟩ := List.cons_subset.mp among
      have between := Between.begin epoch made genuine
      have between' := Between.begin epoch made' genuine'
      have standing := (epoch.standing_engine cacheDir'? made').trans
        (epoch.standing_engine cacheDir? made).symm
      have kept := between.genuine_of_undergoes free here undergoes
      have kept' := between'.genuine_of_undergoes free here undergoes'
      rw [between.agree free here between' standing undergoes undergoes', ih others kept kept' rest']

end Lives

/-- All that is published can be written. -/
def writable : Output
  | _, .nothing => .nothing
  | _, .readText _ => .text (.error .missing)
  | _, .readBytes _ => .bytes (.error .missing)
  | _, .look _ => .there false
  | _, .makeDirs _ | _, .write .. | _, .remove _ => .done (.ok ())
  | _, .describe .. => .answered .late 0

private theorem fits_writable (file : Path) (need : Need) : need.Fits (writable file need) := by
  cases need <;> trivial

/-- A component is parsed. -/
def cardEpoch : Epoch where
  options := { transformers := [], checkerOptions := { ignore := [] }, exclude := [] }
  key := "analyzer"
  exclude := []
  pipeline := []
  valid := rfl
  excludes := rfl
  steps := rfl
  visits := [.call (.parse ⟨"Card", ⟨"/Card.vue"⟩, false⟩) (fun _ => .ok "<template/>") writable fits_writable]

private theorem nodup_digests : (cardEpoch.hashed.map Digest.digest64).Nodup := by decide +kernel

end Engine

end ComponentCatalog
