import ComponentCatalog.Proofs.Cache.Alone
import ComponentCatalog.Proofs.Engine.Site

/-! # What a call that is alone comes to

If sources and the answers of the analyzer do not change, then all that a call comes to on its path is
settled by the slot, the source and the file of the store that it finds there: the entry that it gets,
the slot that it leaves, and what the revision gains. `Get.prospect` says at each stage what that will
be. Steps of the call keep it.
-/

namespace ComponentCatalog

open Component

namespace Cache

/-- What stays the same outside: the sources, and what the analyzer answers. -/
structure Outside where
  source : Path → Except Files.Fault String
  answer : Analyzer.Request → Analyzer.Answer

/-- A reply tells what is outside, or what a file holds. -/
def Outside.Replies (outside : Outside) (files : Path → Option ByteArray) (need : Need)
    (reply : Reply) : Prop :=
  match need with
  | .readText path => reply = .text (outside.source path)
  | .readBytes path => ∃ result, reply = .bytes result ∧ result.toOption = files path
  | .describe _ request => ∃ time, reply = .answered (outside.answer request) time
  | _ => True

/-! ## What analyses come to -/

namespace Analysis

/-- What an analysis has come to, be it recorded, found or still to be stored. -/
def upshot? (analysis : Analysis) : Option (Except String Entry) :=
  match analysis.stage with
  | .storing metadata _ => some (.ok (analysis.entry (.resolved metadata)))
  | .found result | .recorded result => some result
  | .created | .asked _ => none

variable (outside : Outside) (setup : Setup) (files : Path → Option ByteArray)

/-- What an analysis has come to once the analyzer answered. -/
def answered? (analysis : Analysis) : Option (Except String Entry) :=
  match analysis.stage with
  | .asked request => (analysis.answer setup {} 0 (outside.answer request)).2.upshot?
  | _ => analysis.upshot?

/-- The metadata that are stored for the source of an analysis. -/
def stored? (analysis : Analysis) : Option Metadata :=
  setup.store?.bind fun store => (files (store.file analysis.identity.path)).bind
    (Store.Entry.metadataFor? analysis.fingerprint)

/-- What an analysis will have come to. -/
def verdict? (analysis : Analysis) : Option (Except String Entry) :=
  match analysis.stage with
  | .created =>
    match analysis.stored? setup files with
    | some metadata => some (.ok (analysis.entry (.resolved metadata)))
    | none => (analysis.begin setup {}).2.answered? outside setup
  | _ => analysis.answered? outside setup

variable {outside setup files} {analysis : Analysis}

/-- How an analysis begins does not depend on the cache. -/
theorem begin_snd_eq (analysis : Analysis) (cache : Cache) :
    (analysis.begin setup cache).2 = (analysis.begin setup {}).2 := by
  unfold begin
  split <;> rfl

private theorem verdict?_of_begin (analysis : Analysis) (cache : Cache) :
    (analysis.begin setup cache).2.verdict? outside setup files =
      (analysis.begin setup {}).2.answered? outside setup := by
  rw [begin_snd_eq]
  unfold begin
  split <;> rfl

/-- What comes of an answer depends neither on the cache nor on the time. -/
private theorem verdict?_of_answer (analysis : Analysis) (cache : Cache) (time : Nat)
    (answer : Analyzer.Answer) :
    (analysis.answer setup cache time answer).2.verdict? outside setup files =
      (analysis.answer setup {} 0 answer).2.upshot? := by
  cases answer with
  | described raw =>
    simp only [Analysis.answer, describe]
    split
    · split <;> rfl
    · rfl
  | failed fault => cases fault <;> rfl
  | late => rfl
  | panicked reason => rfl

/-- A step with a true reply leads on to the same. -/
theorem verdict?_step (going : analysis.result? = none) {task : Nat} {reply : Reply}
    (replies : outside.Replies files (analysis.need setup task) reply) (cache : Cache)
    (files' : Path → Option ByteArray) :
    (analysis.step setup task cache reply).2.verdict? outside setup files' =
      analysis.verdict? outside setup files := by
  cases stage : analysis.stage with
  | created =>
    cases store : setup.store? with
    | none =>
      rw [step_created setup cache stage store, verdict?_of_begin]
      simp only [verdict?, stage, stored?, store, Option.bind_none]
    | some store' =>
      simp only [need, stage, store] at replies
      obtain ⟨result, rfl, holds⟩ := replies
      have before : analysis.verdict? outside setup files =
          match result.toOption.bind (Store.Entry.metadataFor? analysis.fingerprint) with
          | some metadata => some (.ok (analysis.entry (.resolved metadata)))
          | none => (analysis.begin setup {}).2.answered? outside setup := by
        simp only [verdict?, stage, stored?, store, Option.bind_some, holds]
      rw [step_created_bytes setup cache stage (Option.isSome_of_eq_some store), before]
      cases result.toOption.bind (Store.Entry.metadataFor? analysis.fingerprint) with
      | none => exact verdict?_of_begin analysis cache
      | some metadata => rfl
  | asked request =>
    simp only [need, stage] at replies
    obtain ⟨time, rfl⟩ := replies
    rw [step_asked setup cache stage, verdict?_of_answer]
    simp only [verdict?, answered?, stage]
  | storing metadata time =>
    have before : ∀ files, analysis.verdict? outside setup files =
        some (.ok (analysis.entry (.resolved metadata))) := fun _ => by
      simp only [verdict?, answered?, upshot?, stage]
    rw [before]
    rcases step_storing setup cache stage reply with found | rest
    · rw [found]
      rfl
    · rw [rest, before]
  | found result => simp [result?, stage] at going
  | recorded result => simp [result?, stage] at going

/-- Every analysis will have come to something. -/
theorem exists_verdict (outside : Outside) (setup : Setup) (files : Path → Option ByteArray)
    (analysis : Analysis) : ∃ result, analysis.verdict? outside setup files = some result := by
  have upshot : ∀ answer, ∃ result, (analysis.answer setup {} 0 answer).2.upshot? = some result := by
    intro answer
    cases answer with
    | described raw =>
      simp only [Analysis.answer, describe]
      split
      · split <;> exact ⟨_, rfl⟩
      · exact ⟨_, rfl⟩
    | failed fault => cases fault <;> exact ⟨_, rfl⟩
    | late => exact ⟨_, rfl⟩
    | panicked reason => exact ⟨_, rfl⟩
  cases stage : analysis.stage with
  | created =>
    simp only [verdict?, stage]
    split
    · exact ⟨_, rfl⟩
    · unfold begin
      split
      · exact ⟨_, rfl⟩
      · exact upshot _
  | asked request =>
    simp only [verdict?, answered?, stage]
    exact upshot _
  | _ => simp [verdict?, answered?, upshot?, stage]

/-- Of the files only that of the component matters. -/
theorem verdict?_congr (outside : Outside) {files' : Path → Option ByteArray} (analysis : Analysis)
    (same : ∀ store, setup.store? = some store →
      files' (store.file analysis.identity.path) = files (store.file analysis.identity.path)) :
    analysis.verdict? outside setup files' = analysis.verdict? outside setup files := by
  have stored : analysis.stored? setup files' = analysis.stored? setup files := by
    unfold stored?
    cases store : setup.store? with
    | none => rfl
    | some store' => simp only [Option.bind_some, same store' store]
  simp only [verdict?, stored]

end Analysis

/-! ## What calls come to -/

/-- What a call comes to: the entry that it gets, the slot that it leaves, and what the revision gains
until then. -/
@[ext]
structure Prospect where
  result? : Option (Except String Entry)
  slot : Slot
  gain : Nat

/-- What comes of an analysis that is on its way to a slot. -/
def Analysis.prospect (outside : Outside) (setup : Setup) (files : Path → Option ByteArray)
    (analysis : Analysis) (slot : Slot) : Prospect :=
  match analysis.stage with
  | .recorded result => ⟨some result, slot, 0⟩
  | _ =>
    match analysis.verdict? outside setup files with
    | some result =>
      ⟨some result, slot.settled ⟨0, analysis.fingerprint, false⟩ result, if result.isOk then 1 else 0⟩
    | none => ⟨none, slot.landed, 0⟩

namespace Get

variable (outside : Outside) (setup : Setup) (files : Path → Option ByteArray)

/-- What a call comes to that looks up the cache with a source. -/
def lookingProspect (slot : Slot) (get : Get) (source : String) : Prospect :=
  match slot.hit? get.identity (get.fingerprint source) with
  | some entry => ⟨some (.ok entry), slot, 0⟩
  | none =>
    let analysis : Analysis := ⟨get.identity, source, get.fingerprint source, .created⟩
    analysis.prospect outside setup files slot

/-- What a call comes to that is alone on its path. -/
def prospect (cache : Cache) (get : Get) : Prospect :=
  let slot := cache.slot get.identity.path
  match get.stage with
  | .reading =>
    match outside.source get.identity.path with
    | .ok source => get.lookingProspect outside setup files slot source
    | .error fault =>
      let entry := unreadableEntry get.identity fault
      ⟨some (.ok entry), .unreadable entry, 1⟩
  | .looking source => get.lookingProspect outside setup files slot source
  | .waiting _ task _ =>
    match cache.tasks.get? task with
    | some analysis => analysis.prospect outside setup files slot
    | none => ⟨none, slot, 0⟩
  | .done result => ⟨some result, slot, 0⟩

end Get

section

variable {outside : Outside} {setup : Setup} {files files' : Path → Option ByteArray}
  {analysis : Analysis}

theorem Analysis.prospect_of_recorded {result : Except String Entry}
    (recorded : analysis.stage = .recorded result) (slot : Slot) :
    analysis.prospect outside setup files slot = ⟨some result, slot, 0⟩ := by
  simp only [prospect, recorded]

theorem Analysis.prospect_of_open (opened : analysis.Open) {result : Except String Entry}
    (verdict : analysis.verdict? outside setup files = some result) (slot : Slot) :
    analysis.prospect outside setup files slot =
      ⟨some result, slot.settled ⟨0, analysis.fingerprint, false⟩ result,
        if result.isOk then 1 else 0⟩ := by
  unfold prospect
  split
  · next recorded => exact absurd recorded (opened _)
  · rw [verdict]

variable {get : Get} {cache cache' : Cache}

theorem Get.lookingProspect_congr
    (same : ∀ store, setup.store? = some store →
      files' (store.file get.identity.path) = files (store.file get.identity.path))
    (slot : Slot) (source : String) :
    get.lookingProspect outside setup files' slot source =
      get.lookingProspect outside setup files slot source := by
  have verdict := Analysis.verdict?_congr outside
    ⟨get.identity, source, get.fingerprint source, .created⟩ same
  simp only [Get.lookingProspect, Analysis.prospect, verdict]

/-- A call that is to start an analysis comes to what the analysis comes to. -/
private theorem lookingProspect_of_miss {source : String}
    (miss : (cache.slot get.identity.path).hit? get.identity (get.fingerprint source) = none) :
    get.lookingProspect outside setup files (cache.slot get.identity.path) source =
      Analysis.prospect outside setup files ⟨get.identity, source, get.fingerprint source, .created⟩
        (cache.slot get.identity.path) := by
  simp only [Get.lookingProspect, miss]

/-- A call goes on to what it comes to, and the revision gains what is said. -/
def Get.Keeps (outside : Outside) (setup : Setup) (files files' : Path → Option ByteArray)
    (cache cache' : Cache) (get get' : Get) : Prop :=
  (get'.prospect outside setup files' cache').result? =
      (get.prospect outside setup files cache).result? ∧
    (get'.prospect outside setup files' cache').slot = (get.prospect outside setup files cache).slot ∧
    cache'.revision + (get'.prospect outside setup files' cache').gain =
      cache.revision + (get.prospect outside setup files cache).gain

variable {reply : Reply}

private theorem Get.keeps_reading (reading : get.stage = .reading)
    (idle : (cache.slot get.identity.path).inFlight? = none)
    (replies : reply = .text (outside.source get.identity.path))
    (kept : ∀ store, setup.store? = some store →
      files' (store.file get.identity.path) = files (store.file get.identity.path)) :
    Get.Keeps outside setup files files' cache (get.step setup cache reply).1 get
      (get.step setup cache reply).2 := by
  subst replies
  cases source : outside.source get.identity.path with
  | ok text =>
    have step : get.step setup cache (.text (.ok text)) = (cache, { get with stage := .looking text }) := by
      simp only [Get.step, reading]
    have before : get.prospect outside setup files cache =
        get.lookingProspect outside setup files (cache.slot get.identity.path) text := by
      simp only [prospect, reading, source]
    have after : Get.prospect outside setup files' cache { get with stage := .looking text } =
        get.lookingProspect outside setup files (cache.slot get.identity.path) text :=
      Get.lookingProspect_congr kept _ text
    rw [step, Keeps, before, after]
    exact ⟨rfl, rfl, rfl⟩
  | error fault =>
    have step : get.step setup cache (.text (.error fault)) =
        (cache.recordUnreadable get.identity fault,
          { get with stage := .done (.ok (unreadableEntry get.identity fault)) }) := by
      simp only [Get.step, reading]
    have before : get.prospect outside setup files cache =
        ⟨some (.ok (unreadableEntry get.identity fault)),
          .unreadable (unreadableEntry get.identity fault), 1⟩ := by
      simp only [prospect, reading, source]
    have slot := slot?_recordUnreadable cache get.identity.path get.identity fault
    rw [if_pos ⟨rfl, idle⟩] at slot
    have revision : (cache.recordUnreadable get.identity fault).revision = cache.revision + 1 := by
      rcases recordUnreadable_cases cache get.identity fault with ⟨busy, -⟩ | ⟨-, eq⟩
      · simp [idle] at busy
      · rw [eq]
    rw [step, Keeps, before]
    exact ⟨rfl, slot_eq _ slot, revision⟩

private theorem Get.keeps_looking {source : String} (looking : get.stage = .looking source)
    (idle : (cache.slot get.identity.path).inFlight? = none)
    (kept : ∀ store, setup.store? = some store →
      files' (store.file get.identity.path) = files (store.file get.identity.path)) :
    Get.Keeps outside setup files files' cache (get.step setup cache reply).1 get
      (get.step setup cache reply).2 := by
  have before : get.prospect outside setup files cache =
      get.lookingProspect outside setup files (cache.slot get.identity.path) source := by
    simp only [prospect, looking]
  cases hit : (cache.slot get.identity.path).hit? get.identity (get.fingerprint source) with
  | some entry =>
    rw [Get.step_hit setup reply looking idle hit, Keeps, before]
    simp only [Get.lookingProspect, hit]
    exact ⟨rfl, rfl, rfl⟩
  | none =>
    let analysis : Analysis := ⟨get.identity, source, get.fingerprint source, .created⟩
    obtain ⟨result, verdict⟩ := Analysis.exists_verdict outside setup files analysis
    have opened : analysis.Open := by rintro _ ⟨⟩
    have slot := slot_eq _ ((slot?_launched cache get.identity.path get.identity
      (get.fingerprint source) source).trans (if_pos rfl))
    have after : Get.prospect outside setup files' (cache.launched get.identity
        (get.fingerprint source) source) { get with stage := .waiting source cache.nextTask false } =
        analysis.prospect outside setup files' { cache.slot get.identity.path with
          inFlight? := some ⟨cache.nextTask, get.fingerprint source, false⟩ } := by
      simp only [prospect, tasks_launched, slot]
      rfl
    rw [Get.step_start setup reply looking idle hit, Keeps, before, after, lookingProspect_of_miss hit,
      Analysis.prospect_of_open opened ((Analysis.verdict?_congr outside analysis kept).trans verdict),
      Analysis.prospect_of_open opened verdict]
    refine ⟨rfl, ?_, rfl⟩
    cases result <;> rfl

private theorem prospect_waiting {source : String} {task : Nat} {joined : Bool} {analysis : Analysis}
    (waiting : get.stage = .waiting source task joined) (present : cache.tasks.get? task = some analysis) :
    get.prospect outside setup files cache =
      analysis.prospect outside setup files (cache.slot get.identity.path) := by
  simp only [Get.prospect, waiting, present]

/-- As long as an analysis goes on, the call that waits for it comes to what the analysis comes to. -/
private theorem Get.keeps_going {source : String} {task : Nat} {joined : Bool} {analysis : Analysis}
    (waiting : get.stage = .waiting source task joined) (present : cache.tasks.get? task = some analysis)
    (going : analysis.result? = none) (replies : outside.Replies files (analysis.need setup task) reply) :
    Get.Keeps outside setup files files' cache (get.step setup cache reply).1 get
      (get.step setup cache reply).2 := by
  have verdict := Analysis.verdict?_step going replies cache files'
  obtain ⟨result, will⟩ := Analysis.exists_verdict outside setup files analysis
  obtain ⟨analyses, notices, next, eq, opened, -⟩ := analysis.step_working setup cache task reply going
  have was : analysis.Open := by
    intro result recorded
    simp [Analysis.result?, recorded] at going
  rw [will, eq] at verdict
  have after : get.prospect outside setup files' { cache with
      analyses, notices, tasks := cache.tasks.set task { analysis with stage := next } } =
      Analysis.prospect outside setup files' { analysis with stage := next }
        (cache.slot get.identity.path) :=
    prospect_waiting waiting ((Table.get?_set ..).trans (if_pos rfl))
  rw [Get.step_going setup reply waiting present going, eq, Keeps, prospect_waiting waiting present]
  dsimp only
  rw [after, Analysis.prospect_of_open (fun result => opened result) verdict,
    Analysis.prospect_of_open was will]
  exact ⟨rfl, rfl, rfl⟩

theorem Get.keeps_waiting {source : String} {task : Nat} {joined : Bool} {need : Need}
    (waiting : get.stage = .waiting source task joined) (alone : get.Alone cache)
    (needs : get.need? setup cache = some need) (replies : outside.Replies files need reply) :
    Get.Keeps outside setup files files' cache (get.step setup cache reply).1 get
      (get.step setup cache reply).2 := by
  obtain ⟨rfl, stage, present⟩ := alone.own source task joined waiting
  obtain rfl : need = Analysis.need ⟨get.identity, source, get.fingerprint source, stage⟩ setup task := by
    simpa [need?, waiting, present] using needs.symm
  cases found : stage with
  | recorded result =>
    subst found
    rw [Get.step_take setup reply waiting present rfl, Keeps, prospect_waiting waiting present,
      Analysis.prospect_of_recorded rfl]
    cases result <;> exact ⟨rfl, rfl, rfl⟩
  | found result =>
    subst found
    have verdict : Analysis.verdict? outside setup files
        ⟨get.identity, source, get.fingerprint source, .found result⟩ = some result := rfl
    have flying := alone.flight.trans (flight?_of_open waiting present (by rintro _ ⟨⟩))
    obtain ⟨slot, revision⟩ := recorded_of_flight
      ⟨get.identity, source, get.fingerprint source, .found result⟩ flying rfl result
    rw [Get.step_record setup reply waiting present rfl, Keeps, prospect_waiting waiting present,
      Analysis.prospect_of_open (by rintro _ ⟨⟩) verdict]
    simp only [prospect, waiting, tasks_recorded, ↓reduceIte]
    rw [Analysis.prospect_of_recorded rfl, revision]
    refine ⟨rfl, slot.trans ?_, rfl⟩
    cases result <;> rfl
  | _ =>
    subst found
    exact keeps_going waiting present rfl replies

/-- A step with a true reply keeps what a call comes to that is alone. -/
theorem Get.keeps_step {need : Need} (alone : get.Alone cache)
    (needs : get.need? setup cache = some need) (replies : outside.Replies files need reply)
    (kept : (∀ file text, need ≠ .write file text) → ∀ store, setup.store? = some store →
      files' (store.file get.identity.path) = files (store.file get.identity.path)) :
    Get.Keeps outside setup files files' cache (get.step setup cache reply).1 get
      (get.step setup cache reply).2 := by
  have flight := alone.flight
  cases stage : get.stage with
  | reading =>
    simp only [need?, stage, Option.some.injEq] at needs
    subst needs
    rw [flight?, stage] at flight
    exact keeps_reading stage flight replies (kept (by simp))
  | looking source =>
    simp only [need?, stage, Option.some.injEq] at needs
    subst needs
    rw [flight?, stage] at flight
    exact keeps_looking stage flight (kept (by simp))
  | waiting source task joined => exact keeps_waiting stage alone needs replies
  | done result => simp [need?, stage] at needs

/-- What a call on another path comes to stays the same, as long as its file of the store does. -/
theorem Get.prospect_other {other : Get} {stage : Get.Stage}
    (step : Get.Transition setup cache get reply cache' stage) (sound : cache.Sound)
    (alone : get.Alone cache) (apart : get.identity.path.parts ≠ other.identity.path.parts)
    (beside : other.Alone cache)
    (kept : ∀ store, setup.store? = some store →
      files' (store.file other.identity.path) = files (store.file other.identity.path)) :
    other.prospect outside setup files' cache' = other.prospect outside setup files cache := by
  have slot := (step.frame sound alone apart).1
  cases at_ : other.stage with
  | reading => simp only [prospect, at_, slot, Get.lookingProspect_congr kept]
  | looking source => simp only [prospect, at_, slot, Get.lookingProspect_congr kept]
  | waiting source task joined =>
    obtain ⟨-, before, there⟩ := beside.own source task joined at_
    have verdict := Analysis.verdict?_congr outside
      ⟨other.identity, source, other.fingerprint source, before⟩ kept
    simp only [prospect, at_, slot, step.waited sound alone apart beside at_, there,
      Analysis.prospect, verdict]
  | done result => simp only [prospect, at_, slot]

/-- Getting an entry changes a path only by writing it. -/
theorem Get.spares {need : Need} (needs : get.need? setup cache = some need) {path : Path}
    (apart : ∀ file text, need = .write file text → file ≠ path) : Engine.Spares path need := by
  cases stage : get.stage with
  | waiting source task joined =>
    simp only [need?, stage] at needs
    obtain ⟨analysis, -, same⟩ := Option.map_eq_some_iff.mp needs
    unfold Analysis.need at same
    split at same <;> subst same
    · trivial
    · trivial
    · exact apart _ _ rfl
    · trivial
  | done result => simp [need?, stage] at needs
  | _ =>
    simp only [need?, stage, Option.some.injEq] at needs
    exact needs ▸ trivial

/-- A call that is alone writes no file but that of its component. -/
theorem Get.write_of_alone {file : Path} {text : String} (alone : get.Alone cache)
    (needs : get.need? setup cache = some (.write file text)) :
    ∃ store, setup.store? = some store ∧ file = store.file get.identity.path := by
  cases stage : get.stage with
  | waiting source task joined =>
    obtain ⟨-, at_, there⟩ := alone.own source task joined stage
    simp only [need?, stage, there, Option.map_some, Option.some.injEq] at needs
    unfold Analysis.need at needs
    split at needs
    · cases needs
    · cases needs
    · next store =>
      cases needs
      exact ⟨_, store, rfl⟩
    · cases needs
  | _ => simp [need?, stage] at needs

end

end Cache

end ComponentCatalog
