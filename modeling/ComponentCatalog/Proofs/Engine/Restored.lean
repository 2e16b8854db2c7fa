import ComponentCatalog.Proofs.Cache.World
import ComponentCatalog.Proofs.Engine.Isolated
import ComponentCatalog.Proofs.Store.Entry

/-! # What is restored is what would be found

Where there is a store, what it holds for a source stands in for an analysis. If that is what the analyzer
would find, each step of a call keeps what the call would come to if nothing were stored at all. And what
such a call stores was found for its source.
-/

namespace ComponentCatalog

open Component

namespace Cache

/-- Nothing is stored. -/
def noFiles : Path → Option ByteArray := fun _ => none

/-- The analysis of a component with a source, before its first step. -/
def Analysis.fresh (identity : Identity) (source : String) : Analysis :=
  ⟨identity, source, .compute identity.path source, .created⟩

/-- How components are analyzed where there is no store. -/
def Setup.storeless (setup : Setup) : Setup := { setup with store? := none }

/-- The analyzer finds metadata in what the steps make of the source of a component. -/
def Setup.Finds (setup : Setup) (answer : Analyzer.Request → Analyzer.Answer) (identity : Identity)
    (source : String) (metadata : Metadata) : Prop :=
  ∃ text raw, setup.pipeline.apply identity source = .ok text ∧
    answer ((Analysis.fresh identity source).request setup text) = .described raw ∧
    Metadata.normalize setup.fields raw = .ok metadata

/-- What a file holds for a component with a source is what the analyzer finds. -/
def Setup.Trusts (setup : Setup) (answer : Analyzer.Request → Analyzer.Answer)
    (held : Path → Option ByteArray) (identity : Identity) (source : String) : Prop :=
  ∀ store bytes metadata, setup.store? = some store → held (store.file identity.path) = some bytes →
    Store.Entry.metadataFor? (.compute identity.path source) bytes = some metadata →
    setup.Finds answer identity source metadata

/-- A reply tells what is outside. Of a file that is read it tells what the file holds, or that it cannot be
read. -/
def Outside.Tells (outside : Outside) (held : Path → Option ByteArray) (need : Need) (reply : Reply) :
    Prop :=
  match need with
  | .readText path => reply = .text (outside.source path)
  | .readBytes path => ∃ result, reply = .bytes result ∧ ∀ bytes, result = .ok bytes →
      held path = some bytes
  | .describe _ request => ∃ time ≤ Doc.greatestWord, reply = .answered (outside.answer request) time
  | need => need.Fits reply

section

variable {outside : Outside} {setup other : Setup} {held files : Path → Option ByteArray}
  {answer : Analyzer.Request → Analyzer.Answer} {identity identity' : Identity} {source : String}
  {metadata : Metadata} {need : Need} {reply : Reply}

theorem Outside.Tells.fits (tells : outside.Tells held need reply) : need.Fits reply := by
  cases need with
  | readText path => exact tells ▸ trivial
  | readBytes path =>
    obtain ⟨result, rfl, -⟩ := tells
    trivial
  | describe task request =>
    obtain ⟨time, -, rfl⟩ := tells
    trivial
  | _ => exact tells

/-- What was read is all that matters of the files. -/
theorem Outside.Tells.replies (tells : outside.Tells held need reply) :
    ∃ files : Path → Option ByteArray, outside.Replies files need reply ∧
      ∀ path bytes, files path = some bytes → held path = some bytes := by
  cases need with
  | readBytes path =>
    obtain ⟨result, rfl, truth⟩ := tells
    refine ⟨fun other => if other = path then result.toOption else none, ⟨result, rfl, ?_⟩, ?_⟩
    · exact (if_pos rfl).symm
    · intro other bytes there
      dsimp only at there
      split at there
      · next same =>
        cases result with
        | ok found =>
          cases there
          exact same ▸ truth _ rfl
        | error fault => cases there
      · cases there
  | describe task request =>
    obtain ⟨time, -, rfl⟩ := tells
    exact ⟨noFiles, ⟨time, rfl⟩, by rintro _ _ ⟨⟩⟩
  | readText path => exact ⟨noFiles, tells, by rintro _ _ ⟨⟩⟩
  | _ => exact ⟨noFiles, trivial, by rintro _ _ ⟨⟩⟩

/-- What the analyzer finds depends on the component's path, the steps and the options alone. -/
theorem Setup.Finds.transfer (finds : setup.Finds answer identity source metadata)
    (keyed : setup.pipeline.cacheKey?.isSome) (path : identity'.path = identity.path)
    (pipeline : other.pipeline = setup.pipeline) (fields : other.fields = setup.fields)
    (checker : other.checker = setup.checker) :
    other.Finds answer identity' source metadata := by
  obtain ⟨text, raw, made, described, normal⟩ := finds
  refine ⟨text, raw, ?_, ?_, fields ▸ normal⟩
  · rw [pipeline, Pipeline.apply_eq_of_key keyed identity' identity, made]
  · rw [← described]
    simp only [Analysis.request, Analysis.fresh, path, fields, checker]

/-! ## Analyses without files -/

namespace Analysis

variable {analysis : Analysis}

private theorem stored?_noFiles (analysis : Analysis) (setup : Setup) :
    analysis.stored? setup noFiles = none := by
  unfold stored?
  cases setup.store? <;> rfl

private theorem upshot?_answer_eq_resolved_iff {answer : Analyzer.Answer} :
    (analysis.answer setup {} 0 answer).2.upshot? =
        some (.ok (analysis.entry (.resolved metadata))) ↔
      ∃ raw, answer = .described raw ∧ Metadata.normalize setup.fields raw = .ok metadata := by
  cases answer with
  | described raw =>
    simp only [Analysis.answer, describe, Analyzer.Answer.described.injEq, exists_eq_left']
    split
    · next found normal =>
      rw [normal]
      split <;> simp [upshot?, finding, entry]
    · next normal =>
      rw [normal]
      simp [upshot?, failing, finding, entry]
  | failed fault => cases fault <;> simp [Analysis.answer, fail, upshot?, failing, finding, entry]
  | _ => simp [Analysis.answer, fail, upshot?, failing, finding, entry]

/-- An analysis comes to the metadata that the analyzer finds. -/
theorem verdict?_fresh_eq_resolved_iff (outside : Outside) (setup : Setup) :
    (fresh identity source).verdict? outside setup noFiles =
        some (.ok ((fresh identity source).entry (.resolved metadata))) ↔
      setup.Finds outside.answer identity source metadata := by
  have created : (fresh identity source).stage = .created := rfl
  simp only [verdict?, created, stored?_noFiles, Setup.Finds, begin]
  cases made : setup.pipeline.apply identity source with
  | error fault =>
    have made' : setup.pipeline.apply (fresh identity source).identity (fresh identity source).source =
        .error fault := made
    simp [made', answered?, failing, finding, upshot?, entry]
  | ok text =>
    have made' : setup.pipeline.apply (fresh identity source).identity (fresh identity source).source =
        .ok text := made
    simp only [made', answered?, Except.ok.injEq]
    refine upshot?_answer_eq_resolved_iff.trans ⟨?_, ?_⟩
    · rintro ⟨raw, described, normal⟩
      exact ⟨text, raw, rfl, described, normal⟩
    · rintro ⟨_, raw, rfl, described, normal⟩
      exact ⟨raw, described, normal⟩

/-- If what is stored is what would be found, it makes no difference. -/
theorem verdict?_of_trusts (trusts : setup.Trusts outside.answer held identity source)
    (holds : ∀ path bytes, files path = some bytes → held path = some bytes) (stage : Stage) :
    Analysis.verdict? outside setup files ⟨identity, source, .compute identity.path source, stage⟩ =
      Analysis.verdict? outside setup noFiles
        ⟨identity, source, .compute identity.path source, stage⟩ := by
  cases stage with
  | created =>
    have without := (fresh identity source).stored?_noFiles setup
    change (fresh identity source).verdict? outside setup files =
      (fresh identity source).verdict? outside setup noFiles
    cases stored : (fresh identity source).stored? setup files with
    | none =>
      unfold verdict?
      rw [stored, without]
    | some metadata =>
      obtain ⟨store, there, file⟩ := Option.bind_eq_some_iff.mp stored
      obtain ⟨bytes, read, fits⟩ := Option.bind_eq_some_iff.mp file
      have finds := trusts store bytes metadata there (holds _ _ read) fits
      refine Eq.trans ?_ ((verdict?_fresh_eq_resolved_iff outside setup).mpr finds).symm
      unfold verdict?
      rw [stored]
      rfl
  | _ => rfl

end Analysis

/-! ## Calls without files -/

namespace Get

variable {get other : Get} {cache cache' : Cache} {stage : Stage}

/-- If what is stored is what would be found, a step keeps what a call comes to without any files. -/
theorem keeps_plain (alone : get.Alone cache) (needs : get.need? setup cache = some need)
    (tells : outside.Tells held need reply)
    (trusts : ∀ source, get.source? = some source →
      setup.Trusts outside.answer held get.identity source) :
    Get.Keeps outside setup noFiles noFiles cache (get.step setup cache reply).1 get
      (get.step setup cache reply).2 := by
  cases at_ : get.stage with
  | reading =>
    obtain rfl : need = .readText get.identity.path := by simpa [need?, at_] using needs.symm
    exact keeps_step alone needs tells fun _ _ _ => rfl
  | looking source =>
    obtain rfl : need = .nothing := by simpa [need?, at_] using needs.symm
    exact keeps_step alone needs trivial fun _ _ _ => rfl
  | waiting source task joined =>
    obtain ⟨files, replies, holds⟩ := tells.replies
    obtain ⟨-, stage, there⟩ := alone.own source task joined at_
    have same : get.prospect outside setup files cache = get.prospect outside setup noFiles cache := by
      have verdict := Analysis.verdict?_of_trusts (trusts source (by simp only [source?, at_])) holds stage
      rw [fingerprint] at there
      simp only [prospect, at_, there, Analysis.prospect, verdict]
    have keeps : Get.Keeps outside setup files noFiles cache _ get _ :=
      keeps_waiting at_ alone needs replies
    rwa [Keeps, same] at keeps
  | done result => simp [need?, at_] at needs

/-- What getting an entry comes to without files depends on the slot of its path alone. -/
theorem prospect_begin_congr (outside : Outside) {setup other : Setup}
    (alike : other.storeless = setup.storeless) {cache cache' : Cache} {identity : Identity}
    (slot : cache'.slot identity.path = cache.slot identity.path) :
    Get.prospect outside other noFiles cache' { identity } =
      Get.prospect outside setup noFiles cache { identity } := by
  have verdict : ∀ source, (Analysis.fresh identity source).verdict? outside other noFiles =
      (Analysis.fresh identity source).verdict? outside setup noFiles := by
    intro source
    have fields := congrArg Setup.fields alike
    have checker := congrArg Setup.checker alike
    have timeoutMs := congrArg Setup.timeoutMs alike
    have steps := congrArg (fun setup : Setup => setup.pipeline.apply identity source) alike
    refine Analysis.verdict?_congr_of_same rfl fields checker timeoutMs ?_ steps fun _ _ => rfl
    rw [Analysis.stored?_noFiles, Analysis.stored?_noFiles]
  simp only [Analysis.fresh] at verdict
  simp only [prospect, slot, lookingProspect, fingerprint, Analysis.prospect, verdict]

/-- A call got its source from outside, its analysis comes to what a fresh one would, and there is a slot as
soon as the cache was looked up. -/
structure Faithful (outside : Outside) (setup : Setup) (cache : Cache) (get : Get) : Prop where
  read : ∀ source, get.source? = some source → outside.source get.identity.path = .ok source
  analysis : ∀ source task joined analysis, get.stage = .waiting source task joined →
    cache.tasks.get? task = some analysis →
    analysis.verdict? outside setup noFiles =
        (Analysis.fresh get.identity source).verdict? outside setup noFiles ∧
      ∀ metadata time, analysis.stage = .storing metadata time → time ≤ Doc.greatestWord
  present : get.stage ≠ .reading → (∀ source, get.stage ≠ .looking source) →
    (cache.slot? get.identity.path).isSome

theorem Faithful.begin (outside : Outside) (setup : Setup) (cache : Cache) (identity : Identity) :
    Faithful outside setup cache { identity } :=
  ⟨by rintro _ ⟨⟩, by rintro _ _ _ _ ⟨⟩, fun reading => absurd rfl reading⟩

private theorem not_storing_begin (analysis : Analysis) (cache : Cache) (metadata : Metadata) (time : Nat) :
    (analysis.begin setup cache).2.stage ≠ .storing metadata time := by
  unfold Analysis.begin
  split <;> rintro ⟨⟩

private theorem time_of_answer {analysis : Analysis} {cache : Cache} {answer : Analyzer.Answer}
    {metadata : Metadata} {time clock : Nat}
    (storing : (analysis.answer setup cache clock answer).2.stage = .storing metadata time) :
    time = clock := by
  cases answer with
  | described raw =>
    simp only [Analysis.answer, Analysis.describe] at storing
    split at storing
    · split at storing <;> cases storing
      rfl
    · cases storing
  | failed fault => cases fault <;> cases storing
  | _ => cases storing

/-- The time of what is stored is that of the analyzer's answer. -/
private theorem time_of_step {analysis : Analysis} {task : Nat} {cache : Cache} {metadata : Metadata}
    {time : Nat} (going : analysis.result? = none)
    (tells : outside.Tells held (analysis.need setup task) reply)
    (before : ∀ metadata time, analysis.stage = .storing metadata time → time ≤ Doc.greatestWord)
    (storing : (analysis.step setup task cache reply).2.stage = .storing metadata time) :
    time ≤ Doc.greatestWord := by
  cases stage : analysis.stage with
  | created =>
    cases store : setup.store? with
    | none =>
      rw [Analysis.step_created setup cache stage store] at storing
      exact absurd storing (not_storing_begin analysis cache metadata time)
    | some store' =>
      simp only [Analysis.need, stage, store] at tells
      obtain ⟨result, rfl, -⟩ := tells
      rw [Analysis.step_created_bytes setup cache stage (Option.isSome_of_eq_some store)] at storing
      split at storing
      · cases storing
      · exact absurd storing (not_storing_begin analysis cache metadata time)
  | asked request =>
    simp only [Analysis.need, stage] at tells
    obtain ⟨clock, bound, rfl⟩ := tells
    rw [Analysis.step_asked setup cache stage] at storing
    exact time_of_answer storing ▸ bound
  | storing metadata' time' =>
    rcases Analysis.step_storing setup cache stage reply with found | rest
    · rw [found] at storing
      cases storing
    · exact before metadata time (rest ▸ storing)
  | found result => simp [Analysis.result?, stage] at going
  | recorded result => simp [Analysis.result?, stage] at going

/-- A step that is replied to keeps a call faithful. -/
theorem Faithful.step (faithful : get.Faithful outside setup cache) (alone : get.Alone cache)
    (needs : get.need? setup cache = some need) (tells : outside.Tells held need reply)
    (trusts : ∀ source, get.source? = some source →
      setup.Trusts outside.answer held get.identity source) :
    (get.step setup cache reply).2.Faithful outside setup (get.step setup cache reply).1 := by
  have step := get.step_transition setup cache reply
  have flight := alone.flight
  rw [get.step_snd setup cache reply]
  generalize (get.step setup cache reply).1 = cache' at step ⊢
  generalize (get.step setup cache reply).2.stage = stage at step ⊢
  cases step with
  | rest => exact faithful
  | @read source reading text =>
    obtain rfl : need = .readText get.identity.path := by simpa [need?, reading] using needs.symm
    refine ⟨?_, by rintro _ _ _ _ ⟨⟩, fun _ looking => absurd rfl (looking source)⟩
    rintro _ ⟨⟩
    exact (Reply.text.inj (text.symm.trans tells)).symm
  | @unreadable fault reading text =>
    refine ⟨by rintro _ ⟨⟩, by rintro _ _ _ _ ⟨⟩, fun _ _ => ?_⟩
    have now := slot?_recordUnreadable cache get.identity.path get.identity fault
    rw [if_pos ⟨rfl, by rw [flight, flight?, reading]⟩] at now
    exact Option.isSome_of_eq_some now
  | @hit source entry looking idle hit =>
    refine ⟨by rintro _ ⟨⟩, by rintro _ _ _ _ ⟨⟩, fun _ _ => ?_⟩
    cases present : cache.slot? get.identity.path with
    | some slot => rfl
    | none =>
      have none := (Slot.hit?_eq_some hit).1
      simp [Cache.slot, present] at none
  | @start source looking idle miss =>
    refine ⟨?_, ?_, fun _ _ => ?_⟩
    · rintro _ ⟨⟩
      exact faithful.read source (by simp only [source?, looking])
    · rintro _ _ _ analysis ⟨⟩ there
      rw [tasks_launched, if_pos rfl] at there
      cases there
      exact ⟨rfl, by rintro _ _ ⟨⟩⟩
    · exact Option.isSome_of_eq_some ((slot?_launched ..).trans (if_pos rfl))
  | join looking flying =>
    rw [flight, flight?, looking] at flying
    cases flying
  | @take source task joined analysis result waiting there recorded =>
    obtain ⟨rfl, -⟩ := alone.own source task joined waiting
    have done : (get.afterTask source false result).stage = .done result := by cases result <;> rfl
    rw [done]
    exact ⟨by rintro _ ⟨⟩, by rintro _ _ _ _ ⟨⟩, fun _ _ =>
      faithful.present (by simp [waiting]) (by simp [waiting])⟩
  | @work source task joined analysis analyses notices stage waiting there going opened _ step =>
    obtain ⟨verdict, timed⟩ := faithful.analysis source task joined analysis waiting there
    obtain rfl : need = analysis.need setup task := by simpa [need?, waiting, there] using needs.symm
    obtain ⟨rfl, before, own⟩ := alone.own source task joined waiting
    cases there.symm.trans own
    refine ⟨faithful.read, ?_, faithful.present⟩
    rintro source' task' joined' later waiting' there'
    cases waiting.symm.trans waiting'
    rw [Table.get?_set, if_pos rfl] at there'
    cases there'
    constructor
    · obtain ⟨files, replies, holds⟩ := tells.replies
      have onwards := Analysis.verdict?_step going replies cache noFiles
      have same := Analysis.verdict?_of_trusts (trusts source (by simp only [source?, waiting])) holds before
      rw [step] at onwards
      exact onwards.trans (same.trans verdict)
    · intro metadata time storing
      refine time_of_step going tells timed (?_ : (Analysis.step _ setup task cache reply).2.stage =
        .storing metadata time)
      rw [step]
      exact storing
  | @record source task joined analysis result waiting there found =>
    obtain ⟨verdict, -⟩ := faithful.analysis source task joined analysis waiting there
    refine ⟨faithful.read, ?_, fun _ _ => ?_⟩
    · rintro source' task' joined' later waiting' there'
      cases waiting.symm.trans waiting'
      rw [tasks_recorded, if_pos rfl] at there'
      cases there'
      refine ⟨Eq.trans ?_ verdict, by rintro _ _ ⟨⟩⟩
      simp only [Analysis.verdict?, Analysis.answered?, Analysis.upshot?, found]
    · have present := faithful.present (by simp [waiting]) (by simp [waiting])
      rcases slot?_recorded cache task analysis result get.identity.path with
        ⟨same, -⟩ | ⟨-, _, _, -, -, -, ⟨_, -, now⟩ | ⟨_, -, now⟩⟩
      · rwa [same]
      · exact Option.isSome_of_eq_some now
      · exact Option.isSome_of_eq_some now

/-- A step of a call that is alone leaves what is known of other paths. -/
theorem Transition.slot?_other (step : Transition setup cache get reply cache' stage)
    (alone : get.Alone cache) {path : Path} (apart : get.identity.path.parts ≠ path.parts) :
    cache'.slot? path = cache.slot? path := by
  cases step with
  | unreadable _ _ =>
    exact (slot?_recordUnreadable ..).trans (if_neg fun both => apart both.1)
  | start _ _ _ => exact (slot?_launched ..).trans (if_neg apart)
  | @record _ task _ analysis result waiting present _ =>
    obtain ⟨-, _, own⟩ := alone.own _ _ _ waiting
    cases present.symm.trans own
    rcases slot?_recorded cache task _ result path with ⟨same, -⟩ | ⟨parts, -⟩
    · exact same
    · exact absurd parts apart
  | _ => rfl

/-- A step for another path keeps a call faithful. -/
theorem Faithful.beside (faithful : other.Faithful outside setup cache)
    (step : Transition setup cache get reply cache' stage) (sound : cache.Sound)
    (alone : get.Alone cache) (apart : get.identity.path.parts ≠ other.identity.path.parts)
    (beside : other.Alone cache) : other.Faithful outside setup cache' where
  read := faithful.read
  analysis := by
    intro source task joined analysis waiting there
    rw [step.waited sound alone apart beside waiting] at there
    exact faithful.analysis source task joined analysis waiting there
  present := by
    rw [step.slot?_other alone apart]
    exact faithful.present

/-- What a faithful call writes is an entry with what the analyzer found for its source. -/
theorem Faithful.writes (faithful : get.Faithful outside setup cache) (alone : get.Alone cache)
    {file : Path} {text : String} (needs : get.need? setup cache = some (.write file text)) :
    ∃ store source time metadata, setup.store? = some store ∧ file = store.file get.identity.path ∧
      outside.source get.identity.path = .ok source ∧ time ≤ Doc.greatestWord ∧
      setup.Finds outside.answer get.identity source metadata ∧
      text = Store.Entry.text ⟨.compute get.identity.path source, time, metadata⟩ := by
  cases at_ : get.stage with
  | waiting source task joined =>
    obtain ⟨-, stage, there⟩ := alone.own source task joined at_
    obtain ⟨verdict, timed⟩ := faithful.analysis source task joined _ at_ there
    simp only [need?, at_, there, Option.map_some, Option.some.injEq] at needs
    unfold Analysis.need at needs
    split at needs
    · cases needs
    · cases needs
    · next metadata time store storing stores =>
      obtain rfl : stage = .storing metadata time := storing
      cases needs
      refine ⟨store, source, time, metadata, stores, rfl, faithful.read source (by simp only [source?, at_]),
        timed metadata time rfl, ?_, rfl⟩
      exact (Analysis.verdict?_fresh_eq_resolved_iff outside setup).mp verdict.symm
    · cases needs
  | _ => simp [need?, at_] at needs

end Get

end

end Cache

end ComponentCatalog
