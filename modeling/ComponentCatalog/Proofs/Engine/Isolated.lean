import ComponentCatalog.Proofs.Engine.Served

/-! # What happens to a component is its own affair

Getting all components leaves in the slot of each what its source, the steps for it, the answers about it
and what is stored of it come to. What becomes of the others does not matter, even if there is no
analyzer for them and the call has nothing to publish.
-/

namespace ComponentCatalog

open Component

namespace Cache

variable {outside outside' : Outside} {setup setup' : Setup} {files files' : Path → Option ByteArray}
  {analysis : Analysis}

/-- What comes of an answer does not depend on whether there is a store. -/
private theorem Analysis.upshot?_answer_congr (fields : setup'.fields = setup.fields)
    (timeoutMs : setup'.timeoutMs = setup.timeoutMs) (analysis : Analysis) (answer : Analyzer.Answer) :
    (analysis.answer setup' {} 0 answer).2.upshot? = (analysis.answer setup {} 0 answer).2.upshot? := by
  cases answer with
  | described raw =>
    have either : ∀ (setup : Setup) (metadata : Metadata),
        (if setup.store?.isSome then (({} : Cache), { analysis with stage := .storing metadata 0 })
          else ({}, analysis.finding (.resolved metadata))).2.upshot? =
        some (.ok (analysis.entry (.resolved metadata))) := by
      intro setup metadata
      split <;> rfl
    simp only [Analysis.answer, describe, fields]
    cases Metadata.normalize setup.fields raw with
    | ok metadata => exact (either setup' metadata).trans (either setup metadata).symm
    | error malformed => rfl
  | late => simp only [Analysis.answer, timeoutMs]
  | _ => rfl

/-- What an analysis comes to depends on nothing but what is stored of its source, the steps for its
component, and the answers about it. -/
theorem Analysis.verdict?_congr_of_same (created : analysis.stage = .created)
    (fields : setup'.fields = setup.fields) (checker : setup'.checker = setup.checker)
    (timeoutMs : setup'.timeoutMs = setup.timeoutMs)
    (stored : analysis.stored? setup' files' = analysis.stored? setup files)
    (steps : setup'.pipeline.apply analysis.identity analysis.source =
      setup.pipeline.apply analysis.identity analysis.source)
    (answers : ∀ request, request.path = analysis.identity.path →
      outside'.answer request = outside.answer request) :
    analysis.verdict? outside' setup' files' = analysis.verdict? outside setup files := by
  simp only [verdict?, created, stored, begin, steps]
  cases analysis.stored? setup files with
  | some metadata => rfl
  | none =>
    cases setup.pipeline.apply analysis.identity analysis.source with
    | error fault => rfl
    | ok text =>
      have request : analysis.request setup' text = analysis.request setup text := by
        simp only [Analysis.request, fields, checker]
      have answer := answers (analysis.request setup text) rfl
      simp only [answered?, request, answer]
      exact upshot?_answer_congr fields timeoutMs _ _

end Cache

namespace Engine

open Cache

namespace Site

/-- Two sites are alike for a component: what is known of it, its source, what is stored of it, the steps
for it and the answers about it are the same. -/
structure AlikeFor (identity : Identity) (outside outside' : Outside) (site site' : Site) : Prop where
  slot : site'.engine.cache.slot identity.path = site.engine.cache.slot identity.path
  fields : site'.engine.setup.fields = site.engine.setup.fields
  checker : site'.engine.setup.checker = site.engine.setup.checker
  timeoutMs : site'.engine.setup.timeoutMs = site.engine.setup.timeoutMs
  source : outside'.source identity.path = outside.source identity.path
  stored : ∀ source, let analysis : Analysis := ⟨identity, source, .compute identity.path source, .created⟩
    analysis.stored? site'.engine.setup site'.files = analysis.stored? site.engine.setup site.files
  steps : ∀ source, site'.engine.setup.pipeline.apply identity source =
    site.engine.setup.pipeline.apply identity source
  answers : ∀ request, request.path = identity.path → outside'.answer request = outside.answer request

variable {outside outside' : Outside} {site site' : Site} {identity : Identity}

/-- A component comes to the same at both sites. -/
theorem AlikeFor.outlook (alike : AlikeFor identity outside outside' site site') :
    site'.outlook outside' identity = site.outlook outside identity := by
  simp only [Site.outlook, ahead, Get.prospect, alike.source, alike.slot]
  cases outside.source identity.path with
  | error fault => rfl
  | ok source =>
    simp only [Get.lookingProspect]
    split
    · rfl
    · have created : Analysis.stage ⟨identity, source, .compute identity.path source, .created⟩ =
          .created := rfl
      have verdict := Analysis.verdict?_congr_of_same created alike.fields alike.checker
        alike.timeoutMs (alike.stored source) (alike.steps source) alike.answers
      simp only [Analysis.prospect, Get.fingerprint, verdict]

/-- However a call is driven, its steps come to an end. -/
def Ends (outside : Outside) (id : Nat) (site : Site) : Prop :=
  ∃ bound, ∀ changes, Follows Site.act (Replied outside True id) site changes → changes.length ≤ bound

/-- A call is driven as long as it can take a step. -/
def RunsOut (outside : Outside) (id : Nat) (site : Site) (changes : List Change) : Prop :=
  Follows Site.act (Replied outside True id) site changes ∧
    ¬ ∃ change, Replied outside True id (site.run changes) change

private theorem Ready.ends (ready : site.Ready) (outside : Outside) (id : Nat) :
    Ends outside id ⟨site.engine.start id .parseAll, site.files⟩ :=
  ⟨_, fun _ follows =>
    Nat.le_trans (Nat.le_add_right ..) ((ready.getsAll outside True id).run ready follows).2⟩

/-- A call that is driven as long as it can take a step has a result then, and leaves in each slot what
was settled when it began. -/
private theorem RunsOut.slot {id : Nat} {changes : List Change}
    (runs : RunsOut outside id ⟨site.engine.start id .parseAll, site.files⟩ changes)
    (ready : site.Ready) (free : site.engine.publisher? = none)
    (known : identity ∈ site.engine.registry.list) :
    ((Site.run ⟨site.engine.start id .parseAll, site.files⟩ changes).engine.result? id).isSome ∧
    (Site.run ⟨site.engine.start id .parseAll, site.files⟩ changes).engine.cache.slot
      identity.path = (site.outlook outside identity).slot := by
  have getsAll := ((ready.getsAll outside True id).run ready runs.1).1
  cases answered : (Site.run ⟨site.engine.start id .parseAll, site.files⟩ changes).engine.result? id with
  | none => exact absurd (getsAll.exists_replied free answered) runs.2
  | some result => exact ⟨rfl, (getsAll.of_result answered).1.slot identity known⟩

theorem RunsOut.of_served {id : Nat} {indices : List Nat}
    (answered : ((site.run (site.served outside id indices)).engine.result? id).isSome) :
    RunsOut outside id site (site.served outside id indices) :=
  ⟨follows_served outside True id site indices, not_exists.mpr (not_replied_of_result answered)⟩

end Site

open Site in
/-- Two engines are in the same state, in which no call and no analysis is on its way. Steps, analyzers,
sources and stores need be alike for one component only. However calls are driven that get all components,
they end with some result, and leave the same in the slot of that component: the same outcome with the
same fingerprint and the same status. -/
theorem parseAll_isolated {engine : Engine} (reached : engine.Reached) (idle : engine.Idle)
    (landed : ∀ path, (engine.cache.slot path).inFlight? = none) {setup' : Setup}
    (stores : ∀ store, engine.setup.store? = some store ∨ setup'.store? = some store →
      (engine.registry.list.map fun identity => store.file identity.path).Nodup)
    {identity : Identity} (known : identity ∈ engine.registry.list) {outside outside' : Outside}
    {files files' : Path → Option ByteArray}
    (alike : AlikeFor identity outside outside' ⟨engine, files⟩
      ⟨{ engine with setup := setup' }, files'⟩) (id id' : Nat) :
    let site : Site := ⟨engine.start id .parseAll, files⟩
    let site' : Site := ⟨({ engine with setup := setup' } : Engine).start id' .parseAll, files'⟩
    Ends outside id site ∧ Ends outside' id' site' ∧
      ∀ changes changes', RunsOut outside id site changes → RunsOut outside' id' site' changes' →
        ((site.run changes).engine.result? id).isSome ∧
        ((site'.run changes').engine.result? id').isSome ∧
        (site'.run changes').engine.cache.slot identity.path =
          (site.run changes).engine.cache.slot identity.path := by
  intro site site'
  have ready := reached.ready landed (fun store some => stores store (.inl some)) files
  have ready' : Ready ⟨{ engine with setup := setup' }, files'⟩ :=
    ⟨ready.sound.of_same rfl rfl rfl rfl rfl, ready.distinct, landed,
      fun store some => stores store (.inr some)⟩
  have free := reached.publisher_of_idle idle
  refine ⟨ready.ends outside id, ready'.ends outside' id', fun changes changes' runs runs' => ?_⟩
  obtain ⟨answered, slot⟩ := runs.slot ready free known
  obtain ⟨answered', slot'⟩ := runs'.slot ready' free known
  exact ⟨answered, answered', slot'.trans ((congrArg Prospect.slot alike.outlook).trans slot.symm)⟩

/-- One component cannot be parsed, and there is no analyzer for any other one. -/
def stranded : Outside :=
  ⟨fun _ => .ok "", fun request =>
    .failed (if request.path.text = "/Card.vue" then .parse "odd" else .unavailable "gone")⟩

/-- One component cannot be parsed, and the analyzer breaks down on the others, which are no longer
empty. -/
def shaken : Outside :=
  ⟨fun path => .ok (if path.text = "/Card.vue" then "" else "menu"), fun request =>
    if request.path.text = "/Card.vue" then .failed (.parse "odd") else .panicked "shaken"⟩

/-- A step that no component but one passes. -/
def pickySetup : Setup :=
  { pair.setup with pipeline := [⟨"picky", .host fun identity text =>
    if identity.name = "Card" then .ok text else .error "not this one"⟩] }

private theorem alike_card : Site.AlikeFor ⟨"Card", ⟨"/Card.vue"⟩, false⟩ stranded shaken
    ⟨pair, fun _ => none⟩ ⟨{ pair with setup := pickySetup }, fun _ => none⟩ where
  slot := rfl
  fields := rfl
  checker := rfl
  timeoutMs := rfl
  source := rfl
  stored := fun _ => rfl
  steps := by
    have none : pair.setup.pipeline = [] := List.isEmpty_iff.mp (by decide +kernel)
    intro source
    simp only [none]
    rfl
  answers := by
    intro request about
    simp [stranded, shaken, about]

/-- All components of the pair are being got, with some setup. -/
def pairUnder (setup : Setup) : Site :=
  ⟨({ pair with setup } : Engine).start 1 .parseAll, fun _ => none⟩

/-- The other component first; there is no analyzer for it. -/
def strandedRun : List Site.Change :=
  (pairUnder pair.setup).served stranded 1 [1, 1, 1, 1, 1, 1, 0, 0, 0, 0, 0, 0]

/-- By turns; the other component is rejected by a step. -/
def shakenRun : List Site.Change :=
  (pairUnder pickySetup).served shaken 1 [0, 1, 0, 1, 0, 1, 0, 1, 0, 1, 0, 0, 0, 0, 0, 0]

/-- One run has no snapshot to answer and the other one does. The first component has the same failure
behind both. -/
theorem parseAll_isolated_stranded :
    let left := ((pairUnder pair.setup).run strandedRun).engine
    let right := ((pairUnder pickySetup).run shakenRun).engine
    (left.result? 1).any (·.toOption.isNone) ∧ (right.result? 1).any (·.toOption.isSome) ∧
      right.cache.slot ⟨"/Card.vue"⟩ = left.cache.slot ⟨"/Card.vue"⟩ ∧
      left.cache.status ⟨"/Card.vue"⟩ = .error := by
  have runs : Site.RunsOut stranded 1 (pairUnder pair.setup) strandedRun :=
    .of_served (by decide +kernel)
  have runs' : Site.RunsOut shaken 1 (pairUnder pickySetup) shakenRun := .of_served (by decide +kernel)
  have same := (parseAll_isolated reached_pair idle_pair landed_pair
    (by simp [store_pair, pickySetup]) (by decide +kernel) alike_card 1 1).2.2 _ _ runs runs'
  exact ⟨by decide +kernel, by decide +kernel, same.2.2, by decide +kernel⟩

end Engine

end ComponentCatalog
