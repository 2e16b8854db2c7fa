import ComponentCatalog.Proofs.Engine.Served

/-! # Getting all components has one outcome

In whatever order the steps of a call are taken that gets all components, it ends, and its answer is the
same one: that there is no analyzer for the first component for which there is none, or one and the
same snapshot.
-/

namespace ComponentCatalog

open Component

namespace Cache

variable {outside : Outside} {setup : Setup} {files : Path → Option ByteArray} {analysis : Analysis}
  {reason : String}

private theorem Analysis.upshot?_answer_eq_error_iff {answer : Analyzer.Answer} :
    (analysis.answer setup {} 0 answer).2.upshot? = some (.error reason) ↔
      answer = .failed (.unavailable reason) := by
  cases answer with
  | described raw =>
    simp only [Analysis.answer, describe, reduceCtorEq, iff_false]
    split
    · split <;> rintro ⟨⟩
    · rintro ⟨⟩
  | failed fault =>
    cases fault with
    | unavailable other => simp [Analysis.answer, fail, upshot?]
    | _ => simp [Analysis.answer, fail, failing, finding, upshot?]
  | _ => simp [Analysis.answer, fail, failing, finding, upshot?]

/-- An analysis comes to no entry if nothing is stored and there is no analyzer for what the steps make of
the source. -/
theorem Analysis.verdict?_eq_error_iff (created : analysis.stage = .created) :
    analysis.verdict? outside setup files = some (.error reason) ↔
      analysis.stored? setup files = none ∧
      ∃ text, setup.pipeline.apply analysis.identity analysis.source = .ok text ∧
        outside.answer (analysis.request setup text) = .failed (.unavailable reason) := by
  simp only [verdict?, created]
  cases stored : analysis.stored? setup files with
  | some metadata => simp
  | none =>
    unfold begin
    cases made : setup.pipeline.apply analysis.identity analysis.source with
    | error fault => simp [answered?, failing, finding, upshot?]
    | ok text =>
      have asked : Analysis.answered? outside setup
          { analysis with stage := .asked (analysis.request setup text) } =
          (Analysis.answer { analysis with stage := .asked (analysis.request setup text) } setup {} 0
            (outside.answer (analysis.request setup text))).2.upshot? := rfl
      simp only [asked, Analysis.upshot?_answer_eq_error_iff, true_and, Except.ok.injEq,
        exists_eq_left']

end Cache

namespace Engine

open Cache

private theorem entriesOf_map_ok (entries : List Entry) :
    entriesOf (entries.map Except.ok) = .ok entries := by
  induction entries with
  | nil => rfl
  | cons entry rest ih =>
    unfold entriesOf at ih ⊢
    rw [List.map_cons, List.mapM_cons, ih]
    rfl

private theorem entriesOf_error (front : List Entry) (reason : String)
    (rest : List (Except String Entry)) :
    entriesOf (front.map Except.ok ++ .error reason :: rest) = .error reason := by
  induction front with
  | nil => rfl
  | cons entry front ih =>
    unfold entriesOf at ih ⊢
    rw [List.map_cons, List.cons_append, List.mapM_cons, ih]
    rfl

namespace Site

/-- A component gets no entry: its source can be read, but nothing fitting is known or stored of it, and
there is no analyzer for what the steps make of the source. -/
def Lacks (outside : Outside) (site : Site) (identity : Identity) (reason : String) : Prop :=
  ∃ source text, outside.source identity.path = .ok source ∧
    let analysis : Analysis := ⟨identity, source, .compute identity.path source, .created⟩
    (site.engine.cache.slot identity.path).hit? identity analysis.fingerprint = none ∧
    analysis.stored? site.engine.setup site.files = none ∧
    site.engine.setup.pipeline.apply identity source = .ok text ∧
    outside.answer (analysis.request site.engine.setup text) = .failed (.unavailable reason)

variable {outside : Outside} {site : Site} {identity : Identity} {reason : String}

/-- What a component comes to whose source can be read. -/
private theorem result?_outlook {source : String} (read : outside.source identity.path = .ok source) :
    (site.outlook outside identity).result? =
      match (site.engine.cache.slot identity.path).hit? identity (.compute identity.path source) with
      | some entry => some (.ok entry)
      | none => Analysis.verdict? outside site.engine.setup site.files
          ⟨identity, source, .compute identity.path source, .created⟩ := by
  simp only [outlook, ahead, Get.prospect, read, Get.lookingProspect, Get.fingerprint]
  cases (site.engine.cache.slot identity.path).hit? identity (.compute identity.path source) with
  | some entry => rfl
  | none =>
    obtain ⟨result, verdict⟩ := Analysis.exists_verdict outside site.engine.setup site.files
      ⟨identity, source, .compute identity.path source, .created⟩
    simp only [Analysis.prospect_of_open (by simp [Analysis.Open]) verdict, verdict]

private theorem result?_outlook_of_error {fault : Files.Fault}
    (unreadable : outside.source identity.path = .error fault) :
    (site.outlook outside identity).result? = some (.ok (unreadableEntry identity fault)) := by
  simp only [outlook, ahead, Get.prospect, unreadable]

theorem lacks_iff : site.Lacks outside identity reason ↔
    (site.outlook outside identity).result? = some (.error reason) := by
  cases read : outside.source identity.path with
  | error fault => simp [Lacks, read, result?_outlook_of_error read]
  | ok source =>
    simp only [Lacks, read, result?_outlook read, Except.ok.injEq]
    cases hit : (site.engine.cache.slot identity.path).hit? identity
        (.compute identity.path source) with
    | some entry => simp [hit]
    | none =>
      rw [Analysis.verdict?_eq_error_iff rfl]
      constructor
      · rintro ⟨_, text, rfl, -, stored, made, answer⟩
        exact ⟨stored, text, made, answer⟩
      · rintro ⟨stored, text, made, answer⟩
        exact ⟨source, text, rfl, hit, stored, made, answer⟩

/-! ## The one answer -/

/-- Getting all components of a site answers one thing only. -/
private theorem Answers.unique {result other : Except Fault Answer}
    (answers : site.Answers outside result) (answers' : site.Answers outside other) :
    result = other := by
  have settles : ∀ {results results' : List (Except String Entry)},
      site.answers outside = results.map some → site.answers outside = results'.map some →
        entriesOf results = entriesOf results' := fun all all' =>
    congrArg entriesOf ((List.map_inj_right fun _ _ => Option.some.inj).mp (all.symm.trans all'))
  cases answers with
  | unavailable first =>
    cases answers' with
    | unavailable first' =>
      have same := settles first first'
      rw [entriesOf_error, entriesOf_error] at same
      cases same
      rfl
    | snapshot all =>
      have same := settles first all
      rw [entriesOf_error, entriesOf_map_ok] at same
      cases same
  | snapshot all =>
    cases answers' with
    | unavailable first =>
      have same := settles first all
      rw [entriesOf_error, entriesOf_map_ok] at same
      cases same
    | snapshot _ => rfl

/-- The answer, read off the registry. -/
private theorem Answers.read {result : Except Fault Answer} (answers : site.Answers outside result) :
    (∃ front identity back reason, site.engine.registry.list = front ++ identity :: back ∧
      (∀ other ∈ front, ∀ reason, ¬ site.Lacks outside other reason) ∧
      site.Lacks outside identity reason ∧ result = .error (.unavailable reason)) ∨
    (∀ identity ∈ site.engine.registry.list, ∀ reason, ¬ site.Lacks outside identity reason) ∧
      ∃ snapshot, result = .ok (.snapshot snapshot) := by
  have got : ∀ {identities : List Identity} {entries : List Entry},
      (identities.map fun identity => (site.outlook outside identity).result?) =
        (entries.map Except.ok).map some →
      ∀ identity ∈ identities, ∀ reason, ¬ site.Lacks outside identity reason := by
    intro identities entries same identity member reason lacks
    have there := List.mem_map_of_mem (f := fun identity => (site.outlook outside identity).result?) member
    rw [same, lacks_iff.mp lacks] at there
    simp at there
  cases answers with
  | @unavailable entries reason rest first =>
    rw [List.map_append, List.map_cons] at first
    obtain ⟨front, others, list, before, behind⟩ := List.map_eq_append_iff.mp first
    obtain ⟨identity, back, rfl, lacks, -⟩ := List.map_eq_cons_iff.mp behind
    exact .inl ⟨front, identity, back, reason, list, got before, lacks_iff.mpr lacks, rfl⟩
  | snapshot all => exact .inr ⟨got all, _, rfl⟩

end Site

end Engine

end ComponentCatalog
