import ComponentCatalog.Proofs.Store.Keys
import ComponentCatalog.Proofs.Transform.Pipeline

/-! # What the key of a pipeline tells

The key of a pipeline is one text, in which the texts of its steps stand one behind the other. What
separates them may occur within them: a pattern may hold the arrow that ends it, and a replacement all
that can stand behind it. So a key is that of one list of steps alone just if no step comes behind a
replacement, and if the replacement at the end cannot be read in another way. Then engines that share
what they store change their sources alike.
-/

namespace ComponentCatalog

open Component Options Transform

namespace Options.StepConfig

/-- A step without its name, which changes nothing in what it does. -/
def unnamed : StepConfig → StepConfig
  | contentSlot => contentSlot
  | replace _ pattern replacement => replace none pattern replacement

/-- The step can be made: its pattern is well formed. -/
def Valid : StepConfig → Prop
  | contentSlot => True
  | replace _ pattern _ => (Pattern.parse? pattern).isSome = true

/-- The text of a step in the key of a pipeline. -/
def keyText : StepConfig → String
  | contentSlot => "contentSlot;"
  | replace _ pattern replacement => "replace:" ++ pattern ++ "=>" ++ replacement ++ ";"

end Options.StepConfig

namespace Pipeline

variable {configs others : List StepConfig} {pipeline other : Pipeline}

/-- The key of the steps that the options ask for. -/
def keyText (configs : List StepConfig) : String := String.join (configs.map StepConfig.keyText)

/-! ## Steps that the options ask for -/

private theorem exists_step_iff {config : StepConfig} :
    (∃ step, Step.ofConfig config = .ok step) ↔ config.Valid := by
  cases config with
  | contentSlot => exact ⟨fun _ => trivial, fun _ => ⟨_, rfl⟩⟩
  | replace name? pattern replacement =>
    simp only [Step.ofConfig, StepConfig.Valid]
    cases Pattern.parse? pattern <;> simp

private theorem ofConfig_cons {config : StepConfig} {rest : List StepConfig} :
    ofConfig (config :: rest) = .ok pipeline ↔ ∃ step steps,
      Step.ofConfig config = .ok step ∧ ofConfig rest = .ok steps ∧ pipeline = step :: steps := by
  rw [ofConfig, List.mapM_cons]
  cases Step.ofConfig config with
  | error fault => simp [bind, Except.bind]
  | ok step =>
    change (ofConfig rest >>= _) = _ ↔ _
    cases ofConfig rest with
    | error fault => simp [bind, Except.bind]
    | ok steps => simp [bind, Except.bind, pure, Except.pure, eq_comm]

/-- A pipeline can be made if and only if each of its steps can. -/
theorem exists_ofConfig_iff :
    (∃ pipeline, ofConfig configs = .ok pipeline) ↔ ∀ config ∈ configs, config.Valid := by
  induction configs with
  | nil => exact ⟨fun _ => by simp, fun _ => ⟨[], rfl⟩⟩
  | cons config rest ih =>
    rw [List.forall_mem_cons, ← ih, ← exists_step_iff]
    constructor
    · rintro ⟨pipeline, made⟩
      obtain ⟨step, steps, own, others, -⟩ := ofConfig_cons.mp made
      exact ⟨⟨step, own⟩, steps, others⟩
    · rintro ⟨⟨step, own⟩, steps, others⟩
      exact ⟨step :: steps, ofConfig_cons.mpr ⟨step, steps, own, others, rfl⟩⟩

private theorem key_of_config {config : StepConfig} {step : Step}
    (made : Step.ofConfig config = .ok step) : step.key? = some config.keyText := by
  cases config with
  | contentSlot =>
    cases made
    rfl
  | replace name? pattern replacement =>
    simp only [Step.ofConfig] at made
    split at made <;> cases made
    rfl

/-- The key of a pipeline is made of the texts of its steps. -/
theorem cacheKey?_ofConfig (made : ofConfig configs = .ok pipeline) :
    pipeline.cacheKey? = some (keyText configs) := by
  have keys : pipeline.mapM Step.key? = some (configs.map StepConfig.keyText) := by
    induction configs generalizing pipeline with
    | nil =>
      cases made
      rfl
    | cons config rest ih =>
      obtain ⟨step, steps, own, others, rfl⟩ := ofConfig_cons.mp made
      simp [key_of_config own, ih others]
  rw [cacheKey?, keys]
  rfl

private theorem run_eq_of_unnamed {config config' : StepConfig} {step step' : Step}
    (made : Step.ofConfig config = .ok step) (made' : Step.ofConfig config' = .ok step')
    (same : config'.unnamed = config.unnamed) : step'.run = step.run := by
  cases config with
  | contentSlot =>
    cases config' with
    | contentSlot => rw [Except.ok.inj (made'.symm.trans made)]
    | replace _ _ _ => cases same
  | replace name? pattern replacement =>
    cases config' with
    | contentSlot => cases same
    | replace name'? _ _ =>
      cases same
      simp only [Step.ofConfig] at made made'
      cases parsed : Pattern.parse? pattern with
      | none =>
        rw [parsed] at made
        cases made
      | some found =>
        rw [parsed] at made made'
        cases made
        cases made'
        rfl

/-- The names of the steps do not change what they make of a source. -/
theorem apply_eq_of_unnamed (made : ofConfig configs = .ok pipeline)
    (made' : ofConfig others = .ok other)
    (same : others.map StepConfig.unnamed = configs.map StepConfig.unnamed) (identity : Identity)
    (source : String) : other.apply identity source = pipeline.apply identity source := by
  induction configs generalizing others pipeline other source with
  | nil =>
    rw [List.map_eq_nil_iff.mp same] at made'
    rw [Except.ok.inj (made'.symm.trans made)]
  | cons config rest ih =>
    obtain ⟨config', rest', rfl, one, more⟩ := List.map_eq_cons_iff.mp same
    obtain ⟨step, steps, own, rest, rfl⟩ := ofConfig_cons.mp made
    obtain ⟨step', steps', own', rest', rfl⟩ := ofConfig_cons.mp made'
    rw [apply, apply, List.foldlM_cons, List.foldlM_cons, run_eq_of_unnamed own own' one]
    congr 1
    funext text
    exact ih rest rest' more text

/-! ## Reading a key -/

/-- A replacement at the end of a pipeline can be read in one way: no other arrow ends a well-formed
pattern, and the replacement does not end in what further steps would write. -/
structure ReadOneWay (pattern replacement : String) : Prop where
  split : ∀ before behind, (Pattern.parse? before).isSome = true →
    before ++ "=>" ++ behind = pattern ++ "=>" ++ replacement → before = pattern
  alone : ∀ front steps, steps ≠ [] → (∀ step ∈ steps, step.Valid) →
    front ++ ";" ++ keyText steps ≠ replacement ++ ";"

/-- The key of steps can be read in one way: a replacement stands at the end alone, and can itself be
read in one way. -/
def Distinctive : List StepConfig → Prop
  | [] => True
  | .contentSlot :: rest => Distinctive rest
  | [.replace _ pattern replacement] => ReadOneWay pattern replacement
  | .replace .. :: _ :: _ => False

theorem keyText_nil : keyText [] = "" := rfl

theorem keyText_cons (config : StepConfig) (rest : List StepConfig) :
    keyText (config :: rest) = config.keyText ++ keyText rest := String.join_cons

private theorem keyText_replace (name? : Option String) (pattern replacement : String)
    (rest : List StepConfig) : keyText (.replace name? pattern replacement :: rest) =
      "replace:" ++ (pattern ++ "=>" ++ replacement ++ (";" ++ keyText rest)) := by
  simp only [keyText_cons, StepConfig.keyText, String.append_assoc]

/-- A key that begins as that of a content slot is one. -/
private theorem exists_of_contentSlot {text : String} (same : keyText others = "contentSlot;" ++ text) :
    ∃ rest, others = .contentSlot :: rest ∧ keyText rest = text := by
  have chars := congrArg String.toList same
  cases others with
  | nil => simp [keyText] at chars
  | cons config rest =>
    cases config with
    | contentSlot =>
      rw [keyText_cons] at same
      exact ⟨rest, rfl, (String.append_right_inj _).mp same⟩
    | replace name? pattern replacement => simp [keyText_cons, StepConfig.keyText] at chars

/-- A key that begins as that of a replacement is one. -/
private theorem exists_of_replace {text : String} (same : keyText others = "replace:" ++ text) :
    ∃ name? pattern replacement rest, others = .replace name? pattern replacement :: rest ∧
      pattern ++ "=>" ++ replacement ++ (";" ++ keyText rest) = text := by
  have chars := congrArg String.toList same
  cases others with
  | nil => simp [keyText] at chars
  | cons config rest =>
    cases config with
    | contentSlot => simp [keyText_cons, StepConfig.keyText] at chars
    | replace name? pattern replacement =>
      rw [keyText_replace] at same
      exact ⟨name?, pattern, replacement, rest, rfl, (String.append_right_inj _).mp same⟩

/-- A key that is not empty ends in a semicolon. -/
private theorem exists_semicolon (nonempty : configs ≠ []) : ∃ text, keyText configs = text ++ ";" := by
  induction configs with
  | nil => exact absurd rfl nonempty
  | cons config rest ih =>
    rw [keyText_cons]
    by_cases last : rest = []
    · subst last
      cases config with
      | contentSlot => exact ⟨"contentSlot", rfl⟩
      | replace name? pattern replacement =>
        exact ⟨"replace:" ++ pattern ++ "=>" ++ replacement, String.append_empty⟩
    · obtain ⟨text, ended⟩ := ih last
      exact ⟨config.keyText ++ text, by rw [ended, String.append_assoc]⟩

/-- Only the steps themselves have a key that can be read in one way. -/
theorem Distinctive.unnamed_eq (distinctive : Distinctive configs)
    (valid : ∀ step ∈ others, step.Valid) (same : keyText others = keyText configs) :
    others.map StepConfig.unnamed = configs.map StepConfig.unnamed := by
  induction configs generalizing others with
  | nil =>
    by_cases none : others = []
    · rw [none]
    · obtain ⟨text, ended⟩ := exists_semicolon none
      have chars := congrArg String.toList (ended.symm.trans same)
      simp [keyText] at chars
  | cons config rest ih =>
    cases config with
    | contentSlot =>
      rw [keyText_cons] at same
      obtain ⟨rest', rfl, behind⟩ := exists_of_contentSlot same
      rw [List.forall_mem_cons] at valid
      rw [List.map_cons, List.map_cons, ih distinctive valid.2 behind]
    | replace name? pattern replacement =>
      cases rest with
      | cons next rest => exact distinctive.elim
      | nil =>
        rw [keyText_replace] at same
        obtain ⟨name'?, pattern', replacement', rest', rfl, text⟩ := exists_of_replace same
        rw [List.forall_mem_cons] at valid
        by_cases last : rest' = []
        · subst last
          have whole := (String.append_left_inj _).mp text
          have front := distinctive.split pattern' replacement' valid.1 whole
          rw [front] at whole
          have back := (String.append_right_inj _).mp whole
          rw [List.map_singleton, List.map_singleton, StepConfig.unnamed, StepConfig.unnamed, front, back]
        · -- What the further steps write would be the end of the replacement.
          obtain ⟨before, ended⟩ := exists_semicolon last
          have whole : pattern' ++ "=>" ++ (replacement' ++ ";" ++ before) =
              pattern ++ "=>" ++ replacement := by
            refine (String.append_left_inj ";").mp ?_
            simpa only [ended, keyText_nil, String.append_assoc, String.append_empty] using text
          rw [distinctive.split pattern' _ valid.1 whole] at whole
          have back := (String.append_right_inj _).mp whole
          refine absurd ?_ (distinctive.alone replacement' rest' last valid.2)
          rw [ended, ← back, ← String.append_assoc]

/-- If no other steps have the key, it can be read in one way. -/
theorem distinctive_of_unique (valid : ∀ step ∈ configs, step.Valid)
    (unique : ∀ others, (∀ step ∈ others, step.Valid) → keyText others = keyText configs →
      others.map StepConfig.unnamed = configs.map StepConfig.unnamed) : Distinctive configs := by
  induction configs with
  | nil => exact trivial
  | cons config rest ih =>
    rw [List.forall_mem_cons] at valid
    cases config with
    | contentSlot =>
      refine ih valid.2 fun others valid' same => ?_
      have both := unique (.contentSlot :: others) (List.forall_mem_cons.mpr ⟨trivial, valid'⟩)
        (by rw [keyText_cons, keyText_cons, same])
      simpa using both
    | replace name? pattern replacement =>
      cases rest with
      | nil =>
        refine ⟨fun before behind formed same => ?_, fun front steps nonempty valid' same => ?_⟩
        · have both := unique [.replace none before behind] (List.forall_mem_singleton.mpr formed)
            (by rw [keyText_replace, keyText_replace, same])
          cases both
          rfl
        · have both := unique (.replace none pattern front :: steps)
            (List.forall_mem_cons.mpr ⟨valid.1, valid'⟩) (by
              simp only [keyText_replace, keyText_nil, String.append_empty, String.append_assoc] at same ⊢
              rw [same])
          have lengths := congrArg List.length both
          simp [nonempty] at lengths
      | cons next rest =>
        obtain ⟨text, ended⟩ := exists_semicolon (List.cons_ne_nil next rest)
        have both := unique [.replace none pattern (replacement ++ ";" ++ text)]
          (List.forall_mem_singleton.mpr valid.1)
          (by simp only [keyText_replace, keyText_nil, ended, String.append_empty, String.append_assoc])
        have lengths := congrArg List.length both
        simp at lengths

/-- A pattern and a replacement that hold no arrow can be read in one way, if the replacement holds no
semicolon. -/
theorem readOneWay_of_plain {pattern replacement : String}
    (left : ¬ ['=', '>'] <:+: pattern.toList) (right : ¬ ['=', '>'] <:+: replacement.toList)
    (last : ';' ∉ replacement.toList) : ReadOneWay pattern replacement where
  split := by
    intro before behind _ same
    have chars := congrArg String.toList same
    simp only [String.append_assoc, String.toList_append] at chars
    change before.toList ++ '=' :: '>' :: behind.toList =
      pattern.toList ++ '=' :: '>' :: replacement.toList at chars
    -- An arrow elsewhere would overlap with this one, or be within one of the texts.
    rcases List.append_eq_append_iff.mp chars with ⟨more, longer, rest⟩ | ⟨more, longer, rest⟩
    · rcases more with _ | ⟨_, _ | ⟨_, more⟩⟩
      · exact String.toList_inj.mp (by simpa using longer.symm)
      · simp at rest
      · simp only [List.cons_append, List.cons.injEq] at rest
        obtain ⟨rfl, rfl, -⟩ := rest
        exact absurd ⟨before.toList, more, by simp [longer]⟩ left
    · rcases more with _ | ⟨_, _ | ⟨_, more⟩⟩
      · exact String.toList_inj.mp (by simpa using longer)
      · simp at rest
      · simp only [List.cons_append, List.cons.injEq] at rest
        obtain ⟨-, -, rest⟩ := rest
        exact absurd ⟨more, behind.toList, by simp [rest]⟩ right
  alone := by
    intro front steps nonempty _ same
    obtain ⟨text, ended⟩ := exists_semicolon nonempty
    rw [ended, ← String.append_assoc] at same
    rw [← (String.append_left_inj _).mp same] at last
    simp at last

end Pipeline

namespace Engine

/-- Engines with these steps, under some options and with some analyzers, would store what they find for
some components in one file, although of what is hashed for it no two strings have the same digest. The
keys of the analyzers hold equally many zeros, as a rule none. -/
def SharesFile (pipeline other : Pipeline) : Prop :=
  ∃ options options' key key' pipelineKey pipelineKey' store store' path path',
    pipeline.cacheKey? = some pipelineKey ∧ other.cacheKey? = some pipelineKey' ∧
    storePlan options (some key) pipeline = .use store ∧
    storePlan options' (some key') other = .use store' ∧
    key'.toList.count '\x00' = key.toList.count '\x00' ∧
    Set.InjOn Digest.digest64 {bytes | bytes ∈ [storeHashed options key pipelineKey,
      storeHashed options' key' pipelineKey', store.hashed path, store'.hashed path']} ∧
    store.file path = store'.file path'

/-- Engines share files only if their pipelines have the same key. -/
theorem SharesFile.cacheKey?_eq {pipeline other : Pipeline} (shares : SharesFile pipeline other) :
    other.cacheKey? = pipeline.cacheKey? := by
  obtain ⟨options, options', key, key', pipelineKey, pipelineKey', store, store', path, path', keyed,
    keyed', plan, plan', zeros, free, file⟩ := shares
  obtain ⟨-, hashed⟩ := hashed_of_file keyed keyed' plan plan' free file
  rw [keyed, keyed', (storeHashed_keys zeros hashed).2]

end Engine

namespace Pipeline

variable {configs : List StepConfig} {pipeline : Pipeline}

/-- The key of a pipeline tells its steps, but for their names, if and only if it can be read in one way.
Then every pipeline that has the key, and so every one whose engines share files with those of this one,
makes the same of every source. -/
theorem cacheKey_tells_steps_iff (made : ofConfig configs = .ok pipeline) :
    (Distinctive configs ↔
      ∀ others other, ofConfig others = .ok other → other.cacheKey? = pipeline.cacheKey? →
        others.map StepConfig.unnamed = configs.map StepConfig.unnamed) ∧
    (Distinctive configs → ∀ others other, ofConfig others = .ok other →
      other.cacheKey? = pipeline.cacheKey? ∨ Engine.SharesFile pipeline other →
        ∀ identity source, other.apply identity source = pipeline.apply identity source) := by
  have valid := exists_ofConfig_iff.mp ⟨pipeline, made⟩
  have tells (distinctive : Distinctive configs) (others : List StepConfig) (other : Pipeline)
      (made' : ofConfig others = .ok other) (same : other.cacheKey? = pipeline.cacheKey?) :
      others.map StepConfig.unnamed = configs.map StepConfig.unnamed := by
    rw [cacheKey?_ofConfig made, cacheKey?_ofConfig made', Option.some.injEq] at same
    exact distinctive.unnamed_eq (exists_ofConfig_iff.mp ⟨other, made'⟩) same
  refine ⟨⟨tells, fun unique => ?_⟩, fun distinctive others other made' alike identity source => ?_⟩
  · refine distinctive_of_unique valid fun others valid' same => ?_
    obtain ⟨other, made'⟩ := exists_ofConfig_iff.mpr valid'
    refine unique others other made' ?_
    rw [cacheKey?_ofConfig made, cacheKey?_ofConfig made', same]
  · have same := alike.elim id Engine.SharesFile.cacheKey?_eq
    exact apply_eq_of_unnamed made made' (tells distinctive others other made' same) identity source

/-- A content slot and a replacement of plain words. -/
def wordSteps : List StepConfig := [.contentSlot, .replace (some "words") "alpha" "beta"]

/-- What stores are shared with these steps makes the same of every source. -/
theorem cacheKey_tells_steps_iff_words :
    ∃ pipeline, ofConfig wordSteps = .ok pipeline ∧
      ∀ others other, ofConfig others = .ok other →
        other.cacheKey? = pipeline.cacheKey? ∨ Engine.SharesFile pipeline other →
          ∀ identity source, other.apply identity source = pipeline.apply identity source := by
  have valid : ∀ step ∈ wordSteps, step.Valid := by
    refine List.forall_mem_cons.mpr ⟨trivial, List.forall_mem_singleton.mpr ?_⟩
    exact (by decide +kernel : (Pattern.parse? "alpha").isSome = true)
  obtain ⟨pipeline, made⟩ := exists_ofConfig_iff.mpr valid
  have distinctive : Distinctive wordSteps :=
    readOneWay_of_plain (by decide) (by decide) (by decide)
  exact ⟨pipeline, made, (cacheKey_tells_steps_iff made).2 distinctive⟩

/-- What the steps that options ask for make of a source. -/
private def outcome? (configs : List StepConfig) (source : String) : Option String :=
  (ofConfig configs).toOption.bind fun pipeline => (pipeline.apply default source).toOption

private theorem outcome?_of_made (made : ofConfig configs = .ok pipeline) (source : String) :
    outcome? configs source = (pipeline.apply default source).toOption := by
  rw [outcome?, made]
  rfl

/-- An arrow that belongs to a replacement and one that belongs to a pattern make the same key. An engine
with the one pipeline has the store of an engine with the other one, though the two make different texts
of one source. -/
theorem cacheKey_shared_by_arrows :
    ∃ pipeline other, ofConfig [.replace none "a" "b=>c"] = .ok pipeline ∧
      ofConfig [.replace none "a=>b" "c"] = .ok other ∧ other.cacheKey? = pipeline.cacheKey? ∧
      (∀ options key?, Engine.storePlan options key? other = Engine.storePlan options key? pipeline) ∧
      ¬ ∀ identity source, other.apply identity source = pipeline.apply identity source := by
  have valid : ∀ step ∈ [StepConfig.replace none "a" "b=>c"], step.Valid :=
    List.forall_mem_singleton.mpr (by decide +kernel : (Pattern.parse? "a").isSome = true)
  have valid' : ∀ step ∈ [StepConfig.replace none "a=>b" "c"], step.Valid :=
    List.forall_mem_singleton.mpr (by decide +kernel : (Pattern.parse? "a=>b").isSome = true)
  obtain ⟨pipeline, made⟩ := exists_ofConfig_iff.mpr valid
  obtain ⟨other, made'⟩ := exists_ofConfig_iff.mpr valid'
  have same : other.cacheKey? = pipeline.cacheKey? := by
    rw [cacheKey?_ofConfig made, cacheKey?_ofConfig made']
    decide
  refine ⟨pipeline, other, made, made', same, fun options key? => ?_, fun alike => ?_⟩
  · simp only [Engine.storePlan, same]
  · have left : outcome? [.replace none "a" "b=>c"] "a=>b" = some "b=>c=>b" := by decide +kernel
    have right : outcome? [.replace none "a=>b" "c"] "a=>b" = some "c" := by decide +kernel
    rw [outcome?_of_made made] at left
    rw [outcome?_of_made made', alike, left] at right
    exact absurd right (by decide)

end Pipeline

end ComponentCatalog
