import ComponentCatalog.Transform.Pipeline

/-! # Pipelines with a key

A pipeline has a key if no step of the host takes part. Then the text alone decides what becomes of it.
-/

namespace ComponentCatalog

open Component Transform

private theorem Transform.Step.run_eq {step : Transform.Step} (keyed : step.key?.isSome)
    (identity other : Identity) (text : String) : step.run identity text = step.run other text := by
  obtain ⟨name, action⟩ := step
  cases action with
  | contentSlot => rfl
  | replace pattern program replacement => rfl
  | host run => cases keyed

namespace Pipeline

private theorem isSome_key {pipeline : Pipeline} {keys : List String}
    (keyed : pipeline.mapM Transform.Step.key? = some keys) :
    ∀ step ∈ pipeline, step.key?.isSome := by
  induction pipeline generalizing keys with
  | nil => simp
  | cons first rest ih =>
    rw [List.mapM_cons] at keyed
    obtain ⟨key, own, keyed⟩ := Option.bind_eq_some_iff.mp keyed
    obtain ⟨others, each, -⟩ := Option.bind_eq_some_iff.mp keyed
    intro step member
    rcases List.mem_cons.mp member with rfl | later
    · exact Option.isSome_of_eq_some own
    · exact ih each step later

/-- What keyed steps make of a source does not depend on the component. -/
theorem apply_eq_of_key {pipeline : Pipeline} (keyed : pipeline.cacheKey?.isSome)
    (identity other : Identity) (source : String) :
    pipeline.apply identity source = pipeline.apply other source := by
  obtain ⟨key, found⟩ := Option.isSome_iff_exists.mp keyed
  obtain ⟨keys, each, -⟩ := Option.map_eq_some_iff.mp found
  have steps := isSome_key each
  clear keyed found each
  unfold apply
  induction pipeline generalizing source with
  | nil => rfl
  | cons first rest ih =>
    rw [List.foldlM_cons, List.foldlM_cons,
      Transform.Step.run_eq (steps first List.mem_cons_self) identity other]
    congr 1
    funext text
    exact ih text fun step member => steps step (List.mem_cons_of_mem _ member)

private theorem isSome_key_step {config : Options.StepConfig} {step : Transform.Step}
    (made : Step.ofConfig config = .ok step) : step.key?.isSome := by
  cases config with
  | contentSlot =>
    cases made
    rfl
  | replace name? pattern replacement =>
    simp only [Step.ofConfig] at made
    split at made <;> cases made
    rfl

/-- The steps that options ask for have a key. -/
theorem isSome_key_ofConfig {configs : List Options.StepConfig} {pipeline : Pipeline}
    (made : ofConfig configs = .ok pipeline) : pipeline.cacheKey?.isSome := by
  have each : (pipeline.mapM Transform.Step.key?).isSome := by
    induction configs generalizing pipeline with
    | nil =>
      cases made
      rfl
    | cons config rest ih =>
      rw [ofConfig, List.mapM_cons] at made
      cases own : Step.ofConfig config with
      | error fault => rw [own] at made; cases made
      | ok step =>
        cases others : rest.mapM Step.ofConfig with
        | error fault => rw [own, others] at made; cases made
        | ok steps =>
          rw [own, others] at made
          cases made
          obtain ⟨key, mine⟩ := Option.isSome_iff_exists.mp (isSome_key_step own)
          obtain ⟨keys, theirs⟩ := Option.isSome_iff_exists.mp (ih others)
          simp [mine, theirs]
  rw [cacheKey?, Option.isSome_map]
  exact each

end Pipeline

end ComponentCatalog
