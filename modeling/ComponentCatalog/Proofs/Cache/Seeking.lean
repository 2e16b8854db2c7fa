import ComponentCatalog.Proofs.Cache.Sound

/-! # Calls that are still to look up

A call looks up the source that it read, and once more if an analysis that it had joined was of another
source. Until then it seeks the source: whoever seeks one behind a step sought it before, or reads it
with this step.
-/

namespace ComponentCatalog

open Component

namespace Cache

/-- What had no analyzer still has none later. -/
theorem Analysis.Extends.unavailable {analysis later : Analysis} (grows : analysis.Extends later)
    (unavailable : analysis.Unavailable) : later.Unavailable :=
  unavailable.imp fun _ found => grows.result _ found

namespace Get

/-- A call is to look up a source that it read: next, or once an analysis that it joined turns out to
be of another source. -/
def Seeks (cache : Cache) (source : String) (get : Get) : Prop :=
  get.stage = .looking source ∨
    ∃ task analysis, get.stage = .waiting source task true ∧
      cache.tasks.get? task = some analysis ∧ analysis.fingerprint ≠ get.fingerprint source ∧
      ¬ analysis.Unavailable

variable {setup : Setup} {cache cache' : Cache} {get : Get} {reply : Reply} {stage : Stage}
  {source : String}

theorem Seeks.before (waits : get.Sound cache) (grows : cache.Extends cache')
    (seeks : get.Seeks cache' source) : get.Seeks cache source := by
  rcases seeks with looking | ⟨task, later, waiting, there, apart, available⟩
  · exact .inl looking
  · obtain ⟨analysis, present, _, _⟩ := waits.waits source task true waiting
    obtain ⟨after, there', goes⟩ := grows.tasks present
    cases there.symm.trans there'
    exact .inr ⟨task, analysis, waiting, present, goes.fingerprint ▸ apart,
      fun unavailable => available (goes.unavailable unavailable)⟩

/-- What a call seeks behind its step it sought before, unless it reads it just now. -/
theorem Transition.seeks_before (sound : cache.Sound) (waits : get.Sound cache)
    (step : Transition setup cache get reply cache' stage)
    (seeks : Seeks cache' source { get with stage }) :
    get.Seeks cache source ∨ get.stage = .reading ∧ reply = .text (.ok source) := by
  have grows := step.grows sound
  have stages := id seeks
  cases step with
  | rest => exact .inl (seeks.before waits grows)
  | work _ _ _ _ _ _ => exact .inl (seeks.before waits grows)
  | record _ _ _ => exact .inl (seeks.before waits grows)
  | read reading text =>
    rcases stages with looking | ⟨_, _, waiting, _⟩
    · cases looking
      exact .inr ⟨reading, text⟩
    · cases waiting
  | join looking _ =>
    rcases stages with looking' | ⟨_, _, waiting, _⟩
    · cases looking'
    · cases waiting
      exact .inl (.inl looking)
  | @take read task joined analysis result waiting present recorded =>
    rcases get.afterTask_cases read joined result with ⟨now, -⟩ | ⟨rfl, now, entry, rfl, other⟩ <;>
    rcases stages with looking | ⟨_, _, waiting', _⟩
    · cases now.symm.trans looking
    · cases now.symm.trans waiting'
    · cases now.symm.trans looking
      have found := Analysis.result?_of_recorded recorded
      obtain ⟨outcome, rfl⟩ := (sound.analyses present).found entry found
      refine .inl (.inr ⟨task, analysis, waiting, present, ?_, ?_⟩)
      · intro same
        exact other (congrArg some same)
      · rintro ⟨reason, unavailable⟩
        cases found.symm.trans unavailable
    · cases now.symm.trans waiting'
  | _ =>
    rcases stages with looking | ⟨_, _, waiting, _⟩
    · cases looking
    · cases waiting

end Get

end Cache

end ComponentCatalog
