import ComponentCatalog.Proofs.Cache.Session
import ComponentCatalog.Proofs.Component.Registry

/-! # Whose entry a call returns

A slot belongs to a path, and several components can share one. An entry that is hit, one that the
call's own analysis came to and one that reports an unreadable source are of the component that was
asked for. An analysis that was joined need not be: its component is not compared. So a call returns
the entry of another component exactly if it joined the analysis of another component.
-/

namespace ComponentCatalog

open Component

namespace Cache

/-- A call waits for an analysis that another call started for another component. -/
def Get.JoinedOther (get : Get) (cache : Cache) : Prop :=
  ∃ source task analysis, get.stage = .waiting source task true ∧
    cache.tasks.get? task = some analysis ∧ analysis.identity.same get.identity = false

namespace Session

/-- What a call returns is of its own component, unless it takes what it joined. -/
private theorem transition_returned {setup : Setup} {cache cache' : Cache} {get : Get}
    {reply : Reply} {stage : Get.Stage} {entry : Entry} (sound : cache.Sound)
    (waits : get.Sound cache) (pending : get.result? = none)
    (step : Get.Transition setup cache get reply cache' stage)
    (returned : stage = .done (.ok entry)) :
    entry.identity.same get.identity = true ↔ ¬ get.JoinedOther cache := by
  have own : (get.stage = .reading ∨ ∃ source, get.stage = .looking source) →
      ¬ get.JoinedOther cache := by
    rintro (now | ⟨_, now⟩) ⟨_, _, _, waiting, _⟩ <;> cases now.symm.trans waiting
  have undone : get.stage ≠ stage := by
    intro same
    simp [Get.result?, same, returned] at pending
  cases step with
  | unreadable reading text =>
    cases returned
    exact iff_of_true (Identity.same_refl _) (own (.inl reading))
  | hit looking idle hit =>
    cases returned
    exact iff_of_true (Slot.hit?_eq_some hit).2.2 (own (.inr ⟨_, looking⟩))
  | @take source task joined analysis result waiting present recorded =>
    obtain rfl : result = .ok entry := by
      rcases get.afterTask_cases source joined result with ⟨now, -⟩ | ⟨-, now, -⟩
      · cases now.symm.trans returned
        rfl
      · cases now.symm.trans returned
    obtain ⟨outcome, rfl⟩ := (sound.analyses present).found entry
      (Analysis.result?_of_recorded recorded)
    obtain ⟨awaited, present', -, started⟩ := waits.waits source task joined waiting
    cases present.symm.trans present'
    cases joined with
    | false =>
      refine iff_of_true ?_ ?_
      · rw [Analysis.entry, (started rfl).1]
        exact Identity.same_refl _
      · rintro ⟨_, _, _, joined, _⟩
        cases waiting.symm.trans joined
    | true =>
      constructor
      · rintro same ⟨_, _, other, joined, there, apart⟩
        cases waiting.symm.trans joined
        cases present.symm.trans there
        exact absurd same (by simp [Analysis.entry, apart])
      · intro owned
        cases same : analysis.identity.same get.identity with
        | true => exact same
        | false => exact absurd ⟨source, task, analysis, waiting, present, same⟩ owned
  | read _ _ => cases returned
  | start _ _ _ => cases returned
  | join _ _ => cases returned
  | _ => exact absurd rfl undone

/-- The step with which a call returns an entry returns one of the component that was asked for,
unless the call had joined the analysis of another component. -/
theorem returned_identity_iff {setup : Setup} {session : Session}
    (reached : session.Reached setup) (id : Nat) (reply : Reply) {get : Get} {entry : Entry}
    (known : session.get? id = some get) (pending : get.result? = none)
    (returned : (session.move setup (.step id reply)).returned? id = some entry) :
    entry.identity.same get.identity = true ↔ ¬ get.JoinedOther session.cache := by
  have step := get.step_transition setup session.cache reply
  obtain ⟨next, known', done⟩ := returned?_eq_some.mp returned
  rw [move_step setup reply known, get?_stepped session known, if_pos rfl] at known'
  cases known'
  exact transition_returned reached.sound.cache (reached.sound.calls known) pending step done

/-- Another component in the same file. -/
def otherCard : Identity := ⟨"Other", ⟨"/a"⟩, true⟩

/-- The second component joins the analysis of the first and waits until its result is recorded. -/
def sharedMoves : List Move :=
  [.call card, .call otherCard, .step 0 (.text (.ok "")), .step 0 .nothing,
    .step 1 (.text (.ok "")), .step 1 .nothing, .step 0 .nothing,
    .step 0 (.answered (.failed (.parse "")) 0), .step 0 .nothing]

/-- The first component gets its own entry. -/
theorem returned_identity_iff_first :
    let session := ({} : Session).run .plain sharedMoves
    ∃ get entry, session.get? 0 = some get ∧ get.result? = none ∧
      (session.move .plain (.step 0 .nothing)).returned? 0 = some entry ∧
      (entry.identity.same get.identity = true ↔ ¬ get.JoinedOther session.cache) := by
  refine ⟨⟨card, .waiting "" 1 false⟩, _, rfl, rfl, rfl, ?_⟩
  exact returned_identity_iff ⟨sharedMoves, rfl⟩ 0 .nothing rfl rfl rfl

/-- The second one gets the entry of the first: not every call returns its own component's. -/
theorem other_identity_returned :
    ¬ ∀ (setup : Setup) (session : Session), session.Reached setup →
      ∀ id get entry, session.get? id = some get → session.returned? id = some entry →
        entry.identity.same get.identity = true := by
  intro own
  let session := ({} : Session).run .plain (sharedMoves ++ [.step 1 .nothing])
  have got : (session.returned? 1).map Entry.identity = some card := by decide +kernel
  have asked : (session.get? 1).map Get.identity = some otherCard := by decide +kernel
  obtain ⟨entry, returned, ofCard⟩ := Option.map_eq_some_iff.mp got
  obtain ⟨get, known, ofOther⟩ := Option.map_eq_some_iff.mp asked
  have mixed := own .plain session ⟨_, rfl⟩ 1 get entry known returned
  rw [ofCard, ofOther] at mixed
  exact absurd mixed (by decide)

end Session

end Cache

end ComponentCatalog
