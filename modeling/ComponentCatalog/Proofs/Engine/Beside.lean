import ComponentCatalog.Proofs.Cache.Alone
import ComponentCatalog.Proofs.Cache.Drive
import ComponentCatalog.Proofs.Engine.Changes
import ComponentCatalog.Proofs.Engine.Effects
import Mathlib.Algebra.GroupWithZero.Nat

/-! # Getting all components at once

Getting all components gets one entry for each, and the components have different paths. So each entry
is got alone on its path if nothing was on its way before, and a step for one of them leaves all others
as they are.
-/

namespace ComponentCatalog

open Component

namespace Cache

/-- The analysis that a call waits for stores metadata only where there is a store. -/
def Get.StoresIn (setup : Setup) (cache : Cache) (get : Get) : Prop :=
  ∀ source task joined analysis, get.stage = .waiting source task joined →
    cache.tasks.get? task = some analysis → analysis.StoresIn setup

variable {setup : Setup} {cache cache' : Cache} {get other : Get} {reply : Reply} {stage : Get.Stage}

/-- A call that is alone goes on to store metadata only where there is a store. -/
theorem Get.storesIn_step (storesIn : get.StoresIn setup cache) (alone : get.Alone cache)
    (reply : Reply) :
    (get.step setup cache reply).2.StoresIn setup (get.step setup cache reply).1 := by
  have step := get.step_transition setup cache reply
  rw [get.step_snd setup cache reply]
  generalize (get.step setup cache reply).1 = cache' at step ⊢
  generalize (get.step setup cache reply).2.stage = stage at step ⊢
  rintro source task joined later waiting there
  cases step with
  | rest => exact storesIn source task joined later waiting there
  | start _ _ _ =>
    cases waiting
    rw [tasks_launched, if_pos rfl] at there
    cases there
    rintro _ _ ⟨⟩
  | join looking flying =>
    rw [alone.flight, flight?, looking] at flying
    cases flying
  | @take _ _ _ _ result waited _ _ =>
    obtain ⟨rfl, -⟩ := alone.own _ _ _ waited
    cases result <;> cases waiting
  | @work _ _ _ analysis analyses notices _ waited present _ _ _ step =>
    cases waited.symm.trans waiting
    rw [Table.get?_set, if_pos rfl] at there
    cases there
    have after := analysis.step_storesIn setup task cache reply (storesIn _ _ _ _ waited present)
    rw [step] at after
    exact after
  | record waited _ _ =>
    cases waited.symm.trans waiting
    rw [tasks_recorded, if_pos rfl] at there
    cases there
    rintro _ _ ⟨⟩
  | _ => cases waiting

theorem Get.storesIn_other (step : Get.Transition setup cache get reply cache' stage)
    (sound : cache.Sound) (alone : get.Alone cache)
    (apart : get.identity.path.parts ≠ other.identity.path.parts) (beside : other.Alone cache)
    (storesIn : other.StoresIn setup cache) : other.StoresIn setup cache' := by
  intro source task joined analysis waiting there
  rw [step.waited sound alone apart beside waiting] at there
  exact storesIn source task joined analysis waiting there

end Cache

namespace Engine

open Cache

/-! ## Entries that are there -/

private theorem mapM_result? {gets : List Get} {results : List (Except String Entry)}
    (done : gets.map Get.result? = results.map some) : gets.mapM Get.result? = some results := by
  induction gets generalizing results with
  | nil =>
    cases results with
    | nil => rfl
    | cons _ _ => cases done
  | cons get rest ih =>
    cases results with
    | nil => cases done
    | cons result results =>
      obtain ⟨first, others⟩ := List.cons.inj done
      rw [List.mapM_cons, first, ih others]
      rfl

private theorem mapM_result?_none {gets : List Get} {get : Get} (member : get ∈ gets)
    (open_ : get.result? = none) : gets.mapM Get.result? = none := by
  induction gets with
  | nil => cases member
  | cons first rest ih =>
    rw [List.mapM_cons]
    rcases List.mem_cons.mp member with rfl | later
    · rw [open_]
      rfl
    · rw [ih later]
      cases first.result? <;> rfl

/-- As long as an entry is missing, the call goes on getting. -/
theorem withGets_of_open (engine : Engine) (id : Nat) (goal : Goal) {gets : List Get} {get : Get}
    (member : get ∈ gets) (open_ : get.result? = none) :
    engine.withGets id goal gets = engine.setCall id (.getting goal gets) := by
  simp only [withGets, mapM_result?_none member open_]

/-- Once all results are there, the call goes on with them. -/
theorem withGets_of_results (engine : Engine) (id : Nat) (goal : Goal) {gets : List Get}
    {results : List (Except String Entry)} (done : gets.map Get.result? = results.map some) :
    engine.withGets id goal gets =
      match entriesOf results with
      | .ok entries => engine.withEntries id entries goal
      | .error reason => engine.finish id (.error (.unavailable reason)) := by
  have all := mapM_result? done
  cases entries : entriesOf results <;> simp only [withGets, all, entries]

/-- As soon as no entry is missing, all results are there. -/
theorem exists_results {gets : List Get} (done : ∀ get ∈ gets, get.result? ≠ none) :
    ∃ results : List (Except String Entry), gets.map Get.result? = results.map some := by
  induction gets with
  | nil => exact ⟨[], rfl⟩
  | cons get rest ih =>
    obtain ⟨results, same⟩ := ih fun other member => done other (List.mem_cons_of_mem _ member)
    obtain ⟨result, there⟩ := Option.ne_none_iff_exists'.mp (done get List.mem_cons_self)
    exact ⟨result :: results, by simp [there, same]⟩

/-- Either all results are entries, or the first that is none says why. -/
theorem entriesOf_cases (results : List (Except String Entry)) :
    (∃ entries : List Entry, results = entries.map Except.ok ∧ entriesOf results = .ok entries) ∨
    ∃ (front : List Entry) (reason : String) (rest : List (Except String Entry)),
      results = front.map Except.ok ++ .error reason :: rest ∧ entriesOf results = .error reason := by
  induction results with
  | nil => exact .inl ⟨[], rfl, rfl⟩
  | cons result rest ih =>
    cases result with
    | error reason => exact .inr ⟨[], reason, rest, rfl, rfl⟩
    | ok entry =>
      unfold entriesOf at ih ⊢
      rw [List.mapM_cons]
      rcases ih with ⟨entries, rfl, all⟩ | ⟨front, reason, back, rfl, first⟩
      · exact .inl ⟨entry :: entries, rfl, by rw [all]; rfl⟩
      · exact .inr ⟨entry :: front, reason, back, rfl, by rw [first]; rfl⟩

/-! ## One entry for each component -/

/-- Components, setup and what is published are as they were, and no snapshot was taken. -/
structure Still (before engine : Engine) : Prop where
  setup : engine.setup = before.setup
  registry : engine.registry = before.registry
  published : engine.published = before.published
  publisher : engine.publisher? = before.publisher?
  generation : engine.cache.generation = before.cache.generation

theorem Still.refl (engine : Engine) : engine.Still engine := ⟨rfl, rfl, rfl, rfl, rfl⟩

/-- One entry is got for each component that was registered before, each alone on its path. -/
structure Beside (before engine : Engine) (gets : List Get) : Prop where
  sound : engine.cache.Sound
  still : before.Still engine
  identities : gets.map Get.identity = before.registry.list
  alone : ∀ get ∈ gets, get.Alone engine.cache
  storesIn : ∀ get ∈ gets, get.StoresIn engine.setup engine.cache

variable {before engine : Engine} {gets front back : List Get} {get : Get}

/-- An element of a list has others before and behind it, which stay when it is replaced. -/
theorem exists_split {index : Nat} (this : gets[index]? = some get) :
    ∃ front back, gets = front ++ get :: back ∧ ∀ next, gets.set index next = front ++ next :: back := by
  obtain ⟨inside, rfl⟩ := List.getElem?_eq_some_iff.mp this
  refine ⟨gets.take index, gets.drop (index + 1), ?_, fun next => ?_⟩
  · rw [List.getElem_cons_drop, List.take_append_drop]
  · exact List.set_eq_take_append_cons_drop.trans (if_pos inside)

theorem mem_split_iff {other : Get} :
    other ∈ front ++ get :: back ↔ other = get ∨ other ∈ front ++ back :=
  List.perm_middle.mem_iff.trans List.mem_cons

/-- What is picked from one element and from the others. -/
theorem filterMap_split {β : Type} (pick : Get → Option β) :
    List.Perm ((front ++ get :: back).filterMap pick)
      ((pick get).toList ++ (front ++ back).filterMap pick) := by
  refine (List.perm_middle.filterMap pick).trans ?_
  cases picked : pick get <;> simp [picked]

/-- What is counted of one element and of the others. -/
theorem sum_split (f : Get → Nat) :
    ((front ++ get :: back).map f).sum = f get + ((front ++ back).map f).sum :=
  (List.perm_middle.map f).sum_nat.trans List.sum_cons

/-- When nothing is on its way, all components can be got. -/
theorem Beside.begin (sound : engine.Sound)
    (landed : ∀ path, (engine.cache.slot path).inFlight? = none) :
    engine.Beside engine (engine.registry.list.map fun identity => { identity }) where
  sound := sound.cache
  still := .refl engine
  identities := by
    rw [List.map_map]
    exact List.map_id _
  alone := by
    intro get member
    obtain ⟨identity, -, rfl⟩ := List.mem_map.mp member
    exact .begin (landed _)
  storesIn := by
    intro get member
    obtain ⟨identity, -, rfl⟩ := List.mem_map.mp member
    rintro _ _ _ _ ⟨⟩

/-- The other entries are got on other paths. -/
theorem Beside.apart (beside : before.Beside engine (front ++ get :: back))
    (distinct : Registry.Distinct before.registry.list) :
    ∀ other ∈ front ++ back, get.identity.Apart other.identity := by
  rw [← beside.identities, Registry.Distinct, List.pairwise_map] at distinct
  obtain ⟨-, later, earlier⟩ := List.pairwise_append.mp distinct
  intro other member
  rcases List.mem_append.mp member with inFront | behind
  · exact symm (earlier other inFront get List.mem_cons_self)
  · exact (List.pairwise_cons.mp later).1 other behind

/-- A step for one of the entries. -/
theorem Beside.step (beside : before.Beside engine (front ++ get :: back))
    (distinct : Registry.Distinct before.registry.list) (reply : Reply) :
    before.Beside { engine with cache := (get.step engine.setup engine.cache reply).1 }
      (front ++ (get.step engine.setup engine.cache reply).2 :: back) := by
  have step := get.step_transition engine.setup engine.cache reply
  have mine := beside.alone get (by simp)
  have still := beside.still
  have there : ∀ {other : Get}, other ∈ front ++ back → other ∈ front ++ get :: back := fun among =>
    mem_split_iff.mpr (.inr among)
  refine ⟨step.sound beside.sound, ?_, ?_, ?_, ?_⟩
  · exact ⟨still.setup, still.registry, still.published, still.publisher,
      step.generation.trans still.generation⟩
  · simpa using beside.identities
  · intro other member
    rcases mem_split_iff.mp member with rfl | among
    · rw [get.step_snd]
      exact step.alone_self mine
    · exact step.alone_other beside.sound mine (beside.apart distinct other among).2
        (beside.alone other (there among))
  · intro other member
    rcases mem_split_iff.mp member with rfl | among
    · exact Get.storesIn_step (beside.storesIn get (by simp)) mine reply
    · exact Get.storesIn_other step beside.sound mine (beside.apart distinct other among).2
        (beside.alone other (there among)) (beside.storesIn other (there among))

/-- What becomes of the call that gets them does not matter. -/
theorem Beside.setCall (beside : before.Beside engine gets) (id : Nat) (call : Call) :
    before.Beside (engine.setCall id call) gets :=
  have still := beside.still
  ⟨beside.sound, ⟨still.setup, still.registry, still.published, still.publisher, still.generation⟩,
    beside.identities, beside.alone, beside.storesIn⟩

end Engine

end ComponentCatalog
