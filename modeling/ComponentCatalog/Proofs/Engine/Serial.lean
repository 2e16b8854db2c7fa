import ComponentCatalog.Proofs.Engine.Orderly

/-! # Calls that follow one another

Calls are made and dropped, and entries invalidated, only when every call has ended. Then the engine
is in order after every event of a run from its creation.
-/

namespace ComponentCatalog

open Component

namespace Engine

open Cache

/-- Every call has ended. -/
def Idle (engine : Engine) : Prop :=
  ∀ id call, engine.calls.get? id = some call → ∃ result, call = .finished result

/-- Calls that all have ended leave an idle engine. -/
theorem idle_of_all {engine : Engine}
    (ended : (engine.calls.all fun call => call.2.result?.isSome) = true) : engine.Idle := by
  intro id call now
  have answered := List.all_eq_true.mp ended _ (Table.mem_of_get? now)
  cases call with
  | finished result => exact ⟨result, rfl⟩
  | _ => cases answered

/-- Calls are made and dropped, and entries invalidated, only when every call has ended. -/
def OneByOne (engine : Engine) : Event → Prop
  | .step .. | .takeNotices => True
  | _ => engine.Idle

variable {engine next : Engine} {id : Nat} {call call' : Call}

/-- When every call has ended, any call is in order that has ended, too. -/
theorem Orderly.idle (orderly : engine.Orderly id call) (idle : engine.Idle) (other : Nat)
    (result : Except Fault Answer) : engine.Orderly other (.finished result) := by
  have ended : ∃ result, call = .finished result := by
    by_contra going
    have now := orderly.present fun result same => going ⟨result, same⟩
    exact going (idle id call now)
  obtain ⟨before, rfl⟩ := ended
  refine ⟨orderly.sound, orderly.distinct, orderly.revision, ?_, fun going => absurd rfl (going _),
    ?_, trivial, ?_⟩
  · exact fun other found there => .inr (idle other found there)
  · intro path flight flying
    cases (orderly.landed (by simp) path).symm.trans flying
  · exact orderly.members.mono orderly.revision (by simp) rfl rfl (Nat.le_refl _) fun _ shown => shown

/-- Once the call in progress has its result, every call has ended. -/
theorem Orderly.idle_of_result (orderly : engine.Orderly id call)
    (answered : (engine.result? id).isSome) : engine.Idle := by
  intro other found there
  rcases orderly.calls other found there with ⟨rfl, -⟩ | ended
  · rw [result?, there, Option.bind_some] at answered
    cases found with
    | finished result => exact ⟨result, rfl⟩
    | _ => cases answered
  · exact ended

/-! ## Making calls -/

/-- A call begins to get entries of different paths. -/
theorem Orderly.new_gets {result : Except Fault Answer}
    (orderly : engine.Orderly id (.finished result)) (goal : Goal) {identities : List Identity}
    (distinct : (identities.map fun identity => identity.path.parts).Nodup) :
    (engine.setCall id (.getting goal (identities.map fun identity => { identity }))).Orderly id
      (.getting goal (identities.map fun identity => { identity })) := by
  have fits : ∀ get ∈ identities.map (fun identity => ({ identity } : Get)),
      Get.Sound engine.cache get ∧ Get.Grounded engine.cache get := by
    intro get member
    obtain ⟨identity, -, rfl⟩ := List.mem_map.mp member
    exact ⟨⟨by simp⟩, ⟨by simp, by simp⟩⟩
  refine orderly.advance (orderly.sound.setCall id ?_) (fun _ => calls_setCall ..) orderly.distinct
    orderly.revision ?_ ⟨?_, ?_⟩ ?_
  · intro _ _ same
    cases same
    exact fun get member => (fits get member).1
  · intro path flight flying
    cases (orderly.landed (by simp) path).symm.trans flying
  · rw [List.map_map]
    exact distinct
  · exact fun get member => (fits get member).2
  · exact orderly.members.mono orderly.revision (by simp) rfl rfl (Nat.le_refl _) fun _ shown => shown

private theorem Orderly.begin_gets {result : Except Fault Answer}
    (orderly : engine.Orderly id (.finished result)) (goal : Goal) {identities : List Identity}
    (distinct : (identities.map fun identity => identity.path.parts).Nodup)
    (none : identities = [] → ∃ before, goal = .all before) :
    ∃ call, (engine.withGets id goal (identities.map fun identity => { identity })).Orderly id
      call :=
  Orderly.withGets orderly.sound (orderly.new_gets goal distinct)
    fun same => none (List.map_eq_nil_iff.mp same)

/-- What is invalidated keeps its entry. -/
theorem shown_invalidate (cache : Cache) (path other : Path) (shown : cache.Shown other) :
    (cache.invalidate path).Shown other := by
  simp only [Shown, Cache.slot, slot?_invalidate] at shown ⊢
  split
  · cases present : cache.slot? other with
    | none => rwa [present] at shown
    | some slot => rwa [present] at shown
  · exact shown

private theorem Orderly.of_cache {result : Except Fault Answer}
    (orderly : engine.Orderly id (.finished result)) {cache : Cache} (sound : cache.Sound)
    (grows : engine.cache.Extends cache) (landed : ∀ path, (cache.slot path).inFlight? = none)
    (kept : ∀ path, engine.cache.Shown path → cache.Shown path) :
    ({ engine with cache }).Orderly id (.finished result) where
  sound := orderly.sound.of_grows sound grows rfl
  distinct := orderly.distinct
  revision := Nat.le_trans orderly.revision grows.revision
  calls := orderly.calls
  present := fun going => absurd rfl (going result)
  flights := fun path flight flying => by cases (landed path).symm.trans flying
  fits := trivial
  members := orderly.members.mono orderly.revision (by simp) rfl rfl grows.revision kept

private theorem Orderly.invalidate {result : Except Fault Answer}
    (orderly : engine.Orderly id (.finished result)) (path : Path) :
    (engine.changeCache (·.invalidate path)).Orderly id (.finished result) := by
  refine orderly.of_cache (orderly.sound.cache.invalidate path) (.invalidate engine.cache path) ?_
    (shown_invalidate engine.cache path)
  intro other
  have landed := orderly.landed (by simp) other
  simp only [Cache.slot, slot?_invalidate] at landed ⊢
  split
  · cases present : engine.cache.slot? other with
    | none => rfl
    | some slot =>
      rw [present] at landed
      have idle : slot.inFlight? = none := landed
      simp [Slot.invalidate, idle]
  · exact landed

private theorem Orderly.invalidateAll {result : Except Fault Answer}
    (orderly : engine.Orderly id (.finished result)) :
    (engine.changeCache Cache.invalidateAll).Orderly id (.finished result) := by
  refine orderly.of_cache orderly.sound.cache.invalidateAll
    (.of_tasks_eq rfl (Nat.le_refl _) (Nat.le_refl _)) ?_ ?_
  · intro other
    have landed := orderly.landed (by simp) other
    simp only [Cache.slot, slot?_invalidateAll] at landed ⊢
    cases present : engine.cache.slot? other with
    | none => rfl
    | some slot =>
      rw [present] at landed
      have idle : slot.inFlight? = none := landed
      simp [Slot.invalidate, idle]
  · intro other shown
    simp only [Shown, Cache.slot, slot?_invalidateAll] at shown ⊢
    cases present : engine.cache.slot? other with
    | none => rwa [present] at shown
    | some slot => rwa [present] at shown

/-- A discovery begins: what is published and not registered any more is about to be forgotten. -/
private theorem Orderly.begin_sync {result : Except Fault Answer}
    (orderly : engine.Orderly id (.finished result)) (descriptors : List Descriptor) :
    ∃ call, (engine.start id (.sync descriptors)).Orderly id call := by
  have sound := orderly.sound.start id (.sync descriptors)
  simp only [Engine.start, foldl_tell] at sound ⊢
  let found := (engine.registry.filter.select descriptors).1
  have members : ∀ shown : List Identity, shown.Sublist engine.registry.list →
      shown.Sublist (Registry.merge engine.registry.list found) ∨
      ∃ identity ∈ shown, identity ∈ (diff engine.registry.list found).removed := by
    intro shown before
    by_cases stay : ∀ identity ∈ shown, found.any identity.same
    · exact .inl (Registry.sublist_merge before stay)
    · simp only [not_forall] at stay
      obtain ⟨identity, member, gone⟩ := stay
      refine .inr ⟨identity, member, List.mem_filter.mpr ⟨before.subset member, ?_⟩⟩
      simpa using gone
  unfold withDiff at sound ⊢
  split at sound
  · next empty =>
    rw [if_pos empty]
    refine ⟨_, orderly.advance sound (fun _ => calls_finish ..)
      (Registry.register_distinct orderly.distinct descriptors) orderly.revision ?_ trivial ?_⟩
    · intro path flight flying
      have there : (engine.cache.slot path).inFlight? = some flight := flying
      cases (orderly.landed (by simp) path).symm.trans there
    · intro current
      obtain ⟨shown, names, each, before⟩ := orderly.members.sublist (by simp) current
      refine ⟨shown, names, each, .inl ?_⟩
      rcases members shown before with after | ⟨identity, _, gone⟩
      · exact after
      · have none : (diff engine.registry.list found).removed = [] := by
          have both := (Bool.and_eq_true _ _).mp empty
          exact List.isEmpty_iff.mp both.2
        rw [none] at gone
        cases gone
  · next changed =>
    rw [if_neg changed]
    refine ⟨_, orderly.advance sound (fun _ => calls_setCall ..)
      (Registry.register_distinct orderly.distinct descriptors) orderly.revision ?_ trivial ?_⟩
    · intro path flight flying
      have there : (engine.cache.slot path).inFlight? = some flight := flying
      cases (orderly.landed (by simp) path).symm.trans there
    · intro current
      obtain ⟨shown, names, each, before⟩ := orderly.members.sublist (by simp) current
      refine ⟨shown, names, each, ?_⟩
      rcases members shown before with after | ⟨identity, member, gone⟩
      · exact .inl after
      · exact .inr ⟨_, _, rfl, identity, member, identity.path, List.mem_map_of_mem gone, rfl⟩

/-- A call that is made when every call has ended keeps the engine in order. -/
theorem Orderly.start {result : Except Fault Answer}
    (orderly : engine.Orderly id (.finished result)) (job : Job) :
    ∃ call, (engine.start id job).Orderly id call := by
  have single : ∀ identity : Identity,
      ([identity].map fun identity => identity.path.parts).Nodup := by simp
  have ends : ∀ answer, ∃ call, (engine.finish id answer).Orderly id call := fun answer =>
    ⟨_, orderly.moves (by simp) (by simp) (orderly.sound.finish id answer) (fun _ => calls_finish ..)
      rfl rfl rfl rfl trivial⟩
  cases job with
  | sync descriptors => exact orderly.begin_sync descriptors
  | parse identity => exact orderly.begin_gets _ (single identity) (by simp)
  | parseNamed name =>
    simp only [Engine.start]
    split
    · next identity _ => exact orderly.begin_gets _ (single identity) (by simp)
    · exact ends _
  | parseAll =>
    refine orderly.begin_gets _ (List.pairwise_map.mpr (orderly.distinct.imp And.right)) ?_
    exact fun _ => ⟨_, rfl⟩
  | changed path =>
    simp only [Engine.start]
    split
    · next identity _ => exact (orderly.invalidate path).begin_gets _ (single identity) (by simp)
    · exact ends _
  | get identity => exact orderly.begin_gets _ (single identity) (by simp)
  | forget path =>
    exact ⟨_, orderly.moves (by simp) (by simp) (orderly.sound.setCall id (by rintro _ _ ⟨⟩))
      (fun _ => calls_setCall ..)
      rfl rfl rfl rfl trivial⟩
  | stub =>
    simp only [Engine.start]
    split
    · exact ⟨_, orderly.moves (by simp) (by simp) (orderly.sound.setCall id (by rintro _ _ ⟨⟩))
        (fun _ => calls_setCall ..) rfl rfl rfl rfl trivial⟩
    · exact ends _

/-! ## Runs -/

private theorem Call.Fits.takeNotices (fits : call.Fits engine) :
    call.Fits engine.takeNotices.1 := by
  cases call with
  | getting goal gets =>
    exact ⟨fits.1, fun get member => ⟨(fits.2 get member).waiting, (fits.2 get member).done⟩⟩
  | publishing pending publication => cases publication <;> exact fits
  | _ => trivial

private theorem Orderly.takeNotices (orderly : engine.Orderly id call) :
    engine.takeNotices.1.Orderly id call where
  sound := orderly.sound.of_same rfl rfl rfl rfl rfl
  distinct := orderly.distinct
  revision := orderly.revision
  calls := orderly.calls
  present := orderly.present
  flights := orderly.flights
  fits := orderly.fits.takeNotices
  members := orderly.members

private theorem Orderly.drop {result : Except Fault Answer}
    (orderly : engine.Orderly id (.finished result)) (other : Nat) :
    (engine.drop other).Orderly id (.finished result) where
  sound := orderly.sound.act (.drop other)
  distinct := orderly.distinct
  revision := orderly.revision
  calls := by
    intro place found there
    rw [calls_drop] at there
    split at there
    · cases there
    · exact orderly.calls place found there
  present := fun going => absurd rfl (going result)
  flights := orderly.flights
  fits := trivial
  members := orderly.members

/-- Events one by one keep the engine in order. -/
theorem Orderly.act (orderly : engine.Orderly id call) (event : Event)
    (follows : engine.OneByOne event) : ∃ id call, (engine.act event).Orderly id call := by
  cases event with
  | start other job => exact ⟨other, (orderly.idle follows other (.ok .nothing)).start job⟩
  | step other index reply => exact ⟨id, orderly.step other index reply⟩
  | drop other => exact ⟨id, _, (orderly.idle follows id (.ok .nothing)).drop other⟩
  | invalidate path => exact ⟨id, _, (orderly.idle follows id (.ok .nothing)).invalidate path⟩
  | invalidateAll => exact ⟨id, _, (orderly.idle follows id (.ok .nothing)).invalidateAll⟩
  | takeNotices => exact ⟨id, call, orderly.takeNotices⟩

theorem Orderly.create (options : Options) (exclude : List Exclude) (pipeline : Pipeline)
    (plan : StorePlan) (made : Except Files.Fault Unit) :
    (Engine.create options exclude pipeline plan made).Orderly 0 (.finished (.ok .nothing)) where
  sound := .create options exclude pipeline plan made
  distinct := List.Pairwise.nil
  revision := Nat.le_refl 0
  calls := by rintro _ _ ⟨⟩
  present := fun going => absurd rfl (going _)
  flights := by rintro _ _ ⟨⟩
  fits := trivial
  members := fun current => by cases current.1

/-- What calls one by one make of a new engine. -/
def Serial (engine : Engine) : Prop :=
  ∃ options exclude pipeline plan made events,
    Follows act OneByOne (Engine.create options exclude pipeline plan made) events ∧
      events.foldl act (Engine.create options exclude pipeline plan made) = engine

/-- One more event after the others. -/
theorem Serial.act (serial : engine.Serial) (event : Event) (follows : engine.OneByOne event) :
    (engine.act event).Serial := by
  obtain ⟨options, exclude, pipeline, plan, made, events, before, rfl⟩ := serial
  exact ⟨options, exclude, pipeline, plan, made, events ++ [event],
    Follows.concat_iff.mpr ⟨before, follows⟩, by simp⟩

/-- Whatever was called one by one, the engine is in order. -/
theorem Serial.orderly (serial : engine.Serial) : ∃ id call, engine.Orderly id call := by
  obtain ⟨options, exclude, pipeline, plan, made, events, follows, rfl⟩ := serial
  exact follows.preserves (P := fun engine => ∃ id call, engine.Orderly id call)
    (fun _ event ⟨_, _, orderly⟩ allowed => orderly.act event allowed)
    ⟨0, _, .create options exclude pipeline plan made⟩

end Engine

end ComponentCatalog
