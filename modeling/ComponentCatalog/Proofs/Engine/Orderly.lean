import ComponentCatalog.Proofs.Cache.Grounded
import ComponentCatalog.Proofs.Component.Registry
import ComponentCatalog.Proofs.Engine.Sound
import Mathlib.Data.List.Nodup

/-! # An engine and its call in progress

If a call is made only when the one before has ended, an engine keeps more than soundness: whatever
is on its way to a slot is awaited by the call in progress, an entry that was got is shown by its
slot, and the published snapshot, as long as its revision is the current one, shows registered
components in the order of the registry. `Orderly` says so, and every step of a call preserves it.
-/

namespace ComponentCatalog

open Component

namespace Engine

open Cache

/-! ## Engines and their call in progress -/

/-- What a call in progress relies on: the entries that it gets are of different paths and grounded,
and the snapshot that it takes is of the components that it has come by, at the current revision. -/
def Call.Fits (engine : Engine) : Call → Prop
  | .getting _ gets =>
    (gets.map fun get => get.identity.path.parts).Nodup ∧ ∀ get ∈ gets, get.Grounded engine.cache
  | .publishing _ (.collecting revision rest shown) =>
    revision = engine.cache.revision ∧ ∃ done, engine.registry.list = done ++ rest ∧
      shown.map Prod.fst =
        (done.filter fun identity => (engine.cache.slot identity.path).last?.isSome).map Identity.name
  | _ => True

/-- While its revision is the current one, the published snapshot shows registered components in their
order, unless the slot of one of them is about to be forgotten. -/
def Members (engine : Engine) (call : Call) : Prop :=
  engine.UpToDate → ∃ shown : List Identity,
    engine.published.components.map Prod.fst = shown.map Identity.name ∧
    (∀ identity ∈ shown, engine.cache.Shown identity.path) ∧
    (shown.Sublist engine.registry.list ∨
      ∃ rest diff?, call = .forgetting rest diff? ∧
        ∃ identity ∈ shown, ∃ path ∈ rest, path.parts = identity.path.parts)

/-- An engine with one call in progress at most. -/
structure Orderly (engine : Engine) (id : Nat) (call : Call) : Prop where
  sound : engine.Sound
  distinct : Registry.Distinct engine.registry.list
  revision : engine.published.revision ≤ engine.cache.revision
  calls : ∀ other found, engine.calls.get? other = some found →
    (other = id ∧ found = call) ∨ ∃ result, found = .finished result
  present : (∀ result, call ≠ .finished result) → engine.calls.get? id = some call
  flights : ∀ path flight, (engine.cache.slot path).inFlight? = some flight →
    ∃ goal gets get source joined, call = .getting goal gets ∧ get ∈ gets ∧
      get.stage = .waiting source flight.task joined
  fits : call.Fits engine
  members : engine.Members call

variable {engine next : Engine} {id : Nat} {call call' : Call}

/-- The call in progress goes on. -/
theorem Orderly.advance (orderly : engine.Orderly id call) (sound : next.Sound)
    (calls : ∀ other, next.calls.get? other =
      if id = other then some call' else engine.calls.get? other)
    (distinct : Registry.Distinct next.registry.list)
    (revision : next.published.revision ≤ next.cache.revision)
    (flights : ∀ path flight, (next.cache.slot path).inFlight? = some flight →
      ∃ goal gets get source joined, call' = .getting goal gets ∧ get ∈ gets ∧
        get.stage = .waiting source flight.task joined)
    (fits : call'.Fits next) (members : next.Members call') : next.Orderly id call' where
  sound := sound
  distinct := distinct
  revision := revision
  calls := by
    intro other found there
    rw [calls] at there
    split at there
    · next here => exact .inl ⟨here.symm, (Option.some.inj there).symm⟩
    · next elsewhere =>
      rcases orderly.calls other found there with ⟨here, _⟩ | ended
      · exact absurd here.symm elsewhere
      · exact .inr ended
  present := fun _ => (calls id).trans (if_pos rfl)
  flights := flights
  fits := fits
  members := members

/-- Nothing is on its way while the call in progress gets no entries. -/
theorem Orderly.landed (orderly : engine.Orderly id call) (other : ∀ goal gets, call ≠ .getting goal gets)
    (path : Path) : (engine.cache.slot path).inFlight? = none := by
  cases flying : (engine.cache.slot path).inFlight? with
  | none => rfl
  | some flight =>
    obtain ⟨goal, gets, _, _, _, now, _⟩ := orderly.flights path flight flying
    exact absurd now (other goal gets)

/-- Unless components are being forgotten, what is published is registered. -/
theorem Members.sublist (members : engine.Members call)
    (other : ∀ path rest diff?, call ≠ .forgetting (path :: rest) diff?) (current : engine.UpToDate) :
    ∃ shown : List Identity,
      engine.published.components.map Prod.fst = shown.map Identity.name ∧
      (∀ identity ∈ shown, engine.cache.Shown identity.path) ∧
      shown.Sublist engine.registry.list := by
  obtain ⟨shown, names, each, before | ⟨rest, diff?, now, _, _, path, member, _⟩⟩ := members current
  · exact ⟨shown, names, each, before⟩
  · cases rest with
    | nil => cases member
    | cons first rest => exact absurd now (other first rest diff?)

/-- What is published and registered stays, and no slot loses its entry. -/
theorem Members.mono (members : engine.Members call)
    (bound : engine.published.revision ≤ engine.cache.revision)
    (other : ∀ path rest diff?, call ≠ .forgetting (path :: rest) diff?)
    (published : next.published = engine.published) (registry : next.registry = engine.registry)
    (revision : engine.cache.revision ≤ next.cache.revision)
    (kept : ∀ path, engine.cache.Shown path → next.cache.Shown path) : next.Members call' := by
  intro current
  have before : engine.UpToDate := by
    have same := published ▸ current.2
    exact ⟨published ▸ current.1, by omega⟩
  obtain ⟨shown, names, each, sublist⟩ := members.sublist other before
  exact ⟨shown, by rw [published, names], fun identity member => kept _ (each identity member),
    .inl (registry ▸ sublist)⟩

private theorem shown_of_slots {cache cache' : Cache} (slots : cache'.slots = cache.slots)
    (path : Path) (shown : cache.Shown path) : cache'.Shown path := by
  simpa only [Shown, Cache.slot, slot?, slots] using shown

/-- A call moves on that gets no entries, and the cache shows the same. -/
theorem Orderly.moves (orderly : engine.Orderly id call)
    (notGetting : ∀ goal gets, call ≠ .getting goal gets)
    (notForgetting : ∀ path rest diff?, call ≠ .forgetting (path :: rest) diff?) (sound : next.Sound)
    (calls : ∀ other, next.calls.get? other =
      if id = other then some call' else engine.calls.get? other)
    (published : next.published = engine.published) (registry : next.registry = engine.registry)
    (revision : next.cache.revision = engine.cache.revision)
    (slots : next.cache.slots = engine.cache.slots) (fits : call'.Fits next) :
    next.Orderly id call' := by
  refine orderly.advance sound calls (registry ▸ orderly.distinct) ?_ ?_ fits
    (orderly.members.mono orderly.revision notForgetting published registry
      (Nat.le_of_eq revision.symm) (shown_of_slots slots))
  · rw [published, revision]
    exact orderly.revision
  · intro path flight flying
    have landed := orderly.landed notGetting path
    simp only [Cache.slot, slot?, slots] at flying landed
    cases landed.symm.trans flying

/-! ## Getting entries -/

section

variable {goal : Goal} {gets : List Get}

private theorem gone {cache : Cache} {stages : List (Except String Entry)}
    (done : gets.map Get.stage = stages.map Get.Stage.done)
    (flights : ∀ path flight, (cache.slot path).inFlight? = some flight →
      ∃ goal' gets' get source joined, Call.getting goal gets = .getting goal' gets' ∧ get ∈ gets' ∧
        get.stage = .waiting source flight.task joined) (path : Path) (flight : InFlight) :
    (cache.slot path).inFlight? ≠ some flight := by
  intro flying
  obtain ⟨_, _, get, source, joined, same, member, waiting⟩ := flights path flight flying
  cases same
  have there := List.mem_map_of_mem (f := Get.stage) member
  rw [done, waiting] at there
  obtain ⟨_, _, differ⟩ := List.mem_map.mp there
  cases differ

/-- When the entries are there, the call goes on with them. -/
private theorem Orderly.got
    (orderly : (engine.setCall id (.getting goal gets)).Orderly id (.getting goal gets))
    {results : List (Except String Entry)} (done : gets.map Get.stage = results.map Get.Stage.done)
    (sound : next.Sound)
    (calls : ∀ other, next.calls.get? other =
      if id = other then some call' else engine.calls.get? other)
    (published : next.published = engine.published) (registry : next.registry = engine.registry)
    (cache : next.cache = engine.cache) (fits : call'.Fits next) : next.Orderly id call' := by
  refine orderly.advance sound ?_ (registry ▸ orderly.distinct) ?_ ?_ fits
    (orderly.members.mono orderly.revision (by simp) published registry ?_ ?_)
  · intro other
    rw [calls, calls_setCall]
    split <;> rfl
  · rw [published, cache]
    exact orderly.revision
  · intro path flight flying
    rw [cache] at flying
    exact absurd flying (gone done orderly.flights path flight)
  · rw [cache]
    exact Nat.le_refl _
  · rw [cache]
    exact fun _ shown => shown

/-- A call that gets entries is in order, also once they are there. -/
theorem Orderly.withGets (sound : engine.Sound)
    (orderly : (engine.setCall id (.getting goal gets)).Orderly id (.getting goal gets))
    (none : gets = [] → ∃ before, goal = .all before) :
    ∃ call, (engine.withGets id goal gets).Orderly id call := by
  rcases engine.withGets_cases id goal gets with
    ⟨-, eq⟩ | ⟨⟨results, done⟩, reason, eq⟩ | ⟨entries, done, eq⟩ <;> rw [eq]
  · exact ⟨_, orderly⟩
  · exact ⟨_, orderly.got done (sound.finish id _) (fun _ => calls_finish ..) rfl rfl rfl trivial⟩
  · have done' : gets.map Get.stage = (entries.map Except.ok).map Get.Stage.done := by
      rw [done, List.map_map]
      rfl
    generalize after : engine.withEntries id entries goal = next
    cases after ▸ engine.withEntries_spec id entries goal with
    | rest kind =>
      obtain ⟨before, all⟩ := none (List.map_eq_nil_iff.mp done)
      exact absurd all (kind before)
    | publish _ =>
      exact ⟨_, orderly.got done' (sound.setCall id (by rintro _ _ ⟨⟩)) (fun _ => calls_setCall ..) rfl rfl rfl
        trivial⟩
    | plain =>
      exact ⟨_, orderly.got done' (sound.finish id _) (fun _ => calls_finish ..) rfl rfl rfl trivial⟩

variable {get : Get} {index : Nat}

/-- Nothing is on its way to the slot of a call that is still to read. -/
private theorem Orderly.alone (orderly : engine.Orderly id (.getting goal gets))
    (this : get ∈ gets) (reading : get.stage = .reading) :
    (engine.cache.slot get.identity.path).inFlight? = none := by
  have now := orderly.present (by simp)
  cases flying : (engine.cache.slot get.identity.path).inFlight? with
  | none => rfl
  | some flight =>
    obtain ⟨_, _, other, source, joined, same, member, waiting⟩ :=
      orderly.flights _ flight flying
    cases same
    obtain ⟨analysis, present, parts, _, _⟩ :=
      (orderly.sound.cache.slot _).flight flight flying
    obtain ⟨awaited, present', parts', _⟩ :=
      (orderly.sound.gets id goal gets now other member).waits _ _ _ waiting
    cases present.symm.trans present'
    have one := List.inj_on_of_nodup_map orderly.fits.1 member this (parts'.symm.trans parts)
    rw [one, reading] at waiting
    cases waiting

/-- What is on its way after a step is awaited by the call that takes it, or by the others. -/
private theorem Orderly.stepped_flights (orderly : engine.Orderly id (.getting goal gets))
    (this : gets[index]? = some get) {cache : Cache} {stage : Get.Stage} {reply : Reply}
    (step : Get.Transition engine.setup engine.cache get reply cache stage) (path : Path)
    (flight : InFlight) (flying : (cache.slot path).inFlight? = some flight) :
    ∃ other ∈ gets.set index { get with stage }, ∃ source joined,
      other.stage = .waiting source flight.task joined := by
  have inside := (List.getElem?_eq_some_iff.mp this).1
  have mine : ({ get with stage } : Get) ∈ gets.set index { get with stage } :=
    List.mem_set inside _
  cases step.slotChange path with
  | kept same =>
    rw [same] at flying
    obtain ⟨_, _, other, source, joined, same', member, waiting⟩ :=
      orderly.flights path flight flying
    cases same'
    obtain ⟨place, there⟩ := List.mem_iff_getElem?.mp member
    by_cases here : index = place
    · obtain rfl : get = other := Option.some.inj (this.symm.trans (here ▸ there))
      obtain ⟨analysis, present, _, _, opened⟩ :=
        (orderly.sound.cache.slot path).flight flight flying
      exact ⟨_, mine, source, joined, (step.waits waiting present opened).trans waiting⟩
    · refine ⟨other, List.mem_iff_getElem?.mpr ⟨place, ?_⟩, source, joined, waiting⟩
      rw [List.getElem?_set_ne here, there]
  | unreadable _ _ _ _ now => simp [now, Slot.unreadable] at flying
  | started _ _ _ _ now waits =>
    rw [now] at flying
    cases flying
    exact ⟨_, mine, _, _, waits⟩
  | recorded _ _ _ now _ => simp [now, Slot.recorded] at flying
  | landed _ _ _ now _ => simp [now, Slot.landed] at flying

private theorem paths_set {stage : Get.Stage} (this : gets[index]? = some get) :
    (gets.set index { get with stage }).map (fun get => get.identity.path.parts) =
      gets.map fun get => get.identity.path.parts := by
  obtain ⟨inside, rfl⟩ := List.getElem?_eq_some_iff.mp this
  rw [List.map_set, ← List.getElem_map (fun get : Get => get.identity.path.parts),
    List.set_getElem_self]
  simpa using inside

/-- A step of getting an entry keeps the engine in order, before it goes on with the entries. -/
theorem Orderly.step_gets (orderly : engine.Orderly id (.getting goal gets))
    (this : gets[index]? = some get) {cache : Cache} {stage : Get.Stage} {reply : Reply}
    (step : Get.Transition engine.setup engine.cache get reply cache stage) :
    (({ engine with cache } : Engine).setCall id
      (.getting goal (gets.set index { get with stage }))).Orderly id
        (.getting goal (gets.set index { get with stage })) := by
  have member := List.mem_of_getElem? this
  have each := orderly.sound.gets id goal gets (orderly.present (by simp))
  have grows := step.grows orderly.sound.cache
  have sound : Sound { engine with cache } :=
    orderly.sound.of_grows (step.sound orderly.sound.cache) grows rfl
  refine orderly.advance (sound.setCall id ?_) (fun _ => calls_setCall ..) orderly.distinct
    (Nat.le_trans orderly.revision grows.revision) ?_ ⟨?_, ?_⟩ ?_
  · intro _ _ same
    cases same
    exact gets_set_sound each grows (step.get_sound orderly.sound.cache (each get member))
  · intro path flight flying
    obtain ⟨other, there, source, joined, waiting⟩ :=
      orderly.stepped_flights this step path flight flying
    exact ⟨goal, _, other, source, joined, rfl, there, waiting⟩
  · rw [paths_set this]
    exact orderly.fits.1
  · intro other there
    rcases List.mem_or_eq_of_mem_set there with before | rfl
    · exact step.grounded orderly.sound.cache (orderly.fits.2 other before)
    · exact step.grounded_self orderly.sound.cache (orderly.fits.2 get member)
        (orderly.alone member)
  · exact orderly.members.mono orderly.revision (by simp) rfl rfl grows.revision
      fun path shown => step.shown shown

private theorem Orderly.step_get (orderly : engine.Orderly id (.getting goal gets))
    (this : gets[index]? = some get) (reply : Reply) :
    ∃ call, (({ engine with cache := (get.step engine.setup engine.cache reply).1 } : Engine).withGets
      id goal (gets.set index (get.step engine.setup engine.cache reply).2)).Orderly id call := by
  have step := get.step_transition engine.setup engine.cache reply
  rw [get.step_snd engine.setup engine.cache reply]
  refine Orderly.withGets (orderly.sound.of_grows (step.sound orderly.sound.cache)
    (step.grows orderly.sound.cache) rfl) (orderly.step_gets this step) fun none => ?_
  rw [List.set_eq_nil_iff] at none
  simp [none] at this

end

/-! ## Forgetting and publishing -/

/-- A slot that is forgotten takes what was published out of date, or there was none. -/
private theorem Orderly.forget {path : Path} {rest : List Path} {diff? : Option Diff}
    (orderly : engine.Orderly id (.forgetting (path :: rest) diff?)) :
    ((engine.changeCache (·.remove path)).setCall id (.forgetting rest diff?)).Orderly id
      (.forgetting rest diff?) := by
  have grows := Extends.remove engine.cache path
  have sound : (engine.changeCache (·.remove path)).Sound :=
    orderly.sound.of_grows (orderly.sound.cache.remove path) grows rfl
  refine orderly.advance (sound.setCall id (by rintro _ _ ⟨⟩)) (fun _ => calls_setCall ..) orderly.distinct
    (Nat.le_trans orderly.revision grows.revision) ?_ trivial ?_
  · intro other flight flying
    have there : (engine.cache.remove path).slot other =
        if path.parts = other.parts then {} else engine.cache.slot other := by
      simp only [Cache.slot, slot?_remove]
      split <;> rfl
    have landed := orderly.landed (by simp) other
    simp only [changeCache, cache_setCall, there] at flying
    split at flying
    · cases flying
    · cases landed.symm.trans flying
  · intro current
    have revision : engine.published.revision = (engine.cache.remove path).revision := current.2
    have bound := orderly.revision
    cases present : engine.cache.slot? path with
    | some slot =>
      simp only [Cache.remove, present] at revision
      omega
    | none =>
      have kept : engine.cache.remove path = engine.cache := by simp only [Cache.remove, present]
      rw [kept] at revision
      obtain ⟨shown, names, each, before⟩ := orderly.members ⟨current.1, revision⟩
      refine ⟨shown, names, by simpa only [changeCache, cache_setCall, kept] using each, ?_⟩
      rcases before with sublist | ⟨paths, _, same, identity, member, other, there, parts⟩
      · exact .inl sublist
      · cases same
        rcases List.mem_cons.mp there with rfl | later
        · have shows := each identity member
          rw [Shown, ← slot_congr engine.cache parts, Cache.slot, present] at shows
          cases shows
        · exact .inr ⟨rest, diff?, rfl, identity, member, other, later, parts⟩

/-- A snapshot takes the names of the components with an entry, one by one. -/
theorem collect_keys (cache : Cache) {shown : Table String SnapshotEntry} {identity : Identity}
    (new : identity.name ∉ shown.map Prod.fst) :
    (cache.collect shown identity).map Prod.fst =
      shown.map Prod.fst ++
        if (cache.slot identity.path).last?.isSome then [identity.name] else [] := by
  unfold Cache.collect
  cases present : cache.slot? identity.path with
  | none => simp [Cache.shown?, Cache.slot, present]
  | some slot =>
    rw [slot_eq cache present]
    cases last : slot.last? with
    | none => simp [Cache.shown?, present, last]
    | some entry =>
      have keys (shows : SnapshotEntry) := (Table.keys_set shown identity.name shows).trans (if_neg new)
      simp [Cache.shown?, present, last, keys]

private theorem Orderly.collect {pending : Pending} {revision : Nat} {identity : Identity}
    {rest : List Identity} {shown : Table String SnapshotEntry}
    (orderly : engine.Orderly id
      (.publishing pending (.collecting revision (identity :: rest) shown))) :
    (engine.setCall id (.publishing pending
      (.collecting revision rest (engine.cache.collect shown identity)))).Orderly id
        (.publishing pending (.collecting revision rest (engine.cache.collect shown identity))) := by
  refine orderly.moves (by simp) (by simp) (orderly.sound.setCall id (by rintro _ _ ⟨⟩))
    (fun _ => calls_setCall ..) rfl rfl rfl rfl ?_
  obtain ⟨same, done, list, keys⟩ := orderly.fits
  refine ⟨same, done ++ [identity], by rw [List.append_assoc]; exact list, ?_⟩
  have names := orderly.distinct.names
  rw [list, List.map_append, List.map_cons, List.nodup_append] at names
  have new : identity.name ∉ shown.map Prod.fst := by
    rw [keys]
    intro member
    obtain ⟨other, there, same⟩ := List.mem_map.mp member
    exact names.2.2 _ (List.mem_map_of_mem (List.mem_filter.mp there).1) _ List.mem_cons_self same
  rw [collect_keys engine.cache new, keys, List.filter_append, List.map_append]
  congr 1
  simp only [List.filter_cons, List.filter_nil, cache_setCall]
  split <;> rfl

/-- A snapshot that is taken shows the registered components with an entry. -/
private theorem Orderly.publish {pending : Pending} {revision : Nat} {artifacts : List Artifact}
    {shown : Table String SnapshotEntry}
    (orderly : engine.Orderly id (.publishing pending (.collecting revision [] shown))) :
    ({ engine with
        cache := { engine.cache with generation := engine.cache.generation + 1 }
        published := ⟨engine.cache.generation + 1, revision, shown⟩ }.setCall id
      (.publishing pending (.writing ⟨engine.cache.generation + 1, revision, shown⟩
        artifacts))).Orderly id
      (.publishing pending (.writing ⟨engine.cache.generation + 1, revision, shown⟩ artifacts)) := by
  obtain ⟨same, done, list, keys⟩ := orderly.fits
  rw [List.append_nil] at list
  have sound : Sound { engine with
      cache := { engine.cache with generation := engine.cache.generation + 1 }
      published := ⟨engine.cache.generation + 1, revision, shown⟩ } :=
    orderly.sound.of_same rfl rfl rfl rfl rfl
  refine orderly.advance (sound.setCall id (by rintro _ _ ⟨⟩)) (fun _ => calls_setCall ..) orderly.distinct
    (Nat.le_of_eq same) ?_ trivial ?_
  · intro path flight flying
    have there : (engine.cache.slot path).inFlight? = some flight := flying
    cases (orderly.landed (by simp) path).symm.trans there
  · intro _
    refine ⟨done.filter fun identity => (engine.cache.slot identity.path).last?.isSome, keys, ?_,
      .inl ?_⟩
    · exact fun identity member => (List.mem_filter.mp member).2
    · rw [registry_setCall, list]
      exact List.filter_sublist

/-- A call that is going on is the one in progress. -/
theorem Orderly.current (orderly : engine.Orderly id call) {other : Nat} {found : Call}
    (now : engine.calls.get? other = some found) (going : ∀ result, found ≠ .finished result) :
    other = id ∧ found = call := by
  rcases orderly.calls other found now with here | ⟨result, ended⟩
  · exact here
  · exact absurd ended (going result)

private theorem Orderly.setCall (orderly : engine.Orderly id call) {other : Nat} {found : Call}
    (now : engine.calls.get? other = some found) (going : ∀ result, found ≠ .finished result)
    (notGetting : ∀ goal gets, found ≠ .getting goal gets)
    (notForgetting : ∀ path rest diff?, found ≠ .forgetting (path :: rest) diff?)
    (sound : (engine.setCall other call').Sound) (fits : call'.Fits (engine.setCall other call')) :
    ∃ call, (engine.setCall other call').Orderly id call := by
  obtain ⟨rfl, rfl⟩ := orderly.current now going
  exact ⟨_, orderly.moves notGetting notForgetting sound (fun _ => calls_setCall ..) rfl rfl rfl rfl
    fits⟩

private theorem Orderly.finish (orderly : engine.Orderly id call) {other : Nat} {found : Call}
    (now : engine.calls.get? other = some found) (going : ∀ result, found ≠ .finished result)
    (notGetting : ∀ goal gets, found ≠ .getting goal gets)
    (notForgetting : ∀ path rest diff?, found ≠ .forgetting (path :: rest) diff?)
    {result : Except Fault Answer} (sound : (engine.finish other result).Sound) :
    ∃ call, (engine.finish other result).Orderly id call := by
  obtain ⟨rfl, rfl⟩ := orderly.current now going
  exact ⟨_, orderly.moves notGetting notForgetting sound (fun _ => calls_finish ..) rfl rfl rfl rfl
    trivial⟩

private theorem Orderly.deliver (orderly : engine.Orderly id call) {other : Nat}
    {pending : Pending} {publication : Publication}
    (now : engine.calls.get? other = some (.publishing pending publication)) (snapshot : Snapshot) :
    ∃ call, (engine.deliver other pending snapshot).Orderly id call := by
  obtain ⟨rfl, rfl⟩ := orderly.current now (by simp)
  have sound := orderly.sound.deliver other pending snapshot
  rw [deliver_eq] at sound ⊢
  exact ⟨_, orderly.moves (by simp) (by simp) sound (fun _ => calls_finish ..) rfl rfl rfl rfl trivial⟩

/-- A step of any call keeps the engine in order. -/
theorem Orderly.step (orderly : engine.Orderly id call) (other index : Nat) (reply : Reply) :
    ∃ call, (engine.step other index reply).Orderly id call := by
  have sound := orderly.sound.step other index reply
  have spec := engine.step_spec other index reply
  generalize engine.step other index reply = next at sound spec
  cases spec with
  | rest => exact ⟨call, orderly⟩
  | get now this =>
    obtain ⟨rfl, rfl⟩ := orderly.current now (by simp)
    exact orderly.step_get this reply
  | forget now =>
    obtain ⟨rfl, rfl⟩ := orderly.current now (by simp)
    exact ⟨_, orderly.forget⟩
  | turn now _ _ =>
    obtain ⟨rfl, rfl⟩ := orderly.current now (by simp)
    exact ⟨_, orderly.moves (by simp) (by simp) sound (fun _ => calls_setCall ..) rfl rfl rfl rfl
      ⟨rfl, [], rfl, rfl⟩⟩
  | collect now =>
    obtain ⟨rfl, rfl⟩ := orderly.current now (by simp)
    exact ⟨_, orderly.collect⟩
  | publish now =>
    obtain ⟨rfl, rfl⟩ := orderly.current now (by simp)
    exact ⟨_, orderly.publish⟩
  | forgotten now => exact orderly.setCall now (by simp) (by simp) (by simp) sound trivial
  | write now _ => exact orderly.setCall now (by simp) (by simp) (by simp) sound trivial
  | written now _ => exact orderly.setCall now (by simp) (by simp) (by simp) sound trivial
  | stubMissing now _ => exact orderly.setCall now (by simp) (by simp) (by simp) sound trivial
  | stubWrite now _ => exact orderly.setCall now (by simp) (by simp) (by simp) sound trivial
  | reuse now _ _ => exact orderly.deliver now _
  | deliver now => exact orderly.deliver now _
  | removed now => exact orderly.finish now (by simp) (by simp) (by simp) sound
  | failed now _ => exact orderly.finish now (by simp) (by simp) (by simp) sound
  | stubThere now _ => exact orderly.finish now (by simp) (by simp) (by simp) sound
  | stubWritten now _ => exact orderly.finish now (by simp) (by simp) (by simp) sound
  | stubFailed now _ => exact orderly.finish now (by simp) (by simp) (by simp) sound

end Engine

end ComponentCatalog
