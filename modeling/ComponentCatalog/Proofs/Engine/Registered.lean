import ComponentCatalog.Proofs.Engine.Current
import ComponentCatalog.Proofs.Engine.Snapshot

/-! # What is published is registered

A discovery takes components away at once, and what it took away is still published then. But it
forgets their slots, by which a snapshot that shows them goes out of date, and it ends only behind one
that is up to date. Other calls may begin to publish before a discovery and end behind it. So the
published snapshot shows registered components alone, each as it is registered, as soon as no discovery
has yet to publish, whatever was invalidated, forgotten or analyzed in between.
-/

namespace ComponentCatalog

open Component

namespace Cache

/-- What a snapshot shows that it did not show before is the component that it came by. -/
theorem eq_of_mem_collect {cache : Cache} {before : Table String SnapshotEntry} {identity : Identity}
    {item : String × SnapshotEntry} (member : item ∈ cache.collect before identity) :
    item ∈ before ∨
      item.1 = identity.name ∧ item.2.identity = identity ∧ cache.Shown identity.path := by
  unfold collect at member
  split at member
  · next entry shows =>
    rcases Table.mem_of_mem_set member with rfl | earlier
    · exact .inr ⟨rfl, (shown?_eq_some shows).1, shown?_isSome_iff.mp (by simp [shows])⟩
    · exact .inl earlier
  · exact .inl member

end Cache

namespace Engine

open Cache

/-! ## Discoveries -/

/-- A discovery that has yet to begin to publish. -/
def Call.Registers : Call → Prop
  | .forgetting _ (some _) | .publishing (.diff _) .waiting => True
  | _ => False

/-- A discovery that has yet to publish. -/
def Call.Discovers : Call → Prop
  | .forgetting _ (some _) | .publishing (.diff _) .waiting
  | .publishing (.diff _) (.collecting ..) => True
  | _ => False

/-- A call that takes a snapshot. -/
def Call.Takes : Call → Prop
  | .publishing _ (.collecting ..) => True
  | _ => False

/-- A discovery that is about to forget the component at a path. -/
def Call.Forgets (gone : Path) : Call → Prop
  | .forgetting rest (some _) => ∃ path ∈ rest, path.parts = gone.parts
  | _ => False

/-- No discovery that has yet to publish is dropped, or gives way to another call: what it took away
would stay published. -/
def Uncut (engine : Engine) : Event → Prop
  | .start id _ | .drop id => ∀ call, engine.calls.get? id = some call → ¬ call.Discovers
  | _ => True

/-- What calls make of a new engine, side by side and in any order, as long as every discovery goes on
until it publishes. -/
def Heeded (engine : Engine) : Prop :=
  ∃ created events, Created created ∧ Follows act Uncut created events ∧ created.run events = engine

/-- Some call is as far as that. -/
def Has (engine : Engine) (phase : Call → Prop) : Prop :=
  ∃ id call, engine.calls.get? id = some call ∧ phase call

/-- A component is registered, or is about to be forgotten. -/
def Knows (engine : Engine) (identity : Identity) : Prop :=
  identity ∈ engine.registry.list ∨ engine.Has (Call.Forgets identity.path)

variable {engine next : Engine} {id : Nat} {call : Call} {call? : Option Call}
  {phase : Call → Prop}

theorem Call.Registers.discovers (registers : call.Registers) : call.Discovers := by
  cases call with
  | forgetting _ diff? =>
    cases diff? with
    | none => cases registers
    | some _ => trivial
  | publishing pending publication =>
    cases pending with
    | diff _ => cases publication <;> trivial
    | _ => cases registers
  | _ => cases registers

theorem Call.Forgets.registers {gone : Path} (forgets : call.Forgets gone) : call.Registers := by
  cases call with
  | forgetting _ diff? =>
    cases diff? with
    | none => cases forgets
    | some _ => trivial
  | _ => cases forgets

theorem Has.mono {further : Call → Prop} (has : engine.Has phase)
    (weakens : ∀ call, phase call → further call) : engine.Has further := by
  obtain ⟨place, call, now, far⟩ := has
  exact ⟨place, call, now, weakens call far⟩

/-- What holds of a call goes on to hold of it, or of another one, if the call that moves goes on. -/
theorem Has.moved (has : engine.Has phase)
    (calls : ∀ place, next.calls.get? place =
      if id = place then call? else engine.calls.get? place)
    (goes : ∀ call, engine.calls.get? id = some call → phase call →
      ∃ call', call? = some call' ∧ phase call') : next.Has phase := by
  obtain ⟨place, call, now, far⟩ := has
  by_cases here : id = place
  · obtain ⟨call', same, far'⟩ := goes call (here ▸ now) far
    exact ⟨place, call', by rw [calls, if_pos here, same], far'⟩
  · exact ⟨place, call, by rw [calls, if_neg here, now], far⟩

theorem Idle.not_has (idle : engine.Idle) (goes : ∀ result, ¬ phase (.finished result)) :
    ¬ engine.Has phase := by
  rintro ⟨place, call, now, far⟩
  obtain ⟨result, rfl⟩ := idle place call now
  exact goes result far

/-! ## What snapshots show -/

/-- What a snapshot shows is registered, and so is what it has yet to come by, unless there is a call
in some phase. While it is up to date, a component of these that has an entry at all is registered
or about to be forgotten. -/
structure Pictures (engine : Engine) (phase : Call → Prop) (revision : Nat) (rest : List Identity)
    (shown : Table String SnapshotEntry) : Prop where
  named : ∀ item ∈ shown, item.1 = item.2.identity.name
  settled : engine.Has phase ∨
    (∀ item ∈ shown, item.2.identity ∈ engine.registry.list) ∧
    ∀ identity ∈ rest, identity ∈ engine.registry.list
  current : revision = engine.cache.revision →
    (∀ item ∈ shown, engine.cache.Shown item.2.identity.path ∧ engine.Knows item.2.identity) ∧
    ∀ identity ∈ rest, engine.cache.Shown identity.path → engine.Knows identity

variable {revision : Nat} {identity : Identity} {rest : List Identity}
  {shown : Table String SnapshotEntry} {pending : Pending}

/-- A snapshot sets out to show registered components. -/
private theorem Pictures.begin (engine : Engine) (phase : Call → Prop) (revision : Nat)
    (listed : ∀ identity ∈ rest, identity ∈ engine.registry.list) :
    engine.Pictures phase revision rest [] :=
  ⟨List.forall_mem_nil _, .inr ⟨List.forall_mem_nil _, listed⟩,
    fun _ => ⟨List.forall_mem_nil _, fun _ member _ => .inl (listed _ member)⟩⟩

/-- The snapshot comes by a component. -/
private theorem Pictures.collect (pictures : engine.Pictures phase revision (identity :: rest) shown) :
    engine.Pictures phase revision rest (engine.cache.collect shown identity) where
  named := by
    intro item member
    rcases eq_of_mem_collect member with before | ⟨name, rfl, -⟩
    · exact pictures.named item before
    · exact name
  settled := by
    refine pictures.settled.imp_right fun ⟨listed, left⟩ => ⟨fun item member => ?_, fun other later =>
      left other (List.mem_cons_of_mem _ later)⟩
    rcases eq_of_mem_collect member with before | ⟨-, rfl, -⟩
    · exact listed item before
    · exact left _ List.mem_cons_self
  current := by
    intro current
    obtain ⟨known, left⟩ := pictures.current current
    refine ⟨fun item member => ?_, fun other later => left other (List.mem_cons_of_mem _ later)⟩
    rcases eq_of_mem_collect member with before | ⟨-, rfl, shows⟩
    · exact known item before
    · exact ⟨shows, left _ List.mem_cons_self shows⟩

/-- Behind a change the discoveries are still there, and what they know of. Components are taken out
of the registry by a discovery only, and while the revision stays, none is forgotten that has an
entry. -/
structure Upholds (engine next : Engine) : Prop where
  discovers : engine.Has Call.Discovers → next.Has Call.Discovers
  registers : engine.Has Call.Registers → next.Has Call.Registers
  listed : next.Has Call.Registers ∨ ∀ identity ∈ engine.registry.list, identity ∈ next.registry.list
  knows : next.cache.revision = engine.cache.revision → ∀ identity,
    engine.cache.Shown identity.path → engine.Knows identity → next.Knows identity

private theorem Pictures.moved (pictures : engine.Pictures phase revision rest shown)
    (sound : engine.cache.Sound) (bound : revision ≤ engine.cache.revision)
    (change : engine.cache.Change next.cache) (has : engine.Has phase → next.Has phase)
    (listed : next.Has phase ∨ ∀ identity ∈ engine.registry.list, identity ∈ next.registry.list)
    (knows : next.cache.revision = engine.cache.revision → ∀ identity,
      engine.cache.Shown identity.path → engine.Knows identity → next.Knows identity) :
    next.Pictures phase revision rest shown where
  named := pictures.named
  settled := by
    rcases pictures.settled with going | ⟨each, left⟩
    · exact .inl (has going)
    · exact listed.imp_right fun stays => ⟨fun item member => stays _ (each item member),
        fun identity member => stays identity (left identity member)⟩
  current := by
    intro current
    have same : next.cache.revision = engine.cache.revision :=
      Nat.le_antisymm (current ▸ bound) (change.revision_le sound)
    obtain ⟨each, left⟩ := pictures.current (current.trans same)
    refine ⟨fun item member => ?_, fun identity member there => ?_⟩
    · obtain ⟨shows, known⟩ := each item member
      exact ⟨(change.shown_iff same _).mpr shows, knows same _ shows known⟩
    · have shows := (change.shown_iff same _).mp there
      exact knows same identity shows (left identity member shows)

/-- What is published is registered unless a discovery has yet to publish, and so is what another
snapshot is going to show unless a discovery has yet to begin. -/
structure Attests (engine : Engine) : Prop where
  numbered : engine.Numbered
  published :
    engine.Pictures Call.Discovers engine.published.revision [] engine.published.components
  collecting : ∀ id pending revision rest shown,
    engine.calls.get? id = some (.publishing pending (.collecting revision rest shown)) →
      engine.Pictures Call.Registers revision rest shown

/-- Nothing is published, and every snapshot being taken was so before, or pictured by now. -/
private theorem Attests.moved (attests : engine.Attests) (numbered : next.Numbered)
    (change : engine.cache.Change next.cache) (published : next.published = engine.published)
    (upholds : engine.Upholds next)
    (taking : ∀ id pending revision rest shown,
      next.calls.get? id = some (.publishing pending (.collecting revision rest shown)) →
        engine.Pictures Call.Registers revision rest shown ∧ revision ≤ engine.cache.revision) :
    next.Attests where
  numbered := numbered
  published := by
    rw [published]
    exact attests.published.moved attests.numbered.sound.cache attests.numbered.published change
      upholds.discovers (upholds.listed.imp_left (·.mono fun _ => Call.Registers.discovers))
      upholds.knows
  collecting := by
    intro id pending revision rest shown now
    obtain ⟨pictures, bound⟩ := taking id pending revision rest shown now
    exact pictures.moved attests.numbered.sound.cache bound change upholds.registers upholds.listed
      upholds.knows

/-- A snapshot that is being taken pictures what is registered, and is not ahead of the cache. -/
private theorem Attests.taking (attests : engine.Attests)
    (now : engine.calls.get? id = some (.publishing pending (.collecting revision rest shown))) :
    engine.Pictures Call.Registers revision rest shown ∧ revision ≤ engine.cache.revision :=
  ⟨attests.collecting _ _ _ _ _ now, (attests.numbered.collecting _ _ _ _ _ now).2⟩

private theorem Attests.taking_of_moved (attests : engine.Attests)
    (calls : ∀ place, next.calls.get? place =
      if id = place then call? else engine.calls.get? place)
    (mine : ∀ pending revision rest shown,
      call? = some (.publishing pending (.collecting revision rest shown)) →
        engine.Pictures Call.Registers revision rest shown ∧ revision ≤ engine.cache.revision)
    (place : Nat) (pending : Pending) (revision : Nat) (rest : List Identity)
    (shown : Table String SnapshotEntry)
    (now : next.calls.get? place = some (.publishing pending (.collecting revision rest shown))) :
    engine.Pictures Call.Registers revision rest shown ∧ revision ≤ engine.cache.revision := by
  rw [calls] at now
  split at now
  · exact mine pending revision rest shown now
  · exact attests.taking now

/-- While one call has its turn to publish, no other one takes a snapshot. -/
private theorem Attests.alone (attests : engine.Attests) {other : Nat}
    (now : engine.calls.get? id = some call) (publishes : call.Publishes) (another : id ≠ other) :
    engine.calls.get? other ≠ some (.publishing pending (.collecting revision rest shown)) :=
  fun there => another (attests.numbered.locked.unique now publishes there trivial)

/-- While no call has its turn, none takes a snapshot. -/
private theorem Attests.none_collects (attests : engine.Attests) (free : engine.publisher? = none) :
    engine.calls.get? id ≠ some (.publishing pending (.collecting revision rest shown)) := by
  intro now
  cases free.symm.trans (attests.numbered.locked.publisher id _ now trivial)

/-! ## Calls that move on -/

/-- A call moves on, is made or is dropped, and the registry stays. -/
structure Passes (engine next : Engine) (id : Nat) (call? : Option Call) : Prop where
  calls : ∀ place, next.calls.get? place =
    if id = place then call? else engine.calls.get? place
  registry : next.registry = engine.registry

/-- Components that are known stay so while another call than one that forgets them moves on. -/
private theorem Knows.moved (knows : engine.Knows identity) (passes : engine.Passes next id call?)
    (goes : ∀ call gone, engine.calls.get? id = some call → call.Forgets gone →
      ∃ call', call? = some call' ∧ call'.Forgets gone) : next.Knows identity := by
  refine knows.imp (fun member => ?_) fun has => has.moved passes.calls fun call => goes call _
  rwa [passes.registry]

/-- A call other than a discovery moves on, or none. -/
private theorem Upholds.quiet (passes : engine.Passes next id call?)
    (goes : call? = engine.calls.get? id ∨
      ∀ call, engine.calls.get? id = some call → ¬ call.Discovers) : engine.Upholds next := by
  have stays {phase : Call → Prop} (further : ∀ call, phase call → call.Discovers) (call : Call)
      (now : engine.calls.get? id = some call) (far : phase call) :
      ∃ call', call? = some call' ∧ phase call' := by
    rcases goes with same | free
    · exact ⟨call, same.trans now, far⟩
    · exact absurd (further call far) (free call now)
  refine ⟨fun has => has.moved passes.calls (stays fun _ => fun far => far),
    fun has => has.moved passes.calls (stays fun _ => Call.Registers.discovers), .inr ?_, ?_⟩
  · rw [passes.registry]
    exact fun _ member => member
  · exact fun _ identity _ known => known.moved passes fun call gone =>
      stays (fun _ forgets => forgets.registers.discovers) call

private theorem Attests.quiet (attests : engine.Attests) (numbered : next.Numbered)
    (change : engine.cache.Change next.cache) (published : next.published = engine.published)
    {call' : Call} (now : engine.calls.get? id = some call) (was : ¬ call.Discovers)
    (passes : engine.Passes next id (some call')) (calm : ¬ call'.Takes) : next.Attests := by
  have free : ∀ found, engine.calls.get? id = some found → ¬ found.Discovers :=
    fun _ there => Option.some.inj (now.symm.trans there) ▸ was
  refine attests.moved numbered change published (.quiet passes (.inr free))
    (attests.taking_of_moved passes.calls ?_)
  rintro _ _ _ _ ⟨⟩
  exact absurd trivial calm

private theorem Attests.step_get (attests : engine.Attests) {goal : Goal} {gets gets' : List Get}
    {cache : Cache} (now : engine.calls.get? id = some (.getting goal gets))
    (numbered : (({ engine with cache } : Engine).withGets id goal gets').Numbered)
    (change : engine.cache.Change (({ engine with cache } : Engine).withGets id goal gets').cache) :
    (({ engine with cache } : Engine).withGets id goal gets').Attests := by
  obtain ⟨call?, moved, after⟩ := Calmly.withGets ({ engine with cache } : Engine) id goal gets'
  obtain ⟨behind, rfl, calm⟩ : ∃ behind, call? = some behind ∧ behind.Calm := by
    rcases after with same | ⟨behind, rfl, calm, -⟩
    · exact ⟨_, same.trans now, trivial⟩
    · exact ⟨behind, rfl, calm⟩
  refine attests.quiet numbered change moved.published now (fun far => far)
    ⟨moved.calls, registry_withGets ..⟩ fun takes => ?_
  cases behind with
  | publishing _ publication =>
    cases publication with
    | collecting _ _ _ => cases calm
    | _ => cases takes
  | _ => cases takes

/-- A call forgets a component: by its slot a snapshot that shows it goes out of date, and without a
slot it is not shown. -/
private theorem Upholds.forget {path : Path} {paths : List Path} {diff? : Option Diff}
    (now : engine.calls.get? id = some (.forgetting (path :: paths) diff?)) :
    engine.Upholds
      ((engine.changeCache (·.remove path)).setCall id (.forgetting paths diff?)) := by
  have stays {phase : Call → Prop} (goes : phase (.forgetting (path :: paths) diff?) →
      phase (.forgetting paths diff?)) (call : Call) (there : engine.calls.get? id = some call)
      (far : phase call) :
      ∃ call', some (.forgetting paths diff?) = some call' ∧ phase call' := by
    cases now.symm.trans there
    exact ⟨_, rfl, goes far⟩
  refine ⟨fun has => has.moved (fun _ => calls_setCall ..) (stays ?_),
    fun has => has.moved (fun _ => calls_setCall ..) (stays ?_), .inr fun _ member => member, ?_⟩
  · cases diff? <;> exact fun far => far
  · cases diff? <;> exact fun far => far
  · intro same identity shows known
    have absent : engine.cache.slot? path = none := by
      cases present : engine.cache.slot? path with
      | none => rfl
      | some slot =>
        simp only [changeCache, cache_setCall, Cache.remove, present] at same
        exact absurd same (Nat.succ_ne_self _)
    refine known.imp_right fun has => has.moved (fun _ => calls_setCall ..) (stays ?_)
    cases diff? with
    | none => exact fun far => far
    | some diff =>
      rintro ⟨other, member, parts⟩
      rcases List.mem_cons.mp member with rfl | later
      · rw [Shown, ← slot_congr engine.cache parts, Cache.slot, absent] at shows
        cases shows
      · exact ⟨other, later, parts⟩

/-- A discovery that forgot what it took away goes on to publish. -/
private theorem Upholds.forgotten {diff : Diff}
    (now : engine.calls.get? id = some (.forgetting [] (some diff))) :
    engine.Upholds (engine.setCall id (.publishing (.diff diff) .waiting)) where
  discovers has := has.moved (fun _ => calls_setCall ..) fun _ _ _ => ⟨_, rfl, trivial⟩
  registers has := has.moved (fun _ => calls_setCall ..) fun _ _ _ => ⟨_, rfl, trivial⟩
  listed := .inr fun _ member => member
  knows := by
    refine fun _ identity _ known => known.moved ⟨fun _ => calls_setCall .., rfl⟩ ?_
    rintro call gone there forgets
    cases now.symm.trans there
    obtain ⟨_, ⟨⟩, -⟩ := forgets

/-- A call that publishes forgets nothing. -/
private theorem Knows.publishing (knows : engine.Knows identity) {publication : Publication}
    (passes : engine.Passes next id call?)
    (now : engine.calls.get? id = some (.publishing pending publication)) : next.Knows identity := by
  refine knows.moved passes fun call gone there forgets => ?_
  cases now.symm.trans there
  cases forgets

/-- A call that takes a snapshot is a discovery that has yet to publish, if it is a discovery. -/
private theorem goes_collecting {publication : Publication}
    (now : engine.calls.get? id = some (.publishing pending publication)) (call : Call)
    (there : engine.calls.get? id = some call) (far : call.Discovers) :
    ∃ call', some (Call.publishing pending (.collecting revision rest shown)) = some call' ∧
      call'.Discovers := by
  refine ⟨_, rfl, ?_⟩
  cases now.symm.trans there
  cases pending with
  | diff _ => trivial
  | _ => cases publication <;> cases far

/-- A call that takes a snapshot does not stand before its publication. -/
private theorem Has.collecting {identities : List Identity}
    (has : engine.Has Call.Registers)
    (now : engine.calls.get? id = some (.publishing pending (.collecting revision identities shown)))
    (calls : ∀ place, next.calls.get? place =
      if id = place then call? else engine.calls.get? place) : next.Has Call.Registers := by
  refine has.moved calls fun call there far => ?_
  cases now.symm.trans there
  cases pending <;> cases far

/-- A call has its turn to publish, and sets out to show what is registered. -/
private theorem Attests.turn (attests : engine.Attests) (free : engine.publisher? = none)
    (now : engine.calls.get? id = some (.publishing pending .waiting)) (numbered : next.Numbered)
    (change : engine.cache.Change next.cache)
    (passes : engine.Passes next id (some (.publishing pending
      (.collecting engine.cache.revision engine.registry.list []))))
    (published : next.published = engine.published) : next.Attests where
  numbered := numbered
  published := by
    rw [published]
    refine attests.published.moved attests.numbered.sound.cache attests.numbered.published change
      (fun has => has.moved passes.calls (goes_collecting now)) (.inr ?_)
      fun _ _ _ known => known.publishing passes now
    rw [passes.registry]
    exact fun _ member => member
  collecting := by
    intro place pending' revision rest shown there
    rw [passes.calls] at there
    split at there
    · cases there
      rw [← passes.registry]
      exact .begin next _ _ fun _ member => member
    · exact absurd there (attests.none_collects free)

private theorem Upholds.collect
    (now : engine.calls.get? id =
      some (.publishing pending (.collecting revision (identity :: rest) shown))) :
    engine.Upholds (engine.setCall id
      (.publishing pending (.collecting revision rest (engine.cache.collect shown identity)))) where
  discovers has := has.moved (fun _ => calls_setCall ..) (goes_collecting now)
  registers has := has.collecting now fun _ => calls_setCall ..
  listed := .inr fun _ member => member
  knows _ _ _ known := known.publishing ⟨fun _ => calls_setCall .., rfl⟩ now

/-- A snapshot is published that was pictured. -/
private theorem Attests.publish (attests : engine.Attests)
    (now : engine.calls.get? id = some (.publishing pending (.collecting revision [] shown)))
    (numbered : next.Numbered) (change : engine.cache.Change next.cache) {snapshot : Snapshot}
    {artifacts : List Artifact}
    (passes : engine.Passes next id (some (.publishing pending (.writing snapshot artifacts))))
    (revised : next.published.revision = revision) (shows : next.published.components = shown) :
    next.Attests where
  numbered := numbered
  published := by
    rw [revised, shows]
    obtain ⟨pictures, bound⟩ := attests.taking now
    have further : next.Pictures Call.Registers revision [] shown := by
      refine pictures.moved attests.numbered.sound.cache bound change
        (fun has => has.collecting now passes.calls) (.inr ?_)
        fun _ _ _ known => known.publishing passes now
      rw [passes.registry]
      exact fun _ member => member
    exact ⟨further.named,
      further.settled.imp_left fun has => has.mono fun _ => Call.Registers.discovers,
      further.current⟩
  collecting := by
    intro place pending' revision' rest shown' there
    rw [passes.calls] at there
    split at there
    · cases there
    · next another => exact absurd there (attests.alone now trivial another)

/-- The published snapshot is up to date when a call takes it again. What it shows that is not
registered is about to be forgotten, by a discovery that has yet to publish. -/
private theorem Attests.reuse (attests : engine.Attests) (free : engine.publisher? = none)
    (now : engine.calls.get? id = some (.publishing pending .waiting)) (current : engine.UpToDate)
    (numbered : next.Numbered) (change : engine.cache.Change next.cache)
    {result : Except Fault Answer} (passes : engine.Passes next id (some (.finished result)))
    (published : next.published = engine.published)
    (same : next.cache.revision = engine.cache.revision) : next.Attests where
  numbered := numbered
  published := by
    rw [published]
    have known : ∀ item ∈ engine.published.components,
        next.cache.Shown item.2.identity.path ∧ next.Knows item.2.identity := by
      intro item member
      obtain ⟨shows, known⟩ := (attests.published.current current.2).1 item member
      exact ⟨(change.shown_iff same _).mpr shows, known.publishing passes now⟩
    refine ⟨attests.published.named, ?_, fun _ => ⟨known, List.forall_mem_nil _⟩⟩
    by_cases discovers : next.Has Call.Discovers
    · exact .inl discovers
    · refine .inr ⟨fun item member => (known item member).2.resolve_right fun has => ?_,
        List.forall_mem_nil _⟩
      exact discovers (has.mono fun _ forgets => forgets.registers.discovers)
  collecting := by
    intro place pending' revision rest shown there
    rw [passes.calls] at there
    split at there
    · cases there
    · exact absurd there (attests.none_collects free)

/-- A discovery that writes files has published. -/
private theorem not_discovers_writing {snapshot : Snapshot} {artifacts : List Artifact} :
    ¬ (Call.publishing pending (.writing snapshot artifacts)).Discovers := by
  cases pending <;> exact fun far => far

/-- A step of any call preserves it. -/
private theorem Attests.step (attests : engine.Attests) (id index : Nat) (reply : Reply) :
    (engine.step id index reply).Attests := by
  have numbered : (engine.step id index reply).Numbered :=
    attests.numbered.act (.step id index reply)
  have change : engine.cache.Change (engine.step id index reply).cache :=
    engine.act_change (.step id index reply)
  have spec := engine.step_spec id index reply
  generalize engine.step id index reply = next at numbered change spec
  cases spec with
  | rest => exact attests
  | get now _ => exact attests.step_get now numbered change
  | forget now =>
    exact attests.moved numbered change rfl (.forget now)
      (attests.taking_of_moved (fun _ => calls_setCall ..) (by rintro _ _ _ _ ⟨⟩))
  | forgotten now =>
    exact attests.moved numbered change rfl (.forgotten now)
      (attests.taking_of_moved (fun _ => calls_setCall ..) (by rintro _ _ _ _ ⟨⟩))
  | reuse now free current =>
    rw [deliver_eq] at numbered change ⊢
    exact attests.reuse free now current numbered change ⟨fun _ => calls_finish .., rfl⟩ rfl rfl
  | turn now free _ =>
    exact attests.turn free now numbered change ⟨fun _ => calls_setCall .., rfl⟩ rfl
  | collect now =>
    refine attests.moved numbered change rfl (.collect now)
      (attests.taking_of_moved (fun _ => calls_setCall ..) ?_)
    rintro _ _ _ _ ⟨⟩
    exact ⟨(attests.taking now).1.collect, (attests.taking now).2⟩
  | publish now =>
    exact attests.publish now numbered change ⟨fun _ => calls_setCall .., rfl⟩ rfl rfl
  | deliver now =>
    rw [deliver_eq] at numbered change ⊢
    exact attests.quiet numbered change rfl now not_discovers_writing
      ⟨fun _ => calls_finish .., rfl⟩ fun takes => takes
  | write now _ | written now _ =>
    exact attests.quiet numbered change rfl now not_discovers_writing
      ⟨fun _ => calls_setCall .., rfl⟩ fun takes => takes
  | failed now _ =>
    exact attests.quiet numbered change rfl now not_discovers_writing
      ⟨fun _ => calls_finish .., rfl⟩ fun takes => takes
  | stubMissing now _ | stubWrite now _ =>
    exact attests.quiet numbered change rfl now (fun far => far)
      ⟨fun _ => calls_setCall .., rfl⟩ fun takes => takes
  | removed now | stubThere now _ | stubWritten now _ | stubFailed now _ =>
    exact attests.quiet numbered change rfl now (fun far => far)
      ⟨fun _ => calls_finish .., rfl⟩ fun takes => takes

/-! ## Other events -/

/-- A discovery begins, which is about to forget what it took out of the registry. -/
private theorem Upholds.sync (descriptors : List Descriptor)
    (free : ∀ call, engine.calls.get? id = some call → ¬ call.Discovers) :
    engine.Upholds (engine.start id (.sync descriptors)) := by
  have stays (identity : Identity) (known : identity ∈ engine.registry.list) :=
    Registry.mem_register_or_removed known descriptors
  simp only [Engine.start, foldl_tell, withDiff]
  split
  · next empty =>
    have removed : (engine.registry.register descriptors).2.1.removed = [] :=
      List.isEmpty_iff.mp ((Bool.and_eq_true _ _).mp empty).2
    have listed (identity : Identity) (known : identity ∈ engine.registry.list) :
        identity ∈ (engine.registry.register descriptors).1.list :=
      (stays identity known).resolve_right (by simp [removed])
    refine ⟨fun has => has.moved (fun _ => calls_finish ..) fun call now far =>
        absurd far (free call now),
      fun has => has.moved (fun _ => calls_finish ..) fun call now far =>
        absurd far.discovers (free call now), .inr listed, fun _ identity _ known => ?_⟩
    refine known.imp (listed identity) fun has => has.moved (fun _ => calls_finish ..) ?_
    exact fun call now far => absurd far.registers.discovers (free call now)
  · have begins {phase : Call → Prop} (far : phase (.forgetting
        ((engine.registry.register descriptors).2.1.removed.map Identity.path)
        (some (engine.registry.register descriptors).2.1))) :
        (({ engine with
            registry := (engine.registry.register descriptors).1
            cache := { engine.cache with notices := engine.cache.notices ++
              (engine.registry.register descriptors).2.2.map Notice.dropped } } : Engine).setCall id
          (.forgetting ((engine.registry.register descriptors).2.1.removed.map Identity.path)
            (some (engine.registry.register descriptors).2.1))).Has phase :=
      ⟨id, _, (calls_setCall ..).trans (if_pos rfl), far⟩
    refine ⟨fun _ => begins trivial, fun _ => begins trivial, .inl (begins trivial),
      fun _ identity _ known => ?_⟩
    rcases known with known | has
    · exact (stays identity known).imp_right fun gone =>
        begins ⟨identity.path, List.mem_map_of_mem gone, rfl⟩
    · exact .inr (has.moved (fun _ => calls_setCall ..) fun call now far =>
        absurd far.registers.discovers (free call now))

/-- A call other than a discovery is made or dropped, or none. -/
private theorem Upholds.act {event : Event}
    (registry : (engine.act event).registry = engine.registry)
    (still : ∀ id index reply, event ≠ .step id index reply) (uncut : engine.Uncut event) :
    engine.Upholds (engine.act event) := by
  have effect := engine.act_effect event
  generalize engine.act event = next at *
  cases effect with
  | move moved how =>
    refine .quiet ⟨moved.calls, registry⟩ ?_
    cases how with
    | rest same _ => exact .inl same
    | start _ _ | look _ | drop => exact .inr uncut
    | _ => exact absurd rfl (still _ _ _)
  | turn _ _ | collect _ | publish _ => exact absurd rfl (still _ _ _)

/-- An event that is no step publishes nothing. -/
private theorem Attests.act_upheld (attests : engine.Attests) {event : Event}
    (still : ∀ id index reply, event ≠ .step id index reply)
    (upholds : engine.Upholds (engine.act event)) : (engine.act event).Attests := by
  have numbered := attests.numbered.act event
  have change := engine.act_change event
  have effect := engine.act_effect event
  generalize engine.act event = next at *
  cases effect with
  | move moved how =>
    refine attests.moved numbered change moved.published upholds
      (attests.taking_of_moved moved.calls ?_)
    rintro _ _ _ _ rfl
    exact attests.taking how.collecting
  | turn _ _ | collect _ | publish _ => exact absurd rfl (still _ _ _)

/-- Every event preserves it, as long as no discovery is dropped. -/
private theorem Attests.act (attests : engine.Attests) (event : Event) (uncut : engine.Uncut event) :
    (engine.act event).Attests := by
  cases event with
  | start id job =>
    refine attests.act_upheld nofun ?_
    by_cases discovery : ∃ descriptors, job = .sync descriptors
    · obtain ⟨descriptors, rfl⟩ := discovery
      exact .sync descriptors uncut
    · refine .act (registry_start engine id fun descriptors same => ?_) nofun uncut
      exact discovery ⟨descriptors, same⟩
  | step id index reply => exact attests.step id index reply
  | drop _ | invalidate _ | invalidateAll | takeNotices =>
    exact attests.act_upheld nofun (.act rfl nofun uncut)

namespace Heeded

theorem act (heeded : engine.Heeded) (event : Event) (uncut : engine.Uncut event) :
    (engine.act event).Heeded := by
  obtain ⟨created, events, first, follows, rfl⟩ := heeded
  exact ⟨created, events ++ [event], first, Follows.concat_iff.mpr ⟨follows, uncut⟩,
    by simp [run, List.foldl_append]⟩

theorem steps (heeded : engine.Heeded) (id : Nat) (replies : List (Nat × Reply)) :
    (engine.steps id replies).Heeded := by
  induction replies generalizing engine with
  | nil => exact heeded
  | cons reply rest ih => exact ih (heeded.act (.step id reply.1 reply.2) trivial)

/-- Whatever was called, what is published is attested. -/
private theorem attests (heeded : engine.Heeded) : engine.Attests := by
  obtain ⟨created, events, first, follows, rfl⟩ := heeded
  refine follows.preserves (P := Attests) (fun _ event attests uncut => attests.act event uncut) ?_
  have empty : created.published.components = [] := by rw [first.published]; rfl
  refine ⟨first.numbered, ?_, fun id _ _ _ _ now => ?_⟩
  · rw [empty]
    exact .begin created _ _ (List.forall_mem_nil _)
  · cases (first.calls id).symm.trans now

end Heeded

/-! ## What a discovery takes away -/

/-- How far a discovery is that forgets the component at a path: once its slot is gone, a snapshot up
to date shows nothing at the path. -/
def Call.Drops (engine : Engine) (gone : Path) : Call → Prop
  | .forgetting paths (some _) =>
    (∃ path ∈ paths, path.parts = gone.parts) ∨ engine.cache.slot? gone = none
  | .publishing _ .waiting => engine.cache.slot? gone = none
  | .publishing _ (.collecting revision _ _) =>
    engine.cache.slot? gone = none ∧ revision = engine.cache.revision
  | .publishing _ (.writing ..) | .finished _ =>
    engine.cache.slot? gone = none ∧ engine.UpToDate
  | _ => False

/-- A discovery forgets the component at a path, or has ended. -/
def DropsPath (engine : Engine) (id : Nat) (gone : Path) : Prop :=
  ∃ call, engine.calls.get? id = some call ∧ call.Drops engine gone

private theorem dropsPath_setCall {gone : Path} (drops : call.Drops (engine.setCall id call) gone) :
    (engine.setCall id call).DropsPath id gone :=
  ⟨call, (calls_setCall ..).trans (if_pos rfl), drops⟩

private theorem dropsPath_finish {gone : Path} {result : Except Fault Answer}
    (absent : engine.cache.slot? gone = none) (current : engine.UpToDate) :
    (engine.finish id result).DropsPath id gone :=
  ⟨.finished result, (calls_finish ..).trans (if_pos rfl), absent, current⟩

/-- Each step takes the discovery on. -/
private theorem DropsPath.step {gone : Path} (drops : engine.DropsPath id gone) (index : Nat)
    (reply : Reply) : (engine.step id index reply).DropsPath id gone := by
  obtain ⟨found, there, phase⟩ := drops
  have spec := engine.step_spec id index reply
  generalize engine.step id index reply = next at spec
  have same : ∀ {call : Call}, engine.calls.get? id = some call → call.Drops engine gone :=
    fun now => Option.some.inj (there.symm.trans now) ▸ phase
  cases spec with
  | rest => exact ⟨found, there, phase⟩
  | @forget path rest diff? now =>
    cases diff? with
    | none => exact (same now).elim
    | some diff =>
      refine dropsPath_setCall ?_
      have slots : (engine.cache.remove path).slot? gone = if path.parts = gone.parts then none
          else engine.cache.slot? gone := slot?_remove ..
      rcases same now with ⟨other, member, parts⟩ | absent
      · rcases List.mem_cons.mp member with rfl | later
        · exact .inr (slots.trans (if_pos parts))
        · exact .inl ⟨other, later, parts⟩
      · exact .inr (slots.trans (by simp [absent]))
  | forgotten now =>
    refine dropsPath_setCall ((same now).resolve_left ?_)
    simp
  | reuse now _ current =>
    rw [deliver_eq]
    exact dropsPath_finish (same now) current
  | turn now _ _ => exact dropsPath_setCall ⟨same now, rfl⟩
  | collect now => exact dropsPath_setCall (same now)
  | publish now => exact dropsPath_setCall ⟨(same now).1, rfl, (same now).2⟩
  | write now _ => exact dropsPath_setCall (same now)
  | written now _ => exact dropsPath_setCall (same now)
  | failed now _ => exact dropsPath_finish (same now).1 (same now).2
  | deliver now =>
    rw [deliver_eq]
    exact dropsPath_finish (same now).1 (same now).2
  | get now | removed now | stubThere now | stubMissing now | stubWrite now | stubWritten now
  | stubFailed now => exact (same now).elim

/-- However many steps a discovery takes, it goes on to forget what it took away. -/
private theorem dropsPath_steps (id : Nat) {descriptors : List Descriptor} {gone : Identity}
    (known : gone ∈ engine.registry.list)
    (away : gone ∉ (engine.start id (.sync descriptors)).registry.list)
    (replies : List (Nat × Reply)) :
    ((engine.start id (.sync descriptors)).steps id replies).DropsPath id gone.path := by
  have drops : (engine.start id (.sync descriptors)).DropsPath id gone.path := by
    simp only [Engine.start, foldl_tell, registry_withDiff] at away ⊢
    have removed := (Registry.mem_register_or_removed known descriptors).resolve_left away
    have changed : ¬ (engine.registry.register descriptors).2.1.isEmpty = true := by
      intro empty
      rw [List.isEmpty_iff.mp ((Bool.and_eq_true _ _).mp empty).2] at removed
      cases removed
    rw [withDiff, if_neg changed]
    exact dropsPath_setCall (.inl ⟨gone.path, List.mem_map_of_mem removed, rfl⟩)
  generalize engine.start id (.sync descriptors) = started at drops
  induction replies generalizing started with
  | nil => exact drops
  | cons reply rest ih => exact ih _ (drops.step reply.1 reply.2)

/-- Between calls, every published component is registered with exactly the published identity. A
discovery ends only when nothing is published any more at the path of a component that it took away,
renamed, or made global or local. -/
theorem published_registered (heeded : engine.Heeded) (idle : engine.Idle) :
    (∀ item ∈ engine.published.components,
      item.1 = item.2.identity.name ∧ item.2.identity ∈ engine.registry.list) ∧
    ∀ id descriptors replies after, (engine.start id (.sync descriptors)).steps id replies = after →
      (after.result? id).isSome → ∀ gone ∈ engine.registry.list, gone ∉ after.registry.list →
        ∀ item ∈ after.published.components, item.2.identity.path.parts ≠ gone.path.parts := by
  constructor
  · have attests := heeded.attests.published
    have settled := attests.settled.resolve_left (idle.not_has fun _ => id)
    exact fun item member => ⟨attests.named item member, settled.1 item member⟩
  · rintro id descriptors replies _ rfl answered gone known away item member same
    have begun : (engine.start id (.sync descriptors)).Heeded := by
      refine heeded.act (.start id (.sync descriptors)) fun call there => ?_
      obtain ⟨result, rfl⟩ := idle id call there
      exact fun far => far
    rw [registry_steps] at away
    obtain ⟨found, there, phase⟩ := dropsPath_steps id known away replies
    have ended : ∃ result, found = .finished result := by
      rw [result?, there, Option.bind_some] at answered
      cases found with
      | finished result => exact ⟨result, rfl⟩
      | _ => cases answered
    obtain ⟨result, rfl⟩ := ended
    have attests := (begun.steps id replies).attests.published
    have shows := ((attests.current phase.2.2).1 item member).1
    rw [Shown, Cache.slot, slot?_congr _ same, phase.1] at shows
    cases shows

/-- Three components become known, and none can be read. When a snapshot came by all of them, a discovery
takes the last one away, and forgets it behind that snapshot. -/
def opening : List Event :=
  [.start 0 (.sync [⟨"Card", ⟨"/Card.vue"⟩, false⟩, ⟨"Menu", ⟨"/Menu.vue"⟩, false⟩,
      ⟨"Form", ⟨"/Form.vue"⟩, false⟩]),
    .step 0 0 .nothing, .step 0 0 .nothing, .step 0 0 .nothing, .step 0 0 .nothing,
    .step 0 0 .nothing, .step 0 0 .nothing, .step 0 0 .nothing, .start 1 .parseAll,
    .step 1 0 (.text (.error .missing)), .step 1 1 (.text (.error .missing)),
    .step 1 2 (.text (.error .missing)), .step 1 0 .nothing, .step 1 0 .nothing, .step 1 0 .nothing,
    .step 1 0 .nothing,
    .start 2 (.sync [⟨"Card", ⟨"/Card.vue"⟩, false⟩, ⟨"Menu", ⟨"/Menu.vue"⟩, false⟩]),
    .step 1 0 .nothing, .step 2 0 .nothing, .step 1 0 .nothing, .step 2 0 .nothing,
    .step 2 0 .nothing, .step 2 0 .nothing, .step 2 0 .nothing, .step 2 0 .nothing,
    .step 2 0 .nothing]

/-- An engine that published three components, and then two. -/
def gallery : Engine := bareEngine.run opening

/-- What makes the first of the two components global. -/
def globalizing : List Descriptor := [⟨"Card", ⟨"/Card.vue"⟩, true⟩, ⟨"Menu", ⟨"/Menu.vue"⟩, false⟩]

private theorem uncut_of_new (new : engine.calls.get? id = none) (job : Job) :
    engine.Uncut (.start id job) := fun _ now => by cases new.symm.trans now

private theorem heeded_gallery : gallery.Heeded := by
  refine ⟨bareEngine, opening, ⟨{}, [], [], .none, .ok (), rfl⟩, ?_, rfl⟩
  have second : (bareEngine.run (opening.take 8)).calls.get? 1 = none :=
    Option.isNone_iff_eq_none.mp (by decide +kernel)
  have third : (bareEngine.run (opening.take 16)).calls.get? 2 = none :=
    Option.isNone_iff_eq_none.mp (by decide +kernel)
  exact ⟨uncut_of_new rfl _, trivial, trivial, trivial, trivial, trivial, trivial, trivial,
    uncut_of_new second _, trivial, trivial, trivial, trivial, trivial, trivial, trivial,
    uncut_of_new third _, trivial, trivial, trivial, trivial, trivial, trivial, trivial, trivial,
    trivial, trivial⟩

/-- The component that was taken away is published until the discovery publishes, and then no more. A
later discovery that makes the first one global leaves the other one. -/
theorem published_registered_globalized :
    (bareEngine.run (opening.take 18)).published.names = ["Card", "Menu", "Form"] ∧
    gallery.published.names = ["Card", "Menu"] ∧
    (∀ item ∈ gallery.published.components,
      item.1 = item.2.identity.name ∧ item.2.identity ∈ gallery.registry.list) ∧
    (∀ item ∈ ((gallery.start 3 (.sync globalizing)).steps 3
        (List.replicate 7 (0, .nothing))).published.components,
      item.2.identity.path.parts ≠ (⟨"/Card.vue"⟩ : Path).parts) ∧
    ((gallery.start 3 (.sync globalizing)).steps 3
      (List.replicate 7 (0, .nothing))).published.names = ["Menu"] := by
  have idle : gallery.Idle := idle_of_all (by decide +kernel)
  obtain ⟨registered, leaves⟩ := published_registered heeded_gallery idle
  refine ⟨by decide +kernel, by decide +kernel, registered, ?_, by decide +kernel⟩
  exact leaves 3 globalizing _ _ rfl (by decide +kernel) ⟨"Card", ⟨"/Card.vue"⟩, false⟩
    (by decide +kernel) (by decide +kernel)

end Engine

end ComponentCatalog
