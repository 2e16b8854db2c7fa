import ComponentCatalog.Proofs.Engine.Changes
import ComponentCatalog.Proofs.Engine.Serial
import Mathlib.Data.List.Perm.Subperm

/-! # Which components the snapshot of all shows

Getting all components ends with a snapshot: a new one, unless the revision of the published one is
still the current one. A new snapshot shows exactly the registered components, in their order. The
published one never shows another component, but it misses a registered one whose entry is older than
its registration: to register a component changes no revision.
-/

namespace ComponentCatalog

open Component

/-- The names that a snapshot shows, in its order. -/
def Snapshot.names (snapshot : Snapshot) : List String := snapshot.components.map Prod.fst

namespace Engine

open Cache

/-- The published snapshot would do at a revision, and yet misses a registered component. -/
def Overlooks (engine : Engine) (revision : Nat) : Prop :=
  engine.published.isStub = false ∧ engine.published.revision = revision ∧
    ∃ identity ∈ engine.registry.list, identity.name ∉ engine.published.names

/-- The snapshot that a call answered. -/
def snapshot? (engine : Engine) (id : Nat) : Option Snapshot :=
  match engine.result? id with
  | some (.ok (.snapshot snapshot)) => some snapshot
  | _ => none

/-- The engine after steps of a call. -/
def steps (engine : Engine) (id : Nat) (replies : List (Nat × Reply)) : Engine :=
  replies.foldl (fun engine reply => engine.step id reply.1 reply.2) engine

@[simp] theorem registry_steps (engine : Engine) (id : Nat) (replies : List (Nat × Reply)) :
    (engine.steps id replies).registry = engine.registry := by
  induction replies generalizing engine with
  | nil => rfl
  | cons reply rest ih => exact (ih _).trans (registry_step engine id reply.1 reply.2)

/-- However many steps a call takes, the engine stays in order. -/
theorem Orderly.steps {engine : Engine} {id : Nat} {call : Call} (orderly : engine.Orderly id call)
    (replies : List (Nat × Reply)) : ∃ call, (engine.steps id replies).Orderly id call := by
  induction replies generalizing engine call with
  | nil => exact ⟨call, orderly⟩
  | cons reply rest ih =>
    obtain ⟨next, orderly⟩ := orderly.step id reply.1 reply.2
    exact ih orderly

theorem Serial.steps {engine : Engine} (serial : engine.Serial) (id : Nat)
    (replies : List (Nat × Reply)) : (engine.steps id replies).Serial := by
  induction replies generalizing engine with
  | nil => exact serial
  | cons reply rest ih => exact ih (serial.act (.step id reply.1 reply.2) trivial)

/-- A snapshot that is taken anew, and shows all registered components. -/
def Renewed (before : Engine) (revision : Nat) (snapshot : Snapshot) : Prop :=
  ¬ (before.published.isStub = false ∧ before.published.revision = revision) ∧
    snapshot.names = before.registry.list.map Identity.name

/-- The snapshot that was published before, and shows some of them. -/
def Reused (before : Engine) (revision : Nat) (snapshot : Snapshot) : Prop :=
  snapshot = before.published ∧ before.published.isStub = false ∧
    before.published.revision = revision ∧
    ∃ shown : List Identity, snapshot.names = shown.map Identity.name ∧
      shown.Sublist before.registry.list

/-- How far a call is that gets all components, given the engine before it. -/
def AllPhase (before engine : Engine) : Call → Prop
  | .getting goal gets =>
    (∃ analyses, goal = .all analyses) ∧ gets.map Get.identity = before.registry.list ∧
      engine.published = before.published
  | .publishing pending publication =>
    (∃ analyses components failed, pending = .all analyses components failed) ∧
    (∀ identity ∈ before.registry.list, engine.cache.Shown identity.path) ∧
    match publication with
    | .waiting => engine.published = before.published
    | .collecting .. =>
      ¬ (before.published.isStub = false ∧ before.published.revision = engine.cache.revision)
    | .writing snapshot _ => before.Renewed engine.cache.revision snapshot
  | .finished (.ok (.snapshot snapshot)) =>
    before.Renewed engine.cache.revision snapshot ∨ before.Reused engine.cache.revision snapshot
  | .finished (.error _) => True
  | _ => False

/-- A call gets all components, or has ended. -/
def GetsAll (before engine : Engine) (id : Nat) : Prop :=
  engine.registry = before.registry ∧
    ∃ call, engine.calls.get? id = some call ∧ before.AllPhase engine call

variable {before engine : Engine} {id : Nat}

private theorem getsAll_setCall {call : Call} (registry : engine.registry = before.registry)
    (phase : before.AllPhase (engine.setCall id call) call) :
    before.GetsAll (engine.setCall id call) id :=
  ⟨registry, call, (calls_setCall ..).trans (if_pos rfl), phase⟩

private theorem getsAll_finish {result : Except Fault Answer}
    (registry : engine.registry = before.registry)
    (phase : before.AllPhase (engine.finish id result) (.finished result)) :
    before.GetsAll (engine.finish id result) id :=
  ⟨registry, .finished result, (calls_finish ..).trans (if_pos rfl), phase⟩

/-- Once all entries are there, the slot of every registered component shows one. -/
private theorem getsAll_withGets {analyses : Nat} {gets : List Get}
    (registry : engine.registry = before.registry)
    (grounded : ∀ get ∈ gets, get.Grounded engine.cache)
    (identities : gets.map Get.identity = before.registry.list)
    (published : engine.published = before.published) :
    before.GetsAll (engine.withGets id (.all analyses) gets) id := by
  rcases engine.withGets_cases id (.all analyses) gets with
    ⟨-, eq⟩ | ⟨-, reason, eq⟩ | ⟨entries, done, eq⟩ <;> rw [eq]
  · exact getsAll_setCall registry ⟨⟨analyses, rfl⟩, identities, published⟩
  · exact getsAll_finish registry trivial
  · refine getsAll_setCall registry ⟨⟨_, _, _, rfl⟩, ?_, published⟩
    intro identity registered
    rw [← identities] at registered
    obtain ⟨get, member, rfl⟩ := List.mem_map.mp registered
    have there := List.mem_map_of_mem (f := Get.stage) member
    rw [done] at there
    obtain ⟨entry, -, stage⟩ := List.mem_map.mp there
    exact (grounded get member).done entry stage.symm

/-- The call begins when every other one has ended. -/
private theorem getsAll_start {other : Nat} {call : Call} (orderly : before.Orderly other call)
    (idle : before.Idle) (id : Nat) : before.GetsAll (before.start id .parseAll) id := by
  have ended := orderly.idle idle id (.ok .nothing)
  have distinct : (before.registry.list.map fun identity => identity.path.parts).Nodup :=
    List.pairwise_map.mpr (ended.distinct.imp And.right)
  have fits := (ended.new_gets (.all before.cache.analyses) distinct).fits
  refine getsAll_withGets rfl fits.2 ?_ rfl
  rw [List.map_map]
  exact List.map_id _

/-- A step for one of the entries that are being got. -/
private theorem GetsAll.get {goal : Goal} {gets : List Get} {get : Get} {index : Nat}
    {cache : Cache} {stage : Get.Stage} {reply : Reply}
    (orderly : engine.Orderly id (.getting goal gets)) (registry : engine.registry = before.registry)
    (phase : before.AllPhase engine (.getting goal gets)) (this : gets[index]? = some get)
    (step : Get.Transition engine.setup engine.cache get reply cache stage) :
    before.GetsAll
      (({ engine with cache } : Engine).withGets id goal (gets.set index { get with stage })) id := by
  obtain ⟨⟨analyses, rfl⟩, identities, published⟩ := phase
  have fits := (orderly.step_gets this step).fits
  refine getsAll_withGets registry fits.2 ?_ published
  obtain ⟨inside, rfl⟩ := List.getElem?_eq_some_iff.mp this
  rw [← identities, List.map_set, ← List.getElem_map Get.identity, List.set_getElem_self]
  simpa using inside

/-- A snapshot of all registered components, each of which has an entry, shows all of them. -/
private theorem renewed_of_fits {pending : Pending} {revision : Nat}
    {shown : Table String SnapshotEntry}
    (fits : (Call.publishing pending (.collecting revision [] shown)).Fits engine)
    (registry : engine.registry = before.registry)
    (all : ∀ identity ∈ before.registry.list, engine.cache.Shown identity.path)
    (outdated : ¬ (before.published.isStub = false ∧
      before.published.revision = engine.cache.revision)) (generation : Nat) :
    before.Renewed engine.cache.revision ⟨generation, revision, shown⟩ := by
  obtain ⟨-, done, list, keys⟩ := fits
  rw [List.append_nil] at list
  refine ⟨outdated, keys.trans ?_⟩
  rw [← registry, list, List.filter_eq_self.mpr]
  intro identity member
  refine all identity ?_
  rwa [← registry, list]

/-- Each step takes the call on. -/
private theorem GetsAll.step {call : Call} (getsAll : before.GetsAll engine id)
    (orderly : engine.Orderly id call) (index : Nat) (reply : Reply) :
    before.GetsAll (engine.step id index reply) id := by
  obtain ⟨registry, found, there, phase⟩ := getsAll
  have spec := engine.step_spec id index reply
  generalize engine.step id index reply = next at spec
  have same : ∀ {call : Call}, engine.calls.get? id = some call → before.AllPhase engine call :=
    fun now => Option.some.inj (there.symm.trans now) ▸ phase
  cases spec with
  | rest => exact ⟨registry, found, there, phase⟩
  | get now this =>
    obtain ⟨-, rfl⟩ := orderly.current now (by simp)
    rw [Get.step_snd]
    exact GetsAll.get orderly registry (same now) this (Get.step_transition ..)
  | reuse now _ current =>
    obtain ⟨-, rfl⟩ := orderly.current now (by simp)
    obtain ⟨⟨analyses, components, failed, rfl⟩, -, published⟩ := same now
    obtain ⟨shown, names, -, sublist⟩ := orderly.members.sublist (by simp) current
    rw [deliver_eq]
    exact getsAll_finish registry (.inr ⟨published, published ▸ current.1, published ▸ current.2,
      shown, names, registry ▸ sublist⟩)
  | turn now _ outdated =>
    obtain ⟨pending, shown, published⟩ := same now
    rw [UpToDate, published] at outdated
    exact getsAll_setCall registry ⟨pending, shown, outdated⟩
  | collect now =>
    obtain ⟨pending, shown, outdated⟩ := same now
    exact getsAll_setCall registry ⟨pending, shown, outdated⟩
  | publish now =>
    obtain ⟨-, rfl⟩ := orderly.current now (by simp)
    obtain ⟨pending, shown, outdated⟩ := same now
    exact getsAll_setCall registry ⟨pending, shown,
      renewed_of_fits orderly.fits registry shown outdated _⟩
  | write now _ =>
    obtain ⟨pending, shown, renewed⟩ := same now
    exact getsAll_setCall registry ⟨pending, shown, renewed⟩
  | written now _ =>
    obtain ⟨pending, shown, renewed⟩ := same now
    exact getsAll_setCall registry ⟨pending, shown, renewed⟩
  | failed _ _ => exact getsAll_finish registry trivial
  | deliver now =>
    obtain ⟨⟨analyses, components, failed, rfl⟩, -, renewed⟩ := same now
    rw [deliver_eq]
    exact getsAll_finish registry (.inl renewed)
  | forget now => exact (same now).elim
  | forgotten now => exact (same now).elim
  | removed now => exact (same now).elim
  | stubThere now _ => exact (same now).elim
  | stubMissing now _ => exact (same now).elim
  | stubWrite now _ => exact (same now).elim
  | stubWritten now _ => exact (same now).elim
  | stubFailed now _ => exact (same now).elim

/-- However many steps a call takes that gets all components, it goes on as it should. -/
theorem getsAll_steps {other : Nat} {call : Call} (orderly : before.Orderly other call)
    (idle : before.Idle) (id : Nat) (replies : List (Nat × Reply)) :
    before.GetsAll ((before.start id .parseAll).steps id replies) id := by
  have begun := (orderly.idle idle id (.ok .nothing)).start .parseAll
  have getsAll := getsAll_start orderly idle id
  generalize before.start id .parseAll = engine at begun getsAll
  induction replies generalizing engine with
  | nil => exact getsAll
  | cons reply rest ih =>
    obtain ⟨call, orderly⟩ := begun
    exact ih (engine.step id reply.1 reply.2) (orderly.step id reply.1 reply.2)
      (getsAll.step orderly reply.1 reply.2)

/-! ## The snapshot of all -/

/-- A snapshot with some of the registered components, in their order, shows all of them exactly if
it misses none. -/
private theorem names_eq_iff {shown registered : List Identity}
    (distinct : Registry.Distinct registered) (sublist : shown.Sublist registered) :
    shown.map Identity.name = registered.map Identity.name ↔
      ∀ identity ∈ registered, identity.name ∈ shown.map Identity.name := by
  constructor
  · intro same identity member
    rw [same]
    exact List.mem_map_of_mem member
  · intro every
    have subset : registered.map Identity.name ⊆ shown.map Identity.name := by
      intro name member
      obtain ⟨identity, registered, rfl⟩ := List.mem_map.mp member
      exact every identity registered
    exact (sublist.map Identity.name).eq_of_length_le
      (distinct.names.subperm subset).length_le

/-- When all components were got, the snapshot shows exactly the registered ones, in their order,
unless the published one would do and yet misses one of them. -/
theorem parseAll_names_iff {before : Engine} (serial : before.Serial) (idle : before.Idle)
    {id : Nat} {replies : List (Nat × Reply)} {snapshot : Snapshot}
    (done : ((before.start id .parseAll).steps id replies).snapshot? id = some snapshot) :
    snapshot.names = before.registry.list.map Identity.name ↔
      ¬ before.Overlooks ((before.start id .parseAll).steps id replies).cache.revision := by
  obtain ⟨other, call, orderly⟩ := serial.orderly
  obtain ⟨-, found, now, phase⟩ := getsAll_steps orderly idle id replies
  have finished : found = .finished (.ok (.snapshot snapshot)) := by
    simp only [snapshot?, result?, now, Option.bind_some] at done
    split at done
    · next result =>
      cases done
      cases found <;> cases result
      rfl
    · cases done
  subst finished
  rcases phase with ⟨outdated, names⟩ | ⟨rfl, real, same, shown, keys, sublist⟩
  · exact iff_of_true names fun overlooks => outdated ⟨overlooks.1, overlooks.2.1⟩
  · have all := names_eq_iff orderly.distinct sublist
    rw [← keys] at all
    rw [all]
    constructor
    · rintro every ⟨-, -, identity, member, missing⟩
      exact missing (every identity member)
    · intro finds identity member
      by_contra missing
      exact finds ⟨real, same, identity, member, missing⟩

/-- A component is analyzed, and registered only then. -/
def lateRegistration : List Event :=
  [.start 0 (.parse ⟨"Card", ⟨"/Card.vue"⟩, false⟩), .step 0 0 (.text (.ok "")),
    .step 0 0 .nothing, .step 0 0 .nothing, .step 0 0 (.answered (.failed (.parse "")) 0),
    .step 0 0 .nothing, .step 0 0 .nothing, .step 0 0 .nothing, .step 0 0 .nothing,
    .step 0 0 .nothing, .start 1 (.sync [⟨"Card", ⟨"/Card.vue"⟩, false⟩]), .step 1 0 .nothing,
    .step 1 0 .nothing]

/-- An engine whose only component was registered after its analysis. -/
def lateEngine : Engine := lateRegistration.foldl act (Engine.create {} [] [] .none (.ok ()))

/-- The replies to a call that gets all its components. -/
def lateReplies : List (Nat × Reply) := [(0, .text (.ok "")), (0, .nothing), (0, .nothing)]

private theorem serial_lateEngine : lateEngine.Serial := by
  refine ⟨{}, [], [], .none, .ok (), lateRegistration, ?_, rfl⟩
  have registering : ((lateRegistration.take 10).foldl act
      (Engine.create {} [] [] .none (.ok ()))).Idle := idle_of_all (by decide +kernel)
  exact ⟨by rintro _ _ ⟨⟩, trivial, trivial, trivial, trivial, trivial, trivial, trivial, trivial, trivial,
    registering, trivial, trivial, trivial⟩

private theorem idle_lateEngine : lateEngine.Idle := idle_of_all (by decide +kernel)

private theorem lateSnapshot :
    ∃ snapshot, ((lateEngine.start 2 .parseAll).steps 2 lateReplies).snapshot? 2 = some snapshot ∧
      snapshot.names = [] := by
  have names : (((lateEngine.start 2 .parseAll).steps 2 lateReplies).snapshot? 2).map
      Snapshot.names = some [] := by decide +kernel
  exact Option.map_eq_some_iff.mp names

/-- The late engine takes the published snapshot again, and it misses the component. -/
theorem parseAll_names_iff_late :
    ∃ snapshot, ((lateEngine.start 2 .parseAll).steps 2 lateReplies).snapshot? 2 = some snapshot ∧
      (snapshot.names = lateEngine.registry.list.map Identity.name ↔
        ¬ lateEngine.Overlooks
          ((lateEngine.start 2 .parseAll).steps 2 lateReplies).cache.revision) := by
  obtain ⟨snapshot, done, -⟩ := lateSnapshot
  exact ⟨snapshot, done, parseAll_names_iff serial_lateEngine idle_lateEngine done⟩

/-- A snapshot of all components can miss a registered one. -/
theorem parseAll_misses_registered :
    ¬ ∀ before : Engine, before.Serial → before.Idle → ∀ id replies snapshot,
      ((before.start id .parseAll).steps id replies).snapshot? id = some snapshot →
        snapshot.names = before.registry.list.map Identity.name := by
  intro always
  obtain ⟨snapshot, done, none⟩ := lateSnapshot
  have names := always lateEngine serial_lateEngine idle_lateEngine 2 lateReplies snapshot done
  rw [none] at names
  exact absurd names (by decide +kernel)

end Engine

end ComponentCatalog
