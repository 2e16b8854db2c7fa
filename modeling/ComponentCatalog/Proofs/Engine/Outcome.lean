import ComponentCatalog.Proofs.Engine.Beside
import ComponentCatalog.Proofs.Engine.Prospect

/-! # What a call that gets all components answers

Each component is got alone on its path, so what comes of it is settled when the call begins, and so
is what the revision will be: neither the order of the steps nor what happens to the other components
matters. `Gathers` says so while entries are being got, `Gathered` once all of them are there.

Behind the entries the call publishes alone, and what it publishes is read off the slots in the order of
the registry. So its answer, too, is settled when it begins: the first component for which there was no
analyzer, or the snapshot of what was got.
-/

namespace ComponentCatalog

open Component

/-! ## Getting all components -/

namespace Engine

open Cache

namespace Site

/-- What getting an entry comes to at a site. -/
def ahead (outside : Outside) (site : Site) (get : Get) : Prospect :=
  get.prospect outside site.engine.setup site.files site.engine.cache

/-- What getting a component comes to, if it begins at a site. -/
def outlook (outside : Outside) (site : Site) (identity : Identity) : Prospect :=
  site.ahead outside { identity }

/-- What getting all components of a site will answer for each of them. -/
def answers (outside : Outside) (site : Site) : List (Option (Except String Entry)) :=
  site.engine.registry.list.map fun identity => (site.outlook outside identity).result?

/-- The revision once all components of a site were got. -/
def finalRevision (outside : Outside) (site : Site) : Nat :=
  site.engine.cache.revision +
    (site.engine.registry.list.map fun identity => (site.outlook outside identity).gain).sum

/-- Nothing is on its way, and the store has a file for each component that is no other one's. -/
structure Ready (site : Site) : Prop where
  sound : site.engine.Sound
  distinct : Registry.Distinct site.engine.registry.list
  landed : ∀ path, (site.engine.cache.slot path).inFlight? = none
  stores : ∀ store, site.engine.setup.store? = some store →
    (site.engine.registry.list.map fun identity => store.file identity.path).Nodup

/-- A call takes a step, with a reply that tells what is outside and what the files hold. The writing of
published files fails only where it may. -/
def Replied (outside : Outside) (failing : Prop) (id : Nat) (site : Site) (change : Change) : Prop :=
  ∃ index reply need, change.event = .step id index reply ∧
    site.engine.need? id index = some need ∧ outside.Replies site.files need reply ∧
    (∀ path, Leaves need reply path (site.files path) (change.files path)) ∧
    (((site.engine.calls.get? id).bind Call.artifact?).isSome →
      ∀ cause, reply = .done (.error cause) → failing)

/-- All components are being got, and each comes to what was settled at the beginning. -/
structure Gathers (outside : Outside) (before site : Site) (gets : List Get) : Prop where
  beside : before.engine.Beside site.engine gets
  settled : ∀ get ∈ gets,
    (site.ahead outside get).result? = (before.outlook outside get.identity).result? ∧
      (site.ahead outside get).slot = (before.outlook outside get.identity).slot
  revision : site.engine.cache.revision + (gets.map fun get => (site.ahead outside get).gain).sum =
    before.finalRevision outside

/-- All components were got, and each came to what was settled at the beginning. -/
structure Gathered (outside : Outside) (before : Site) (engine : Engine) : Prop where
  registry : engine.registry = before.engine.registry
  slot : ∀ identity ∈ before.engine.registry.list,
    engine.cache.slot identity.path = (before.outlook outside identity).slot
  revision : engine.cache.revision = before.finalRevision outside

variable {outside : Outside} {before site : Site} {gets front back : List Get} {get : Get}

/-- A call that is ready begins to get all components. -/
theorem Ready.gathers (ready : before.Ready) (outside : Outside) :
    Gathers outside before before (before.engine.registry.list.map fun identity => { identity }) where
  beside := .begin ready.sound ready.landed
  settled := by
    intro get member
    obtain ⟨identity, -, rfl⟩ := List.mem_map.mp member
    exact ⟨rfl, rfl⟩
  revision := by
    rw [List.map_map]
    rfl

/-- The store keeps the files of different components apart. -/
private theorem Ready.store_files (ready : before.Ready)
    (beside : before.engine.Beside site.engine (front ++ get :: back)) {store : Store}
    (stores : site.engine.setup.store? = some store) {other : Get} (among : other ∈ front ++ back) :
    store.file get.identity.path ≠ store.file other.identity.path := by
  have files := ready.stores store (beside.still.setup ▸ stores)
  rw [← beside.identities, List.map_map] at files
  have apart := (List.nodup_cons.mp ((List.perm_middle.map _).nodup_iff.mp files)).1
  intro same
  refine apart (List.mem_map.mpr ⟨other, among, ?_⟩)
  rw [Function.comp_apply, Function.comp_apply, same]

/-- A step for one of the entries keeps what all of them come to. -/
theorem Gathers.step (gathers : Gathers outside before site (front ++ get :: back))
    (ready : before.Ready) {need : Need} {reply : Reply} {files : Path → Option ByteArray}
    (needs : get.need? site.engine.setup site.engine.cache = some need)
    (replies : outside.Replies site.files need reply)
    (leaves : ∀ path, Leaves need reply path (site.files path) (files path)) :
    Gathers outside before
      ⟨{ site.engine with cache := (get.step site.engine.setup site.engine.cache reply).1 }, files⟩
      (front ++ (get.step site.engine.setup site.engine.cache reply).2 :: back) := by
  have beside := gathers.beside
  have mine := beside.alone get (by simp)
  have step := get.step_transition site.engine.setup site.engine.cache reply
  have kept : ∀ {path : Path}, (∀ file text, need = .write file text → file ≠ path) →
      files path = site.files path := fun spares => (leaves _).spared (Get.spares needs spares)
  obtain ⟨result, slot, gain⟩ := Get.keeps_step mine needs replies
    fun reads store _ => kept fun file text writes => absurd writes (reads file text)
  have others : ∀ other ∈ front ++ back,
      other.prospect outside site.engine.setup files
        (get.step site.engine.setup site.engine.cache reply).1 = site.ahead outside other := by
    intro other among
    refine Get.prospect_other step beside.sound mine (beside.apart ready.distinct other among).2
      (beside.alone other (mem_split_iff.mpr (.inr among))) ?_
    intro store stores
    refine kept fun file text writes => ?_
    obtain ⟨_, stores', rfl⟩ := Get.write_of_alone mine (writes ▸ needs)
    cases stores.symm.trans stores'
    exact ready.store_files beside stores among
  have there : ∀ {other : Get}, other ∈ front ++ back → other ∈ front ++ get :: back := fun among =>
    mem_split_iff.mpr (.inr among)
  refine ⟨beside.step ready.distinct reply, ?_, ?_⟩
  · intro other member
    rcases mem_split_iff.mp member with rfl | among
    · obtain ⟨result', slot'⟩ := gathers.settled get (by simp)
      rw [Get.identity_step]
      exact ⟨result.trans result', slot.trans slot'⟩
    · rw [ahead, others other among]
      exact gathers.settled other (there among)
  · have before := gathers.revision
    have rest : (front ++ back).map (fun other => (other.prospect outside site.engine.setup files
        (get.step site.engine.setup site.engine.cache reply).1).gain) =
        (front ++ back).map fun other => (site.ahead outside other).gain :=
      List.map_congr_left fun other among => congrArg Prospect.gain (others other among)
    rw [sum_split] at before ⊢
    simp only [ahead] at before rest ⊢
    rw [rest]
    omega

/-- When all entries are there, each is what was settled at the beginning. -/
theorem Gathers.gathered (gathers : Gathers outside before site gets)
    {results : List (Except String Entry)} (done : gets.map Get.result? = results.map some) :
    Gathered outside before site.engine ∧ before.answers outside = results.map some := by
  have still := gathers.beside.still
  have each : ∀ get ∈ gets, ∃ result, site.ahead outside get =
      ⟨some result, site.engine.cache.slot get.identity.path, 0⟩ ∧ get.result? = some result := by
    intro get member
    have there := List.mem_map_of_mem (f := Get.result?) member
    rw [done] at there
    obtain ⟨result, -, same⟩ := List.mem_map.mp there
    refine ⟨result, ?_, same.symm⟩
    cases stage : get.stage with
    | done other =>
      simp only [Get.result?, stage, Option.some.injEq] at same
      simp only [ahead, Get.prospect, stage, same]
    | _ => simp [Get.result?, stage] at same
  refine ⟨⟨still.registry, ?_, ?_⟩, ?_⟩
  · intro identity member
    rw [← gathers.beside.identities] at member
    obtain ⟨get, among, rfl⟩ := List.mem_map.mp member
    obtain ⟨result, ahead, -⟩ := each get among
    rw [← (gathers.settled get among).2, ahead]
  · have none : (gets.map fun get => (site.ahead outside get).gain) = gets.map fun _ => 0 := by
      refine List.map_congr_left fun get among => ?_
      obtain ⟨result, ahead, -⟩ := each get among
      rw [ahead]
    rw [← gathers.revision, none, List.map_const', List.sum_replicate_nat]
    simp
  · rw [answers, ← gathers.beside.identities, List.map_map, ← done]
    refine List.map_congr_left fun get among => ?_
    obtain ⟨result, ahead, there⟩ := each get among
    rw [Function.comp, ← (gathers.settled get among).1, ahead, there]

end Site

end Engine

/-! ## The answer -/

namespace Cache

/-- Adds what a snapshot shows of a component with a slot. -/
def Slot.showIn (slot : Slot) (shown : Table String SnapshotEntry) (identity : Identity) :
    Table String SnapshotEntry :=
  match slot.last? with
  | some last => shown.set identity.name ⟨identity, slot.status, last.outcome⟩
  | none => shown

theorem collect_eq (cache : Cache) (shown : Table String SnapshotEntry) (identity : Identity) :
    cache.collect shown identity = (cache.slot identity.path).showIn shown identity := by
  unfold collect shown? Slot.showIn Cache.slot
  cases cache.slot? identity.path with
  | none => rfl
  | some slot => cases last : slot.last? <;> simp [last]

end Cache

namespace Engine

open Cache

namespace Site

/-- The published snapshot of a site will do for a call that gets all its components. -/
def Suffices (outside : Outside) (site : Site) : Prop :=
  site.engine.published.isStub = false ∧
    site.engine.published.revision = site.finalRevision outside

instance (outside : Outside) (site : Site) : Decidable (site.Suffices outside) :=
  inferInstanceAs (Decidable (_ ∧ _))

/-- What a snapshot of some components will show, once all components of a site were got. -/
def showing (outside : Outside) (site : Site) (identities : List Identity) :
    Table String SnapshotEntry :=
  identities.foldl (fun shown identity => (site.outlook outside identity).slot.showIn shown identity) []

/-- The snapshot with which getting all components of a site ends. -/
def finalSnapshot (outside : Outside) (site : Site) : Snapshot :=
  if site.Suffices outside then site.engine.published
  else ⟨site.engine.cache.generation + 1, site.finalRevision outside,
    site.showing outside site.engine.registry.list⟩

/-- What getting all components of a site answers: the first one for which there was no analyzer, or the
snapshot if all of them have an entry. -/
inductive Answers (outside : Outside) (site : Site) : Except Fault Answer → Prop
  | unavailable {front : List Entry} {reason : String} {rest : List (Except String Entry)}
      (first : site.answers outside = (front.map Except.ok ++ Except.error reason :: rest).map some) :
      Answers outside site (.error (.unavailable reason))
  | snapshot {entries : List Entry} (all : site.answers outside = (entries.map Except.ok).map some) :
      Answers outside site (.ok (.snapshot (site.finalSnapshot outside)))

/-- How far a call is that gets all components of a site. -/
def Phase (outside : Outside) (failing : Prop) (before site : Site) : Call → Prop
  | .getting goal gets =>
    goal = .all before.engine.cache.analyses ∧ Gathers outside before site gets ∧
      ∃ get ∈ gets, get.result? = none
  | .publishing pending publication =>
    (∃ analyses components failed, pending = .all analyses components failed) ∧
    (∃ entries : List Entry, before.answers outside = (entries.map Except.ok).map some) ∧
    Gathered outside before site.engine ∧
    match publication with
    | .waiting => site.engine.published = before.engine.published ∧
        site.engine.cache.generation = before.engine.cache.generation ∧
        site.engine.publisher? = before.engine.publisher?
    | .collecting revision rest shown => ¬ before.Suffices outside ∧
        site.engine.cache.generation = before.engine.cache.generation ∧
        revision = before.finalRevision outside ∧
        ∃ done, before.engine.registry.list = done ++ rest ∧ shown = before.showing outside done
    | .writing snapshot _ => snapshot = before.finalSnapshot outside
  | .finished result =>
    Gathered outside before site.engine ∧
      (before.Answers outside result ∨ failing ∧ ∃ path cause, result = .error (.io path cause))
  | _ => False

/-- A call gets all components of a site that was there before. -/
def GetsAll (outside : Outside) (failing : Prop) (before : Site) (id : Nat) (site : Site) : Prop :=
  ∃ call, site.engine.calls.get? id = some call ∧ Phase outside failing before site call

variable {outside : Outside} {failing : Prop} {before : Site} {engine : Engine} {id : Nat}
  {files : Path → Option ByteArray} {gets : List Get}

private theorem Gathers.setCall (gathers : Gathers outside before ⟨engine, files⟩ gets) (id : Nat)
    (call : Call) : Gathers outside before ⟨engine.setCall id call, files⟩ gets :=
  ⟨gathers.beside.setCall id call, gathers.settled, gathers.revision⟩

private theorem getsAll_setCall {call : Call}
    (phase : Phase outside failing before ⟨engine.setCall id call, files⟩ call) :
    GetsAll outside failing before id ⟨engine.setCall id call, files⟩ :=
  ⟨call, (calls_setCall ..).trans (if_pos rfl), phase⟩

private theorem getsAll_finish {result : Except Fault Answer}
    (gathered : Gathered outside before engine)
    (answers : before.Answers outside result ∨
      failing ∧ ∃ path cause, result = .error (.io path cause)) :
    GetsAll outside failing before id ⟨engine.finish id result, files⟩ :=
  ⟨.finished result, (calls_finish ..).trans (if_pos rfl),
    ⟨gathered.registry, gathered.slot, gathered.revision⟩, answers⟩

/-- The call goes on getting, or publishes what it got. -/
private theorem getsAll_withGets (gathers : Gathers outside before ⟨engine, files⟩ gets) :
    GetsAll outside failing before id
      ⟨engine.withGets id (.all before.engine.cache.analyses) gets, files⟩ := by
  by_cases open_ : ∃ get ∈ gets, get.result? = none
  · obtain ⟨get, member, missing⟩ := open_
    rw [withGets_of_open engine id _ member missing]
    exact getsAll_setCall ⟨rfl, gathers.setCall .., get, member, missing⟩
  · obtain ⟨results, done⟩ := exists_results fun get member missing => open_ ⟨get, member, missing⟩
    obtain ⟨gathered, answers⟩ := gathers.gathered done
    rw [withGets_of_results engine id _ done]
    rcases entriesOf_cases results with ⟨entries, rfl, all⟩ | ⟨front, reason, rest, rfl, first⟩
    · rw [all]
      have still := gathers.beside.still
      exact getsAll_setCall ⟨⟨_, _, _, rfl⟩, ⟨entries, answers⟩,
        ⟨gathered.registry, gathered.slot, gathered.revision⟩, still.published, still.generation,
        still.publisher⟩
    · rw [first]
      exact getsAll_finish gathered (.inl (.unavailable answers))

/-- The call begins at a site that is ready. -/
theorem Ready.getsAll (ready : before.Ready) (outside : Outside) (failing : Prop) (id : Nat) :
    GetsAll outside failing before id ⟨before.engine.start id .parseAll, before.files⟩ :=
  getsAll_withGets (ready.gathers outside)

/-- A step for one of the entries takes the call on. -/
private theorem getsAll_get (ready : before.Ready) {goal : Goal} {index : Nat} {need : Need}
    {reply : Reply} {files' : Path → Option ByteArray}
    (now : engine.calls.get? id = some (.getting goal gets))
    (phase : Phase outside failing before ⟨engine, files⟩ (.getting goal gets))
    (needs : engine.need? id index = some need) (replies : outside.Replies files need reply)
    (leaves : ∀ path, Leaves need reply path (files path) (files' path)) :
    GetsAll outside failing before id ⟨engine.step id index reply, files'⟩ := by
  obtain ⟨rfl, gathers, -⟩ := phase
  simp only [need?, now] at needs
  obtain ⟨get, this, own⟩ := Option.bind_eq_some_iff.mp needs
  obtain ⟨front, back, rfl, set⟩ := exists_split this
  simp only [Engine.step, now, stepGet, this, set]
  exact getsAll_withGets (gathers.step ready own replies leaves)

/-- What a snapshot shows that comes by one more component. -/
private theorem showing_collect (gathered : Gathered outside before engine) {done : List Identity}
    {identity : Identity} (known : identity ∈ before.engine.registry.list) :
    engine.cache.collect (before.showing outside done) identity =
      before.showing outside (done ++ [identity]) := by
  rw [collect_eq, gathered.slot identity known]
  simp only [showing, List.foldl_append, List.foldl_cons, List.foldl_nil]

/-- A step behind the entries takes the call on, whatever becomes of files. -/
private theorem getsAll_publish {call : Call} {index : Nat} {reply : Reply}
    {files' : Path → Option ByteArray} (there : engine.calls.get? id = some call)
    (phase : Phase outside failing before ⟨engine, files⟩ call)
    (notGetting : ∀ goal gets, call ≠ .getting goal gets)
    (fails : ((engine.calls.get? id).bind Call.artifact?).isSome →
      ∀ cause, reply = .done (.error cause) → failing) :
    GetsAll outside failing before id ⟨engine.step id index reply, files'⟩ := by
  have spec := engine.step_spec id index reply
  generalize engine.step id index reply = next at spec
  have same : ∀ {call : Call}, engine.calls.get? id = some call →
      Phase outside failing before ⟨engine, files⟩ call :=
    fun now => Option.some.inj (there.symm.trans now) ▸ phase
  cases spec with
  | rest =>
    refine ⟨call, there, ?_⟩
    cases call with
    | getting goal gets => exact absurd rfl (notGetting goal gets)
    | _ => exact phase
  | get now _ => exact absurd (Option.some.inj (there.symm.trans now)) (notGetting _ _)
  | reuse now _ current =>
    obtain ⟨⟨_, _, _, rfl⟩, ⟨entries, all⟩, gathered, published, -⟩ := same now
    have suffices_ : before.Suffices outside :=
      ⟨published ▸ current.1, published ▸ current.2.trans gathered.revision⟩
    have final : before.finalSnapshot outside = engine.published :=
      (if_pos suffices_).trans published.symm
    rw [deliver_eq]
    refine getsAll_finish ⟨gathered.registry, gathered.slot, gathered.revision⟩ (.inl ?_)
    exact final ▸ .snapshot all
  | turn now _ outdated =>
    obtain ⟨pending, entries, gathered, published, generation, -⟩ := same now
    refine getsAll_setCall ⟨pending, entries,
      ⟨gathered.registry, gathered.slot, gathered.revision⟩, ?_, generation, gathered.revision, [],
      gathered.registry.symm ▸ rfl, rfl⟩
    exact fun suffices_ => outdated
      ⟨published ▸ suffices_.1, published ▸ suffices_.2.trans gathered.revision.symm⟩
  | @collect _ _ identity _ _ now =>
    obtain ⟨pending, entries, gathered, outdated, generation, rfl, done, list, rfl⟩ := same now
    refine getsAll_setCall ⟨pending, entries,
      ⟨gathered.registry, gathered.slot, gathered.revision⟩, outdated, generation, rfl,
      done ++ [identity], by simp [list], ?_⟩
    exact showing_collect gathered (by simp [list])
  | publish now =>
    obtain ⟨pending, entries, gathered, outdated, generation, rfl, done, list, rfl⟩ := same now
    rw [List.append_nil] at list
    refine getsAll_setCall ⟨pending, entries,
      ⟨gathered.registry, gathered.slot, gathered.revision⟩, ?_⟩
    rw [finalSnapshot, if_neg outdated, ← generation, list]
  | write now _ =>
    obtain ⟨pending, entries, gathered, snapshot⟩ := same now
    exact getsAll_setCall ⟨pending, entries,
      ⟨gathered.registry, gathered.slot, gathered.revision⟩, snapshot⟩
  | written now _ =>
    obtain ⟨pending, entries, gathered, snapshot⟩ := same now
    exact getsAll_setCall ⟨pending, entries,
      ⟨gathered.registry, gathered.slot, gathered.revision⟩, snapshot⟩
  | failed now failed =>
    obtain ⟨pending, entries, gathered, snapshot⟩ := same now
    obtain ⟨cause, rfl, fault⟩ := Artifact.reply_of_failed failed
    exact getsAll_finish gathered (.inr ⟨fails (by rw [now]; rfl) cause rfl, _, _, congrArg _ fault⟩)
  | deliver now =>
    obtain ⟨⟨_, _, _, rfl⟩, ⟨entries, all⟩, gathered, rfl⟩ := same now
    rw [deliver_eq]
    exact getsAll_finish ⟨gathered.registry, gathered.slot, gathered.revision⟩ (.inl (.snapshot all))
  | forget now => exact (same now).elim
  | forgotten now => exact (same now).elim
  | removed now => exact (same now).elim
  | stubThere now _ => exact (same now).elim
  | stubMissing now _ => exact (same now).elim
  | stubWrite now _ => exact (same now).elim
  | stubWritten now _ => exact (same now).elim
  | stubFailed now _ => exact (same now).elim

/-- What the call has come to once it has its result. -/
theorem GetsAll.of_result {site : Site} {result : Except Fault Answer}
    (getsAll : GetsAll outside failing before id site)
    (answered : site.engine.result? id = some result) :
    Gathered outside before site.engine ∧
      (before.Answers outside result ∨ failing ∧ ∃ path cause, result = .error (.io path cause)) := by
  obtain ⟨call, there, phase⟩ := getsAll
  rw [result?, there, Option.bind_some] at answered
  cases call with
  | finished other =>
    cases answered
    exact phase
  | _ => cases answered

/-- Each step takes the call on. -/
theorem GetsAll.act {site : Site} {change : Change} (getsAll : GetsAll outside failing before id site)
    (ready : before.Ready) (replied : Replied outside failing id site change) :
    GetsAll outside failing before id (site.act change) := by
  obtain ⟨call, there, phase⟩ := getsAll
  obtain ⟨index, reply, need, event, needs, replies, leaves, fails⟩ := replied
  rw [Site.act, event]
  by_cases getting : ∃ goal gets, call = .getting goal gets
  · obtain ⟨goal, gets, rfl⟩ := getting
    exact getsAll_get ready there phase needs replies leaves
  · exact getsAll_publish there phase (fun goal gets same => getting ⟨goal, gets, same⟩) fails

end Site

end Engine

end ComponentCatalog
