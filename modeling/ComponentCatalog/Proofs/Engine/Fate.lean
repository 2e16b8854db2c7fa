import ComponentCatalog.Proofs.Engine.Outcome
import ComponentCatalog.Proofs.Engine.Restored

/-! # What a call comes to, and how the engine stands then

Between calls an engine is told by its `Standing`: the components, what is known of them, and what was
published. Neither a store nor the analyses that were made are part of it. At each stage of a call that is
alone, `Call.fate` says what the call will come to and how the engine will stand then. Every step of the
call keeps that, whether what it needs is stored or has to be found.
-/

namespace ComponentCatalog

open Component

namespace Engine

open Cache

/-- What the writing of each published file gets for replies. -/
abbrev Output := Path → Need → Reply

/-- How an engine stands between calls. -/
@[ext]
structure Standing where
  rootDir : Path
  outputDir? : Option Path
  registry : Registry
  slot? : Path → Option Slot
  revision : Nat
  generation : Nat
  published : Snapshot

/-- How an engine stands. -/
def standing (engine : Engine) : Standing where
  rootDir := engine.rootDir
  outputDir? := engine.outputDir?
  registry := engine.registry
  slot? := engine.cache.slot?
  revision := engine.cache.revision
  generation := engine.cache.generation
  published := engine.published

/-- What a call comes to: its result, and how the engine stands then. -/
structure Fate where
  result : Except Fault Answer
  standing : Standing

/-! ## Files -/

namespace Artifact

variable {output : Output} {artifact next : Artifact}

/-- Why a file is not written within a number of steps. -/
def faultWithin (output : Output) : Nat → Artifact → Option Fault
  | 0, _ => none
  | steps + 1, artifact =>
    match artifact.step (output artifact.file artifact.need) with
    | .going next => faultWithin output steps next
    | .written => none
    | .failed fault => some fault

/-- Why a file is not written. -/
def fault? (output : Output) (artifact : Artifact) : Option Fault :=
  artifact.faultWithin output artifact.left

theorem left_pos (artifact : Artifact) : 0 < artifact.left := by
  unfold left
  split <;> decide

/-- More steps than are needed change nothing. -/
private theorem faultWithin_eq (fits : ∀ file (need : Need), need.Fits (output file need)) {steps steps' : Nat}
    (enough : artifact.left ≤ steps) (enough' : artifact.left ≤ steps') :
    artifact.faultWithin output steps = artifact.faultWithin output steps' := by
  have some := artifact.left_pos
  induction steps generalizing steps' artifact with
  | zero => omega
  | succ steps ih =>
    obtain ⟨steps', rfl⟩ := Nat.exists_eq_add_of_lt (Nat.lt_of_lt_of_le some enough')
    simp only [Nat.zero_add, faultWithin]
    split
    · next going =>
      have less := left_step (fits _ _) going
      exact ih (by omega) (by omega) (left_pos _)
    · rfl
    · rfl

/-- A step that leads on keeps why a file is not written. -/
theorem fault?_of_going (fits : ∀ file (need : Need), need.Fits (output file need))
    (going : artifact.step (output artifact.file artifact.need) = .going next) :
    artifact.fault? output = next.fault? output := by
  have less := left_step (fits _ _) going
  obtain ⟨steps, same⟩ := Nat.exists_eq_add_of_lt less
  rw [fault?, same, faultWithin, going]
  exact faultWithin_eq fits (Nat.le_add_right ..) (Nat.le_refl _)

private theorem fault?_succ (output : Output) (artifact : Artifact) :
    ∃ steps, artifact.fault? output = artifact.faultWithin output (steps + 1) := by
  obtain ⟨steps, same⟩ := Nat.exists_eq_add_of_lt artifact.left_pos
  exact ⟨steps, by rw [fault?, same, Nat.zero_add]⟩

theorem fault?_of_written
    (written : artifact.step (output artifact.file artifact.need) = .written) :
    artifact.fault? output = none := by
  obtain ⟨steps, same⟩ := artifact.fault?_succ output
  rw [same, faultWithin, written]

theorem fault?_of_failed {fault : Fault}
    (failed : artifact.step (output artifact.file artifact.need) = .failed fault) :
    artifact.fault? output = some fault := by
  obtain ⟨steps, same⟩ := artifact.fault?_succ output
  rw [same, faultWithin, failed]

end Artifact

/-! ## What comes of each stage -/

namespace Standing

variable (output : Output) (answer : Snapshot → Except Fault Answer) (standing : Standing)

/-- The files to write for a snapshot. -/
def artifacts (snapshot : Snapshot) : List Artifact :=
  match standing.outputDir? with
  | some dir => Artifact.ofRecords dir (.ofSnapshot standing.rootDir snapshot)
  | none => []

/-- What comes of writing files, if something is answered then. -/
def write (snapshot : Snapshot) (artifacts : List Artifact) : Fate :=
  match artifacts.findSome? (Artifact.fault? output) with
  | some fault => ⟨.error fault, standing⟩
  | none => ⟨answer snapshot, standing⟩

/-- The snapshot that is taken, if it shows some components already. -/
def snapshot (revision : Nat) (rest : List Identity) (shown : Table String SnapshotEntry) : Snapshot where
  generation := standing.generation + 1
  revision := revision
  components := rest.foldl
    (fun shown identity => ((standing.slot? identity.path).getD {}).showIn shown identity) shown

/-- What comes of taking a snapshot that shows some components already. -/
def collect (revision : Nat) (rest : List Identity) (shown : Table String SnapshotEntry) : Fate :=
  let snapshot := standing.snapshot revision rest shown
  { standing with generation := standing.generation + 1, published := snapshot }.write output answer
    snapshot (standing.artifacts snapshot)

/-- What comes of publishing. -/
def publish : Fate :=
  if standing.published.isStub = false ∧ standing.published.revision = standing.revision then
    ⟨answer standing.published, standing⟩
  else standing.collect output answer standing.revision standing.registry.list []

/-- A component is forgotten. -/
def forget (path : Path) : Standing :=
  match standing.slot? path with
  | some _ =>
    { standing with
      slot? := fun other => if path.parts = other.parts then none else standing.slot? other
      revision := standing.revision + 1 }
  | none => standing

/-- What comes of forgetting components. -/
def forgetAll (diff? : Option Diff) (paths : List Path) : Fate :=
  match diff? with
  | some diff => (paths.foldl forget standing).publish output fun _ => .ok (.diff diff)
  | none => ⟨.ok .nothing, paths.foldl forget standing⟩

/-- Components have slots now, and the revision gained something. -/
def settle (slots : List (Path × Slot)) (gain : Nat) : Standing :=
  { standing with
    slot? := fun path =>
      ((slots.find? fun placed => placed.1.parts = path.parts).map Prod.snd).or (standing.slot? path)
    revision := standing.revision + gain }

/-- What comes of a call that got entries. -/
def goOn : Goal → Except String (List Entry) → Fate
  | _, .error reason => ⟨.error (.unavailable reason), standing⟩
  | .metadata name, .ok (entry :: _) =>
    standing.publish output fun snapshot => Pending.answer snapshot (.metadata name entry.outcome)
  | .all _, .ok _ => standing.publish output fun snapshot => .ok (.snapshot snapshot)
  | .published, .ok (entry :: _) =>
    standing.publish output fun snapshot => Pending.answer snapshot (.entry entry)
  | .plain, .ok entries => ⟨.ok (.entry entries.head?), standing⟩
  | _, .ok [] => ⟨.ok .nothing, standing⟩

end Standing

/-- What comes of writing the module without components. -/
def stubFate (output : Output) (engine : Engine) (artifact : Artifact) : Fate :=
  match artifact.fault? output with
  | some fault => ⟨.error fault, engine.standing⟩
  | none => ⟨.ok (.snapshot engine.published), engine.standing⟩

/-- What a call of an engine comes to that is alone. -/
def Call.fate (outside : Outside) (output : Output) (engine : Engine) : Call → Fate
  | .getting goal gets =>
    let ahead := Get.prospect outside engine.setup noFiles engine.cache
    (engine.standing.settle (gets.map fun get => (get.identity.path, (ahead get).slot))
      (gets.map fun get => (ahead get).gain).sum).goOn output goal
        (entriesOf (gets.map fun get => (ahead get).result?.getD (.error "")))
  | .forgetting paths diff? => engine.standing.forgetAll output diff? paths
  | .publishing pending .waiting =>
    engine.standing.publish output fun snapshot => Pending.answer snapshot pending
  | .publishing pending (.collecting revision rest shown) =>
    engine.standing.collect output (fun snapshot => Pending.answer snapshot pending) revision rest shown
  | .publishing pending (.writing snapshot artifacts) =>
    engine.standing.write output (fun snapshot => Pending.answer snapshot pending) snapshot artifacts
  | .lookingForStub artifact =>
    match output artifact.file (.look artifact.file) with
    | .there true => ⟨.ok (.snapshot engine.published), engine.standing⟩
    | _ => engine.stubFate output artifact
  | .writingStub artifact => engine.stubFate output artifact
  | .finished result => ⟨result, engine.standing⟩

/-- What the call with a number comes to. -/
def fate? (outside : Outside) (output : Output) (engine : Engine) (id : Nat) : Option Fate :=
  (engine.calls.get? id).map (Call.fate outside output engine)

variable {outside : Outside} {output : Output} {engine : Engine} {id : Nat}

theorem fate?_setCall (outside : Outside) (output : Output) (engine : Engine) (id : Nat) (call : Call) :
    (engine.setCall id call).fate? outside output id = some (call.fate outside output engine) := by
  rw [fate?, calls_setCall, if_pos rfl, Option.map_some]
  cases call with
  | publishing pending publication => cases publication <;> rfl
  | _ => rfl

theorem fate?_finish (outside : Outside) (output : Output) (engine : Engine) (id : Nat)
    (result : Except Fault Answer) :
    (engine.finish id result).fate? outside output id = some ⟨result, engine.standing⟩ := by
  rw [fate?, calls_finish, if_pos rfl, Option.map_some]
  rfl

theorem fate?_deliver (outside : Outside) (output : Output) (engine : Engine) (id : Nat)
    (pending : Pending) (snapshot : Snapshot) :
    (engine.deliver id pending snapshot).fate? outside output id =
      some ⟨Pending.answer snapshot pending, engine.standing⟩ := by
  rw [deliver_eq, fate?_finish]
  rfl

/-! ## Getting entries -/

/-- Entries are got on different paths, each alone there and faithful. -/
structure Gets (outside : Outside) (engine : Engine) (gets : List Get) : Prop where
  sound : engine.cache.Sound
  distinct : (gets.map fun get => get.identity.path.parts).Nodup
  alone : ∀ get ∈ gets, get.Alone engine.cache
  faithful : ∀ get ∈ gets, get.Faithful outside engine.setup engine.cache
  storesIn : ∀ get ∈ gets, get.StoresIn engine.setup engine.cache

variable {gets front back : List Get} {get : Get} {goal : Goal}

/-- Nothing changes when slots become what they are. -/
private theorem settle_self {slots : List (Path × Slot)}
    (there : ∀ placed ∈ slots, engine.cache.slot? placed.1 = some placed.2) :
    engine.standing.settle slots 0 = engine.standing := by
  refine Standing.ext rfl rfl rfl (funext fun path => ?_) rfl rfl rfl
  change ((slots.find? _).map Prod.snd).or (engine.cache.slot? path) = engine.cache.slot? path
  cases found : slots.find? fun placed => decide (placed.1.parts = path.parts) with
  | none => rfl
  | some placed =>
    have parts : placed.1.parts = path.parts := by simpa using List.find?_some found
    rw [← slot?_congr engine.cache parts, there placed (List.mem_of_find?_eq_some found)]
    rfl

/-- What a call comes to that has all entries. -/
private theorem fate_of_done (goal : Goal) (present : ∀ get ∈ gets, (engine.cache.slot? get.identity.path).isSome)
    {results : List (Except String Entry)} (done : gets.map Get.result? = results.map some) :
    Call.fate outside output engine (.getting goal gets) =
      engine.standing.goOn output goal (entriesOf results) := by
  have each : ∀ get ∈ gets, get.prospect outside engine.setup noFiles engine.cache =
      ⟨get.result?, engine.cache.slot get.identity.path, 0⟩ := by
    intro get member
    have there := List.mem_map_of_mem (f := Get.result?) member
    rw [done] at there
    obtain ⟨result, -, same⟩ := List.mem_map.mp there
    cases stage : get.stage with
    | done other => simp only [Get.prospect, Get.result?, stage]
    | _ => simp [Get.result?, stage] at same
  have slots : (gets.map fun get =>
      (get.identity.path, (get.prospect outside engine.setup noFiles engine.cache).slot)) =
      gets.map fun get => (get.identity.path, engine.cache.slot get.identity.path) :=
    List.map_congr_left fun get member => by rw [each get member]
  have gains : (gets.map fun get =>
      (get.prospect outside engine.setup noFiles engine.cache).gain) = gets.map fun _ => 0 :=
    List.map_congr_left fun get member => by rw [each get member]
  have answers : (gets.map fun get =>
      (get.prospect outside engine.setup noFiles engine.cache).result?.getD (.error "")) = results := by
    have got : (gets.map fun get =>
        (get.prospect outside engine.setup noFiles engine.cache).result?) = results.map some :=
      (List.map_congr_left fun get member => by rw [each get member]).trans done
    have unwrapped := congrArg (List.map (Option.getD · (.error ""))) got
    simpa [Function.comp_def] using unwrapped
  have settled : engine.standing.settle
      (gets.map fun get => (get.identity.path, engine.cache.slot get.identity.path)) 0 =
        engine.standing := by
    refine settle_self fun placed member => ?_
    obtain ⟨get, among, rfl⟩ := List.mem_map.mp member
    obtain ⟨slot, there⟩ := Option.isSome_iff_exists.mp (present get among)
    exact there.trans (congrArg some (slot_eq _ there).symm)
  simp only [Call.fate, slots, gains, answers, List.map_const', List.sum_replicate_nat, Nat.mul_zero,
    settled]

/-- Going on with what a call gets keeps what it comes to. -/
theorem fate?_withGets (id : Nat) (goal : Goal)
    (present : ∀ get ∈ gets, get.result? ≠ none → (engine.cache.slot? get.identity.path).isSome)
    (nonempty : gets = [] → ∃ before, goal = .all before) :
    (engine.withGets id goal gets).fate? outside output id =
      some (Call.fate outside output engine (.getting goal gets)) := by
  by_cases open_ : ∃ get ∈ gets, get.result? = none
  · obtain ⟨get, member, missing⟩ := open_
    rw [withGets_of_open engine id goal member missing]
    exact fate?_setCall ..
  · have all : ∀ get ∈ gets, get.result? ≠ none := fun get member missing =>
      open_ ⟨get, member, missing⟩
    obtain ⟨results, done⟩ := exists_results all
    rw [withGets_of_results engine id goal done,
      fate_of_done goal (fun get member => present get member (all get member)) done]
    rcases entriesOf_cases results with ⟨entries, rfl, got⟩ | ⟨front, reason, rest, rfl, first⟩
    · have none : entries = [] → gets = [] := by
        rintro rfl
        exact List.map_eq_nil_iff.mp done
      rw [got]
      cases goal with
      | metadata name =>
        cases entries with
        | nil => exact absurd (nonempty (none rfl)) (by simp)
        | cons entry entries => exact fate?_setCall ..
      | all before => cases entries <;> exact fate?_setCall ..
      | published =>
        cases entries with
        | nil => exact absurd (nonempty (none rfl)) (by simp)
        | cons entry entries => exact fate?_setCall ..
      | plain => cases entries <;> exact fate?_finish ..
    · rw [first]
      cases goal <;> exact fate?_finish ..

variable {need : Need} {reply : Reply} {held : Path → Option ByteArray}

/-- The other entries are got on other paths. -/
theorem Gets.apart (gets : Gets outside engine (front ++ get :: back)) :
    ∀ other ∈ front ++ back, get.identity.path.parts ≠ other.identity.path.parts := by
  have distinct := (List.nodup_cons.mp ((List.perm_middle.map _).nodup_iff.mp gets.distinct)).1
  exact fun other among same => distinct (List.mem_map.mpr ⟨other, among, same.symm⟩)

/-- A step for one of the entries. -/
theorem Gets.step (gets : Gets outside engine (front ++ get :: back))
    (needs : get.need? engine.setup engine.cache = some need) (tells : outside.Tells held need reply)
    (trusts : ∀ source, get.source? = some source →
      engine.setup.Trusts outside.answer held get.identity source) :
    Gets outside { engine with cache := (get.step engine.setup engine.cache reply).1 }
      (front ++ (get.step engine.setup engine.cache reply).2 :: back) := by
  have step := get.step_transition engine.setup engine.cache reply
  have mine := gets.alone get (by simp)
  have there : ∀ {other : Get}, other ∈ front ++ back → other ∈ front ++ get :: back := fun among =>
    mem_split_iff.mpr (.inr among)
  refine ⟨step.sound gets.sound, by simpa using gets.distinct, ?_, ?_, ?_⟩
  · intro other member
    rcases mem_split_iff.mp member with rfl | among
    · rw [get.step_snd]
      exact step.alone_self mine
    · exact step.alone_other gets.sound mine (gets.apart other among) (gets.alone other (there among))
  · intro other member
    rcases mem_split_iff.mp member with rfl | among
    · exact (gets.faithful get (by simp)).step mine needs tells trusts
    · exact (gets.faithful other (there among)).beside step gets.sound mine (gets.apart other among)
        (gets.alone other (there among))
  · intro other member
    rcases mem_split_iff.mp member with rfl | among
    · exact Get.storesIn_step (gets.storesIn get (by simp)) mine reply
    · exact Get.storesIn_other step gets.sound mine (gets.apart other among)
        (gets.alone other (there among)) (gets.storesIn other (there among))

private theorem map_split {β : Type} {next : Get} {f g : Get → β}
    (others : ∀ other ∈ front ++ back, g other = f other) (own : g next = f get) :
    (front ++ next :: back).map g = (front ++ get :: back).map f := by
  have both := List.map_congr_left others
  simp only [List.map_append, List.map_cons] at both ⊢
  obtain ⟨before, behind⟩ := List.append_inj both (by simp)
  rw [before, own, behind]

/-- A step for one of the entries keeps what the call comes to. -/
theorem Gets.fate_step (gets : Gets outside engine (front ++ get :: back))
    (needs : get.need? engine.setup engine.cache = some need) (tells : outside.Tells held need reply)
    (trusts : ∀ source, get.source? = some source →
      engine.setup.Trusts outside.answer held get.identity source) :
    Call.fate outside output { engine with cache := (get.step engine.setup engine.cache reply).1 }
        (.getting goal (front ++ (get.step engine.setup engine.cache reply).2 :: back)) =
      Call.fate outside output engine (.getting goal (front ++ get :: back)) := by
  have step := get.step_transition engine.setup engine.cache reply
  have mine := gets.alone get (by simp)
  obtain ⟨result, slot, gain⟩ := Get.keeps_plain mine needs tells trusts
  have others : ∀ other ∈ front ++ back, other.prospect outside engine.setup noFiles
      (get.step engine.setup engine.cache reply).1 =
        other.prospect outside engine.setup noFiles engine.cache := fun other among =>
    Get.prospect_other step gets.sound mine (gets.apart other among)
      (gets.alone other (mem_split_iff.mpr (.inr among))) fun _ _ => rfl
  have identity := get.identity_step engine.setup engine.cache reply
  have unseen : ∀ path : Path, get.identity.path.parts ≠ path.parts →
      (get.step engine.setup engine.cache reply).1.slot? path = engine.cache.slot? path :=
    fun path => step.slot?_other mine
  have generation := step.generation
  generalize (get.step engine.setup engine.cache reply).1 = cache at *
  generalize (get.step engine.setup engine.cache reply).2 = next at *
  have slots : (front ++ next :: back).map (fun get =>
      (get.identity.path, (get.prospect outside engine.setup noFiles cache).slot)) =
      (front ++ get :: back).map fun get =>
        (get.identity.path, (get.prospect outside engine.setup noFiles engine.cache).slot) :=
    map_split (fun other among => by rw [others other among]) (by rw [slot, identity])
  have answers : (front ++ next :: back).map (fun get =>
      (get.prospect outside engine.setup noFiles cache).result?.getD (.error "")) =
      (front ++ get :: back).map fun get =>
        (get.prospect outside engine.setup noFiles engine.cache).result?.getD (.error "") :=
    map_split (fun other among => by rw [others other among]) (by rw [result])
  have gains : (front ++ back).map (fun other =>
      (other.prospect outside engine.setup noFiles cache).gain) =
      (front ++ back).map fun other =>
        (other.prospect outside engine.setup noFiles engine.cache).gain :=
    List.map_congr_left fun other among => congrArg Prospect.gain (others other among)
  have settled : ∀ slots : List (Path × Slot), (∃ slot, (get.identity.path, slot) ∈ slots) →
      Standing.settle { engine with cache }.standing slots ((front ++ next :: back).map fun get =>
          (get.prospect outside engine.setup noFiles cache).gain).sum =
        engine.standing.settle slots ((front ++ get :: back).map fun get =>
          (get.prospect outside engine.setup noFiles engine.cache).gain).sum := by
    rintro slots ⟨slot, placed⟩
    refine Standing.ext rfl rfl rfl (funext fun path => ?_) ?_ generation rfl
    · change ((slots.find? _).map Prod.snd).or (cache.slot? path) =
        ((slots.find? _).map Prod.snd).or (engine.cache.slot? path)
      cases found : slots.find? fun placed => decide (placed.1.parts = path.parts) with
      | some _ => rfl
      | none =>
        have apart := List.find?_eq_none.mp found _ placed
        exact unseen path (by simpa using apart)
    · change cache.revision + _ = engine.cache.revision + _
      rw [sum_split, sum_split, gains]
      omega
  simp only [Call.fate, slots, answers]
  rw [settled]
  exact ⟨_, List.mem_map.mpr ⟨get, by simp, rfl⟩⟩

/-! ## Steps -/

/-- The published file that a call looks for or writes. -/
def Call.published? : Call → Option Artifact
  | .publishing _ (.writing _ (artifact :: _)) | .lookingForStub artifact
  | .writingStub artifact => some artifact
  | _ => none

/-- A call is told what is outside, and gets the replies for its published files. -/
def Call.Told (outside : Outside) (output : Output) (held : Path → Option ByteArray) (call : Call)
    (need : Need) (reply : Reply) : Prop :=
  match call.published? with
  | some artifact => reply = output artifact.file need
  | none => outside.Tells held need reply

/-- What a call gets is got faithfully, and what is stored for it is what would be found. -/
def Call.Trusting (outside : Outside) (held : Path → Option ByteArray) (engine : Engine) (call : Call) :
    Prop :=
  ∀ goal gets, call = .getting goal gets → Gets outside engine gets ∧
    ∀ get ∈ gets, ∀ source, get.source? = some source →
      engine.setup.Trusts outside.answer held get.identity source

private theorem standing_remove (engine : Engine) (path : Path) :
    (engine.changeCache (·.remove path)).standing = engine.standing.forget path := by
  unfold Standing.forget
  have slots := fun other => engine.cache.slot?_remove path other
  cases present : engine.standing.slot? path with
  | some slot =>
    have there : engine.cache.slot? path = some slot := present
    refine Standing.ext rfl rfl rfl (funext slots) ?_ ?_ rfl <;>
      simp [standing, changeCache, Cache.remove, there]
  | none =>
    have there : engine.cache.slot? path = none := present
    simp [standing, changeCache, Cache.remove, there]

private theorem fate_forgetting (engine : Engine) (path : Path) (rest : List Path)
    (diff? : Option Diff) :
    Call.fate outside output (engine.changeCache (·.remove path)) (.forgetting rest diff?) =
      Call.fate outside output engine (.forgetting (path :: rest) diff?) := by
  simp only [Call.fate, Standing.forgetAll, standing_remove, List.foldl_cons]

variable {index : Nat}

/-- A call that writes a published file gets the reply for that. -/
private theorem reply_of_writing {call : Call} {artifact : Artifact} (now : engine.calls.get? id = some call)
    (writing : (∃ pending snapshot rest, call = .publishing pending (.writing snapshot (artifact :: rest))) ∨
      call = .writingStub artifact)
    (needs : engine.need? id index = some need) (told : call.Told outside output held need reply) :
    reply = output artifact.file artifact.need := by
  rcases writing with ⟨pending, snapshot, rest, rfl⟩ | rfl
  · obtain rfl : need = artifact.need := by simpa [need?, now] using needs.symm
    exact told
  · obtain rfl : need = artifact.need := by simpa [need?, now] using needs.symm
    exact told

/-- A call comes to the same behind a step for one of the entries that it gets. -/
private theorem Gets.fate?_stepped (own : Gets outside engine gets) (this : gets[index]? = some get)
    (needs : get.need? engine.setup engine.cache = some need) (tells : outside.Tells held need reply)
    (trusts : ∀ source, get.source? = some source →
      engine.setup.Trusts outside.answer held get.identity source) :
    ({ engine with cache := (get.step engine.setup engine.cache reply).1 }.withGets id goal
        (gets.set index (get.step engine.setup engine.cache reply).2)).fate? outside output id =
      some (Call.fate outside output engine (.getting goal gets)) := by
  obtain ⟨front, back, rfl, set⟩ := exists_split this
  have after := own.step needs tells trusts
  rw [set, fate?_withGets id goal _ (by simp)]
  · exact congrArg some (own.fate_step needs tells trusts)
  · intro other member got
    refine (after.faithful other member).present ?_ ?_
    · intro reading
      simp [Get.result?, reading] at got
    · intro source looking
      simp [Get.result?, looking] at got

/-- Each step of a call that is told what it needs keeps what it comes to. -/
theorem fate?_step {call : Call} (now : engine.calls.get? id = some call)
    (trusting : call.Trusting outside held engine) (needs : engine.need? id index = some need)
    (told : call.Told outside output held need reply)
    (fits : ∀ file (need : Need), need.Fits (output file need)) :
    (engine.step id index reply).fate? outside output id = engine.fate? outside output id := by
  have here : engine.fate? outside output id = some (call.fate outside output engine) := by
    rw [fate?, now, Option.map_some]
  have spec := engine.step_spec id index reply
  generalize engine.step id index reply = next at spec
  rw [here]
  cases spec with
  | rest => exact here
  | @get goal gets get there this =>
    cases now.symm.trans there
    obtain ⟨own, trusts⟩ := trusting goal gets rfl
    simp only [need?, there, this, Option.bind_some] at needs
    exact own.fate?_stepped this needs told (trusts get (List.mem_of_getElem? this))
  | forget there =>
    cases now.symm.trans there
    rw [fate?_setCall, fate_forgetting]
  | forgotten there =>
    cases now.symm.trans there
    exact fate?_setCall ..
  | removed there =>
    cases now.symm.trans there
    exact fate?_finish ..
  | reuse there _ current =>
    cases now.symm.trans there
    rw [fate?_deliver, Call.fate, Standing.publish]
    exact congrArg some (if_pos current).symm
  | turn there _ outdated =>
    cases now.symm.trans there
    rw [fate?_setCall, Call.fate, Call.fate, Standing.publish]
    exact congrArg some (if_neg outdated).symm
  | collect there =>
    cases now.symm.trans there
    rw [fate?_setCall, Call.fate, Call.fate, collect_eq]
    rfl
  | publish there =>
    cases now.symm.trans there
    exact fate?_setCall ..
  | @write pending snapshot artifact next rest there going =>
    cases now.symm.trans there
    obtain rfl := reply_of_writing there (.inl ⟨_, _, _, rfl⟩) needs told
    rw [fate?_setCall, Call.fate, Call.fate, Standing.write, Standing.write, List.findSome?_cons,
      List.findSome?_cons, Artifact.fault?_of_going fits going]
  | @written pending snapshot artifact rest there written =>
    cases now.symm.trans there
    obtain rfl := reply_of_writing there (.inl ⟨_, _, _, rfl⟩) needs told
    rw [fate?_setCall, Call.fate, Call.fate, Standing.write, Standing.write, List.findSome?_cons,
      Artifact.fault?_of_written written]
  | @failed pending snapshot artifact rest fault there failed =>
    cases now.symm.trans there
    obtain rfl := reply_of_writing there (.inl ⟨_, _, _, rfl⟩) needs told
    rw [fate?_finish, Call.fate, Standing.write, List.findSome?_cons, Artifact.fault?_of_failed failed]
  | deliver there =>
    cases now.symm.trans there
    exact fate?_deliver ..
  | @stubThere artifact there yes =>
    cases now.symm.trans there
    have own : need = .look artifact.file := by simpa [need?, there] using needs.symm
    have looked : output artifact.file (.look artifact.file) = .there true := own ▸ told.symm.trans yes
    rw [fate?_finish, Call.fate, looked]
  | @stubMissing artifact there no =>
    cases now.symm.trans there
    have own : need = .look artifact.file := by simpa [need?, there] using needs.symm
    have looked : output artifact.file (.look artifact.file) = .there false := own ▸ told.symm.trans no
    rw [fate?_setCall, Call.fate, Call.fate, looked]
  | @stubWrite artifact next there going =>
    cases now.symm.trans there
    obtain rfl := reply_of_writing there (.inr rfl) needs told
    rw [fate?_setCall, Call.fate, Call.fate, stubFate, stubFate, Artifact.fault?_of_going fits going]
  | @stubWritten artifact there written =>
    cases now.symm.trans there
    obtain rfl := reply_of_writing there (.inr rfl) needs told
    rw [fate?_finish, Call.fate, stubFate, Artifact.fault?_of_written written]
  | @stubFailed artifact fault there failed =>
    cases now.symm.trans there
    obtain rfl := reply_of_writing there (.inr rfl) needs told
    rw [fate?_finish, Call.fate, stubFate, Artifact.fault?_of_failed failed]

/-! ## Beginnings -/

/-- What is known at a path holds no longer. -/
def Standing.invalidate (standing : Standing) (path : Path) : Standing :=
  { standing with slot? := fun other =>
      if path.parts = other.parts then (standing.slot? other).map Slot.invalidate
      else standing.slot? other }

/-- Nothing that is known holds any longer. -/
def Standing.invalidateAll (standing : Standing) : Standing :=
  { standing with slot? := fun path => (standing.slot? path).map Slot.invalidate }

/-- What comes of taking a snapshot that is not published. -/
def Standing.takeSnapshot (standing : Standing) : Fate :=
  ⟨.ok (.snapshot (standing.snapshot standing.revision standing.registry.list [])),
    { standing with generation := standing.generation + 1 }⟩

theorem standing_invalidate (engine : Engine) (path : Path) :
    (engine.changeCache (·.invalidate path)).standing = engine.standing.invalidate path :=
  Standing.ext rfl rfl rfl (funext fun other => slot?_invalidate engine.cache path other)
    (revision_invalidate ..) (generation_invalidate ..) rfl

theorem standing_invalidateAll (engine : Engine) :
    (engine.changeCache Cache.invalidateAll).standing = engine.standing.invalidateAll :=
  Standing.ext rfl rfl rfl (funext fun path => slot?_invalidateAll engine.cache path) rfl rfl rfl

theorem takeSnapshot_eq (engine : Engine) :
    Fate.mk (.ok (.snapshot engine.takeSnapshot.2)) engine.takeSnapshot.1.standing =
      engine.standing.takeSnapshot := by
  have collected : engine.cache.collect =
      fun shown identity => (engine.cache.slot identity.path).showIn shown identity := by
    funext shown identity
    exact engine.cache.collect_eq shown identity
  simp only [takeSnapshot, Cache.snapshot, collected]
  rfl

variable {other : Engine} {id' : Nat}

private theorem goOn_all (output : Output) (standing : Standing) (before before' : Nat)
    (entries : Except String (List Entry)) :
    standing.goOn output (.all before) entries = standing.goOn output (.all before') entries := by
  cases entries with
  | error reason => rfl
  | ok entries => cases entries <;> rfl

/-- What comes of beginning to get entries depends on how the engine stands alone. -/
private theorem fate?_begin_gets (standing : other.standing = engine.standing)
    (setup : other.setup.storeless = engine.setup.storeless) {goal goal' : Goal}
    (goals : goal' = goal ∨ ∃ before before', goal = .all before ∧ goal' = .all before')
    (identities : List Identity) (nonempty : identities = [] → ∃ before, goal = .all before) :
    (other.withGets id' goal' (identities.map fun identity => { identity })).fate? outside output id' =
      (engine.withGets id goal (identities.map fun identity => { identity })).fate? outside output id := by
  have unread : ∀ (engine : Engine),
      ∀ get ∈ identities.map (fun identity => ({ identity } : Get)), get.result? ≠ none →
        (engine.cache.slot? get.identity.path).isSome := by
    intro engine get member got
    obtain ⟨identity, -, rfl⟩ := List.mem_map.mp member
    exact absurd rfl got
  have nonempty' : identities = [] → ∃ before, goal' = .all before := by
    intro none
    rcases goals with rfl | ⟨-, before, -, all⟩
    · exact nonempty none
    · exact ⟨before, all⟩
  rw [fate?_withGets id' goal' (unread other) (nonempty' ∘ List.map_eq_nil_iff.mp),
    fate?_withGets id goal (unread engine) (nonempty ∘ List.map_eq_nil_iff.mp)]
  have ahead : ∀ identity : Identity,
      Get.prospect outside other.setup noFiles other.cache { identity } =
        Get.prospect outside engine.setup noFiles engine.cache { identity } := by
    intro identity
    have known := congrFun (congrArg Standing.slot? standing) identity.path
    exact Get.prospect_begin_congr outside setup (congrArg (Option.getD · ({} : Slot)) known)
  simp only [Call.fate, List.map_map, Function.comp_def, ahead, standing]
  rcases goals with rfl | ⟨before, before', rfl, rfl⟩
  · rfl
  · exact congrArg some (goOn_all ..)

private theorem fate?_begin_get (standing : other.standing = engine.standing)
    (setup : other.setup.storeless = engine.setup.storeless) (goal : Goal) (identity : Identity) :
    (other.withGets id' goal [{ identity }]).fate? outside output id' =
      (engine.withGets id goal [{ identity }]).fate? outside output id :=
  fate?_begin_gets standing setup (.inl rfl) [identity] (by simp)

private theorem fate?_withDiff (outside : Outside) (output : Output) (engine : Engine) (id : Nat)
    (diff : Diff) :
    (engine.withDiff id diff).fate? outside output id = some
      (if diff.isEmpty then ⟨.ok (.diff diff), engine.standing⟩
        else engine.standing.forgetAll output (some diff) (diff.removed.map Identity.path)) := by
  unfold withDiff
  split
  · exact fate?_finish ..
  · exact fate?_setCall ..

/-- What a call comes to that is made between calls depends on how the engine stands alone. -/
theorem fate?_start (outside : Outside) (output : Output) (standing : other.standing = engine.standing)
    (setup : other.setup.storeless = engine.setup.storeless) (id id' : Nat) (job : Job) :
    (other.start id' job).fate? outside output id' = (engine.start id job).fate? outside output id := by
  have registry : other.registry = engine.registry := congrArg Standing.registry standing
  cases job with
  | sync descriptors =>
    have behind : ∀ (engine : Engine) (registry : Registry) (notices : List Notice),
        Engine.standing { engine with registry, cache := { engine.cache with notices } } =
          { engine.standing with registry } := fun _ _ _ => rfl
    simp only [start, foldl_tell, fate?_withDiff, registry]
    rw [behind other, behind engine, standing]
  | parse identity => exact fate?_begin_get standing setup (.metadata identity.name) identity
  | parseNamed name =>
    simp only [start, registry]
    split
    · next identity _ => exact fate?_begin_get standing setup (.metadata identity.name) identity
    · rw [fate?_finish, fate?_finish, standing]
  | parseAll =>
    simp only [start, registry]
    exact fate?_begin_gets standing setup (.inr ⟨_, _, rfl, rfl⟩) engine.registry.list fun _ => ⟨_, rfl⟩
  | changed path =>
    simp only [start, registry]
    split
    · next identity _ =>
      have behind : (other.changeCache (·.invalidate path)).standing =
          (engine.changeCache (·.invalidate path)).standing := by
        rw [standing_invalidate, standing_invalidate, standing]
      exact fate?_begin_get behind setup .published identity
    · rw [fate?_finish, fate?_finish, standing]
  | get identity => exact fate?_begin_get standing setup .plain identity
  | forget path =>
    simp only [start]
    rw [fate?_setCall, fate?_setCall, Call.fate, Call.fate, standing]
  | stub =>
    have dir : other.outputDir? = engine.outputDir? := congrArg Standing.outputDir? standing
    have published : other.published = engine.published := congrArg Standing.published standing
    simp only [start, dir]
    split
    · simp only [fate?_setCall, Call.fate, stubFate, standing, published]
    · rw [fate?_finish, fate?_finish, standing, published]

end Engine

end ComponentCatalog
