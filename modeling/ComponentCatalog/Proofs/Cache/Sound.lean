import ComponentCatalog.Proofs.Cache.Steps

/-! # What holds in every cache

A slot, the analyses and the calls that wait are tied together: what is on its way to a slot is an
open analysis of its path, what a slot shows was recorded by an analysis of its path or could not be
read, and a fingerprint that holds is that of the entry shown. `Sound` says so, and each operation
preserves it. `Extends` says what no operation takes back.
-/

namespace ComponentCatalog

open Component

namespace Cache

/-! ## What stays -/

namespace Analysis

/-- An analysis is open until its result is recorded. -/
def Open (analysis : Analysis) : Prop := ∀ result, analysis.stage ≠ .recorded result

/-- What later steps leave of an analysis. -/
structure Extends (old new : Analysis) : Prop where
  identity : new.identity = old.identity
  source : new.source = old.source
  fingerprint : new.fingerprint = old.fingerprint
  result : ∀ result, old.result? = some result → new.result? = some result
  recorded : ∀ result, old.stage = .recorded result → new = old

theorem Extends.refl (analysis : Analysis) : analysis.Extends analysis :=
  ⟨rfl, rfl, rfl, fun _ found => found, fun _ _ => rfl⟩

theorem Extends.trans {first middle last : Analysis} (left : first.Extends middle)
    (right : middle.Extends last) : first.Extends last where
  identity := right.identity.trans left.identity
  source := right.source.trans left.source
  fingerprint := right.fingerprint.trans left.fingerprint
  result := fun result found => right.result result (left.result result found)
  recorded := by
    intro result recorded
    have same := left.recorded result recorded
    rw [← same] at recorded
    rw [right.recorded result recorded, same]

/-- An analysis without a result can come to any stage. -/
theorem Extends.of_going {analysis : Analysis} (going : analysis.result? = none)
    (stage : Cache.Stage) : analysis.Extends { analysis with stage } where
  identity := rfl
  source := rfl
  fingerprint := rfl
  result := by simp [going]
  recorded := by
    intro result recorded
    simp [result?, recorded] at going

/-- An analysis that found a result comes to have it recorded. -/
theorem Extends.of_found {analysis : Analysis} {result : Except String Entry}
    (found : analysis.stage = .found result) :
    analysis.Extends { analysis with stage := .recorded result } where
  identity := rfl
  source := rfl
  fingerprint := rfl
  result := by simp [result?, found]
  recorded := by simp [found]

end Analysis

/-- What no operation takes back: analyses go on, and numbers grow. -/
structure Extends (old new : Cache) : Prop where
  tasks : ∀ ⦃task analysis⦄, old.tasks.get? task = some analysis →
    ∃ later, new.tasks.get? task = some later ∧ analysis.Extends later
  nextTask : old.nextTask ≤ new.nextTask
  revision : old.revision ≤ new.revision

theorem Extends.refl (cache : Cache) : cache.Extends cache :=
  ⟨fun _ _ present => ⟨_, present, .refl _⟩, Nat.le_refl _, Nat.le_refl _⟩

theorem Extends.trans {first middle last : Cache} (left : first.Extends middle)
    (right : middle.Extends last) : first.Extends last where
  tasks := by
    intro task analysis present
    obtain ⟨later, present, grows⟩ := left.tasks present
    obtain ⟨latest, present, grows'⟩ := right.tasks present
    exact ⟨latest, present, grows.trans grows'⟩
  nextTask := Nat.le_trans left.nextTask right.nextTask
  revision := Nat.le_trans left.revision right.revision

theorem Extends.of_tasks_eq {old new : Cache} (tasks : new.tasks = old.tasks)
    (nextTask : old.nextTask ≤ new.nextTask) (revision : old.revision ≤ new.revision) :
    old.Extends new :=
  ⟨fun _ _ present => ⟨_, tasks ▸ present, .refl _⟩, nextTask, revision⟩

/-- A task that goes on extends the cache, whatever becomes of the slots. -/
theorem Extends.of_set {old new : Cache} {task : Nat} {analysis later : Analysis}
    (present : old.tasks.get? task = some analysis) (grows : analysis.Extends later)
    (tasks : new.tasks = old.tasks.set task later) (nextTask : old.nextTask ≤ new.nextTask)
    (revision : old.revision ≤ new.revision) : old.Extends new := by
  refine ⟨?_, nextTask, revision⟩
  intro other found there
  rw [tasks, Table.get?_set]
  split
  · next same =>
    obtain rfl : analysis = found := by
      rw [same] at present
      exact Option.some.inj (present.symm.trans there)
    exact ⟨later, rfl, grows⟩
  · exact ⟨found, there, .refl _⟩

/-! ## Slots and analyses -/

/-- What holds of an analysis by itself. -/
structure Analysis.Sound (analysis : Analysis) : Prop where
  hashed : analysis.fingerprint = Fingerprint.compute analysis.identity.path analysis.source
  found : ∀ entry, analysis.result? = some (.ok entry) →
    ∃ outcome, entry = analysis.entry outcome

/-- What holds of the slot of a path, given the analyses. -/
structure Slot.Sound (tasks : Table Nat Analysis) (path : Path) (slot : Slot) : Prop where
  flight : ∀ flight, slot.inFlight? = some flight →
    ∃ analysis, tasks.get? flight.task = some analysis ∧
      analysis.identity.path.parts = path.parts ∧ analysis.fingerprint = flight.fingerprint ∧
      analysis.Open
  last : ∀ entry, slot.last? = some entry →
    (∃ identity fault, identity.path.parts = path.parts ∧ entry = unreadableEntry identity fault) ∨
    ∃ task analysis, tasks.get? task = some analysis ∧
      analysis.identity.path.parts = path.parts ∧ analysis.stage = .recorded (.ok entry)
  held : ∀ fingerprint, slot.fingerprint? = some fingerprint →
    ∃ entry, slot.last? = some entry ∧ entry.fingerprint? = some fingerprint
  invalidated : ∀ flight, slot.inFlight? = some flight → flight.invalidated →
    slot.fingerprint? = none

/-- What holds in every cache. -/
structure Sound (cache : Cache) : Prop where
  numbered : ∀ ⦃task analysis⦄, cache.tasks.get? task = some analysis → task < cache.nextTask
  analyses : ∀ ⦃task analysis⦄, cache.tasks.get? task = some analysis → analysis.Sound
  slots : ∀ ⦃path slot⦄, cache.slot? path = some slot → slot.Sound cache.tasks path

theorem Sound.empty : ({} : Cache).Sound where
  numbered := by simp [Table.get?]
  analyses := by simp [Table.get?]
  slots := by simp [slot?, Table.get?]

theorem Slot.Sound.empty (tasks : Table Nat Analysis) (path : Path) :
    Slot.Sound tasks path {} where
  flight := by simp
  last := by simp
  held := by simp
  invalidated := by simp

/-- The slot of a path is sound, also if there is nothing in it yet. -/
theorem Sound.slot {cache : Cache} (sound : cache.Sound) (path : Path) :
    (cache.slot path).Sound cache.tasks path := by
  cases present : cache.slot? path with
  | some slot =>
    rw [slot_eq cache present]
    exact sound.slots present
  | none =>
    simp only [Cache.slot, present, Option.getD_none]
    exact .empty cache.tasks path

theorem Slot.Sound.congr {tasks : Table Nat Analysis} {path other : Path} {slot : Slot}
    (sound : slot.Sound tasks path) (same : path.parts = other.parts) : slot.Sound tasks other where
  flight := by simpa only [same] using sound.flight
  last := by simpa only [same] using sound.last
  held := sound.held
  invalidated := sound.invalidated

/-- A slot stays sound while analyses go on, if the one on its way to it stays open. -/
theorem Slot.Sound.mono {tasks tasks' : Table Nat Analysis} {path : Path} {slot : Slot}
    (sound : slot.Sound tasks path)
    (goes : ∀ task analysis, tasks.get? task = some analysis →
      ∃ later, tasks'.get? task = some later ∧ analysis.Extends later)
    (opens : ∀ flight later, slot.inFlight? = some flight →
      tasks'.get? flight.task = some later → later.Open) :
    slot.Sound tasks' path where
  flight := by
    intro flight flying
    obtain ⟨analysis, present, parts, fingerprint, -⟩ := sound.flight flight flying
    obtain ⟨later, there, grows⟩ := goes _ _ present
    exact ⟨later, there, by rw [grows.identity, parts],
      by rw [grows.fingerprint, fingerprint], opens _ _ flying there⟩
  last := by
    intro entry last
    rcases sound.last entry last with unreadable | ⟨task, analysis, present, parts, recorded⟩
    · exact .inl unreadable
    · obtain ⟨later, there, grows⟩ := goes _ _ present
      rw [grows.recorded _ recorded] at there
      exact .inr ⟨task, analysis, there, parts, recorded⟩
  held := sound.held
  invalidated := sound.invalidated

/-- A slot stays sound while one analysis goes on, if it stays open should it be on its way there. -/
theorem Slot.Sound.set {tasks : Table Nat Analysis} {path : Path} {slot : Slot}
    (sound : slot.Sound tasks path) {task : Nat} {analysis later : Analysis}
    (present : tasks.get? task = some analysis) (grows : analysis.Extends later)
    (opens : ∀ flight, slot.inFlight? = some flight → flight.task = task → later.Open) :
    slot.Sound (tasks.set task later) path := by
  refine sound.mono ?_ ?_
  · intro other before there
    rw [Table.get?_set]
    split
    · next same =>
      rw [← same, present] at there
      cases there
      exact ⟨later, rfl, grows⟩
    · exact ⟨before, there, .refl before⟩
  · intro flight after flying there
    obtain ⟨other, known, -, -, opened⟩ := sound.flight flight flying
    rw [Table.get?_set] at there
    split at there
    · next same =>
      cases there
      exact opens flight flying same.symm
    · rw [known] at there
      cases there
      exact opened

theorem Slot.Sound.landed {tasks : Table Nat Analysis} {path : Path} {slot : Slot}
    (sound : slot.Sound tasks path) : slot.landed.Sound tasks path :=
  ⟨by simp [Slot.landed], sound.last, sound.held, by simp [Slot.landed]⟩

/-- The slot in which the analysis on its way there leaves its entry. -/
theorem Slot.Sound.recorded {tasks : Table Nat Analysis} {path : Path} {flight : InFlight}
    {analysis : Analysis} {entry : Entry} (there : tasks.get? flight.task = some analysis)
    (parts : analysis.identity.path.parts = path.parts)
    (recorded : analysis.stage = .recorded (.ok entry))
    (prints : entry.fingerprint? = some flight.fingerprint) :
    (Slot.recorded flight entry).Sound tasks path where
  flight := by simp [Slot.recorded]
  last := by
    intro last shown
    cases shown
    exact .inr ⟨flight.task, analysis, there, parts, recorded⟩
  held := by
    intro fingerprint held
    simp only [Slot.recorded] at held
    split at held
    · cases held
    · cases held
      exact ⟨entry, rfl, prints⟩
  invalidated := by simp [Slot.recorded]

/-- Invalidation takes the fingerprint, and marks what is on its way. -/
theorem Slot.Sound.invalidate {tasks : Table Nat Analysis} {path : Path} {slot : Slot}
    (sound : slot.Sound tasks path) : slot.invalidate.Sound tasks path where
  flight := by
    intro flight flying
    obtain ⟨before, flown, rfl⟩ := Option.map_eq_some_iff.mp flying
    exact sound.flight before flown
  last := sound.last
  held := by simp [Slot.invalidate]
  invalidated := by simp [Slot.invalidate]

/-! ## Each operation preserves it -/

private theorem Sound.of_tasks_eq {old new : Cache} (sound : old.Sound)
    (tasks : new.tasks = old.tasks) (nextTask : new.nextTask = old.nextTask)
    (slots : ∀ ⦃path slot⦄, new.slot? path = some slot → slot.Sound old.tasks path) : new.Sound where
  numbered := by rw [tasks, nextTask]; exact sound.numbered
  analyses := by rw [tasks]; exact sound.analyses
  slots := by rw [tasks]; exact slots

/-- What neither slots nor analyses show is free. -/
theorem Sound.of_eq {old new : Cache} (sound : old.Sound) (slots : new.slots = old.slots)
    (tasks : new.tasks = old.tasks) (nextTask : new.nextTask = old.nextTask) : new.Sound := by
  refine sound.of_tasks_eq tasks nextTask fun _ _ present => sound.slots ?_
  rwa [slot?, slots] at present

theorem Extends.recordUnreadable (cache : Cache) (identity : Identity) (fault : Files.Fault) :
    cache.Extends (cache.recordUnreadable identity fault) := by
  refine .of_tasks_eq (by simp) (by simp) ?_
  rcases recordUnreadable_cases cache identity fault with ⟨_, eq⟩ | ⟨_, eq⟩
  · simp [eq]
  · simp [eq]

theorem Sound.recordUnreadable {cache : Cache} (sound : cache.Sound) (identity : Identity)
    (fault : Files.Fault) : (cache.recordUnreadable identity fault).Sound := by
  refine sound.of_tasks_eq (by simp) (by simp) ?_
  intro path slot present
  rw [slot?_recordUnreadable] at present
  split at present
  · next here =>
    cases present
    exact ⟨by simp [Slot.unreadable],
      fun entry last => .inl ⟨identity, fault, here.1, by simpa [Slot.unreadable, eq_comm] using last⟩,
      by simp [Slot.unreadable], by simp [Slot.unreadable]⟩
  · exact sound.slots present

theorem Extends.launched {cache : Cache} (sound : cache.Sound) (identity : Identity)
    (fingerprint : Fingerprint) (source : String) :
    cache.Extends (cache.launched identity fingerprint source) := by
  refine ⟨?_, Nat.le_succ _, Nat.le_refl _⟩
  intro task analysis present
  have older := sound.numbered present
  refine ⟨analysis, ?_, .refl _⟩
  rw [tasks_launched, if_neg (by omega)]
  exact present

/-- An analysis that is started is open, and nothing else waits for it. -/
theorem Sound.launched {cache : Cache} (sound : cache.Sound) {identity : Identity}
    {fingerprint : Fingerprint} {source : String}
    (hashed : fingerprint = Fingerprint.compute identity.path source) :
    (cache.launched identity fingerprint source).Sound := by
  have goes := (Extends.launched sound identity fingerprint source).tasks
  refine ⟨?_, ?_, ?_⟩
  · intro task analysis present
    rw [tasks_launched] at present
    have next : (cache.launched identity fingerprint source).nextTask = cache.nextTask + 1 := rfl
    split at present
    · omega
    · have older := sound.numbered present
      omega
  · intro task analysis present
    rw [tasks_launched] at present
    split at present
    · cases present
      exact ⟨hashed, by simp [Analysis.result?]⟩
    · exact sound.analyses present
  · intro path slot present
    rw [slot?_launched] at present
    split at present
    · next same =>
      cases present
      have before := ((sound.slot identity.path).congr same).landed.mono (fun _ _ => (goes ·))
        (by simp [Slot.landed])
      refine ⟨?_, before.last, before.held, by simp⟩
      intro flight flying
      cases flying
      refine ⟨{ identity, source, fingerprint }, ?_, same, rfl, by simp [Analysis.Open]⟩
      rw [tasks_launched, if_pos rfl]
    · have before := sound.slots present
      refine before.mono (fun _ _ => (goes ·)) ?_
      intro flight later flying there
      obtain ⟨analysis, known, _, _, opened⟩ := before.flight flight flying
      have older := sound.numbered known
      rw [tasks_launched, if_neg (by omega), known] at there
      cases there
      exact opened

theorem Sound.invalidate {cache : Cache} (sound : cache.Sound) (path : Path) :
    (cache.invalidate path).Sound := by
  refine sound.of_tasks_eq (by simp) (by simp) ?_
  intro other slot present
  rw [slot?_invalidate] at present
  split at present
  · obtain ⟨before, there, rfl⟩ := Option.map_eq_some_iff.mp present
    exact (sound.slots there).invalidate
  · exact sound.slots present

theorem Sound.invalidateAll {cache : Cache} (sound : cache.Sound) : cache.invalidateAll.Sound := by
  refine sound.of_tasks_eq rfl rfl ?_
  intro other slot present
  rw [slot?_invalidateAll] at present
  obtain ⟨before, there, rfl⟩ := Option.map_eq_some_iff.mp present
  exact (sound.slots there).invalidate

theorem Extends.invalidate (cache : Cache) (path : Path) :
    cache.Extends (cache.invalidate path) :=
  .of_tasks_eq (by simp) (by simp) (by simp)

theorem Sound.remove {cache : Cache} (sound : cache.Sound) (path : Path) :
    (cache.remove path).Sound := by
  refine sound.of_tasks_eq (by simp) (by simp) ?_
  intro other slot present
  rw [slot?_remove] at present
  split at present
  · cases present
  · exact sound.slots present

theorem Extends.remove (cache : Cache) (path : Path) : cache.Extends (cache.remove path) := by
  refine .of_tasks_eq (by simp) (by simp) ?_
  unfold Cache.remove
  split
  · exact Nat.le_succ _
  · exact Nat.le_refl _

/-- A cache in which one task went on is sound if the task and the slots are. -/
theorem Sound.of_set {old new : Cache} (sound : old.Sound) {task : Nat} {analysis later : Analysis}
    (present : old.tasks.get? task = some analysis) (laterSound : later.Sound)
    (tasks : new.tasks = old.tasks.set task later) (nextTask : new.nextTask = old.nextTask)
    (slots : ∀ ⦃path slot⦄, new.slot? path = some slot → slot.Sound new.tasks path) :
    new.Sound := by
  refine ⟨?_, ?_, slots⟩
  · intro other after there
    rw [tasks, Table.get?_set] at there
    rw [nextTask]
    split at there
    · next same => exact same ▸ sound.numbered present
    · exact sound.numbered there
  · intro other after there
    rw [tasks, Table.get?_set] at there
    split at there
    · cases there
      exact laterSound
    · exact sound.analyses there

/-- An analysis without a result goes on. -/
theorem Sound.work {cache : Cache} (sound : cache.Sound) {task : Nat} {analysis : Analysis}
    {stage : Stage} (present : cache.tasks.get? task = some analysis)
    (going : analysis.result? = none) (opened : ∀ result, stage ≠ .recorded result)
    (found : ∀ entry, stage = .found (.ok entry) → ∃ outcome, entry = analysis.entry outcome) :
    Sound { cache with tasks := cache.tasks.set task { analysis with stage } } := by
  have later : Analysis.Sound { analysis with stage } := by
    refine ⟨(sound.analyses present).hashed, fun entry result => ?_⟩
    cases stage with
    | found got => exact found entry (by simpa [Analysis.result?] using result)
    | recorded got => exact absurd rfl (opened got)
    | _ => simp [Analysis.result?] at result
  exact sound.of_set present later rfl rfl fun path slot there =>
    (sound.slots there).set present (.of_going going stage) fun _ _ _ => opened

theorem Extends.finish (cache : Cache) (path : Path) (task : Nat) (result? : Option Entry) :
    cache.Extends (cache.finish path task result?) := by
  refine .of_tasks_eq (by simp) (by simp) ?_
  rcases finish_cases cache path task result? with
    ⟨_, eq⟩ | ⟨_, _, _, _, _, ⟨_, _, eq⟩ | ⟨_, eq⟩⟩ <;> simp [eq]

theorem Extends.recorded {cache : Cache} {task : Nat} {analysis : Analysis}
    {result : Except String Entry} (present : cache.tasks.get? task = some analysis)
    (found : analysis.stage = .found result) : cache.Extends (cache.recorded task analysis result) :=
  .of_set present (.of_found found) rfl
    (Extends.finish cache analysis.identity.path task result.toOption).nextTask
    (Extends.finish cache analysis.identity.path task result.toOption).revision

/-- A task records its result. -/
theorem Sound.recorded {cache : Cache} (sound : cache.Sound) {task : Nat} {analysis : Analysis}
    {result : Except String Entry} (present : cache.tasks.get? task = some analysis)
    (found : analysis.stage = .found result) : (cache.recorded task analysis result).Sound := by
  have grows := Analysis.Extends.of_found found
  have entries := (sound.analyses present).found
  rw [Analysis.result?_of_found found] at entries
  have later : Analysis.Sound { analysis with stage := .recorded result } :=
    ⟨(sound.analyses present).hashed, entries⟩
  refine sound.of_set present later rfl (by simp [Cache.recorded]) fun path slot there => ?_
  rcases slot?_recorded cache task analysis result path with
    ⟨same, idle⟩ | ⟨same, before, flight, known, flying, number,
      ⟨entry, rfl, after⟩ | ⟨reason, rfl, after⟩⟩
  · rw [same] at there
    refine (sound.slots there).set present grows fun flight flying number => ?_
    obtain ⟨other, known, parts, -⟩ := (sound.slots there).flight flight flying
    rw [number, present] at known
    cases known
    exact absurd ⟨slot, flight, there, flying, number⟩ (idle parts)
  · obtain rfl : Slot.recorded flight entry = slot := Option.some.inj (after.symm.trans there)
    obtain ⟨outcome, rfl⟩ := entries entry rfl
    obtain ⟨flown, known', -, prints, -⟩ := (sound.slots known).flight flight flying
    rw [number, present] at known'
    cases known'
    have now : (cache.recorded task analysis (.ok (analysis.entry outcome))).tasks.get? flight.task =
        some { analysis with stage := .recorded (.ok (analysis.entry outcome)) } := by
      rw [number, tasks_recorded, if_pos rfl]
    exact .recorded now same rfl (congrArg some prints)
  · obtain rfl : before.landed = slot := Option.some.inj (after.symm.trans there)
    exact (sound.slots known).landed.set present grows (by simp [Slot.landed])

/-! ## Getting entries -/

namespace Get

/-- What holds of a call: the task it waits for is one of its path, and if the call started it one for
its component and its source. -/
structure Sound (cache : Cache) (get : Get) : Prop where
  waits : ∀ source task joined, get.stage = .waiting source task joined →
    ∃ analysis, cache.tasks.get? task = some analysis ∧
      analysis.identity.path.parts = get.identity.path.parts ∧
      (joined = false → analysis.identity = get.identity ∧ analysis.source = source)

theorem Sound.mono {old new : Cache} {get : Get} (sound : get.Sound old)
    (grows : old.Extends new) : get.Sound new where
  waits := by
    intro source task joined waiting
    obtain ⟨analysis, present, parts, own⟩ := sound.waits source task joined waiting
    obtain ⟨later, there, goes⟩ := grows.tasks present
    refine ⟨later, there, by rw [goes.identity, parts], fun started => ?_⟩
    rw [goes.identity, goes.source]
    exact own started

variable {setup : Setup} {cache cache' : Cache} {get : Get} {reply : Reply} {stage : Stage}

theorem Transition.grows (step : Transition setup cache get reply cache' stage)
    (sound : cache.Sound) : cache.Extends cache' := by
  cases step with
  | unreadable _ _ => exact .recordUnreadable ..
  | start _ _ _ => exact .launched sound ..
  | work _ present going _ _ _ =>
    exact .of_set present (.of_going going _) rfl (Nat.le_refl _) (Nat.le_refl _)
  | record _ present found => exact .recorded present found
  | _ => exact .refl cache

/-- An analysis that is there behind a step was there before, or the call has started it. -/
theorem Transition.analysis_before (step : Transition setup cache get reply cache' stage)
    {task : Nat} {later : Analysis} (there : cache'.tasks.get? task = some later) :
    (∃ analysis, cache.tasks.get? task = some analysis ∧ analysis.Extends later) ∨
    ∃ source, get.stage = .looking source ∧ stage = .waiting source task false ∧
      later = { identity := get.identity, source, fingerprint := get.fingerprint source } := by
  cases step with
  | unreadable _ _ => exact .inl ⟨later, by simpa using there, .refl later⟩
  | @start source looking _ _ =>
    rw [tasks_launched] at there
    split at there
    · next same =>
      cases there
      exact .inr ⟨source, looking, by rw [same], rfl⟩
    · exact .inl ⟨later, there, .refl later⟩
  | work _ present going _ _ _ =>
    simp only [Table.get?_set] at there
    split at there
    · next same =>
      cases there
      exact .inl ⟨_, same ▸ present, .of_going going _⟩
    · exact .inl ⟨later, there, .refl later⟩
  | record _ present found =>
    rw [tasks_recorded] at there
    split at there
    · next same =>
      cases there
      exact .inl ⟨_, same ▸ present, .of_found found⟩
    · exact .inl ⟨later, there, .refl later⟩
  | _ => exact .inl ⟨later, there, .refl later⟩

theorem Transition.sound (step : Transition setup cache get reply cache' stage)
    (sound : cache.Sound) : cache'.Sound := by
  cases step with
  | unreadable _ _ => exact sound.recordUnreadable ..
  | start _ _ _ => exact sound.launched rfl
  | work _ present going opened found _ =>
    exact (sound.work present going opened found).of_eq rfl rfl rfl
  | record _ present found => exact sound.recorded present found
  | _ => exact sound

theorem Transition.get_sound (step : Transition setup cache get reply cache' stage)
    (sound : cache.Sound) (waits : get.Sound cache) :
    Get.Sound cache' { get with stage } := by
  have grows := step.grows sound
  cases step with
  | rest => exact waits.mono grows
  | work _ _ _ _ _ _ => exact waits.mono grows
  | record _ _ _ => exact waits.mono grows
  | start _ _ _ =>
    refine ⟨fun source task joined waiting => ?_⟩
    cases waiting
    exact ⟨_, (tasks_launched ..).trans (if_pos rfl), rfl, fun _ => ⟨rfl, rfl⟩⟩
  | join looking flying =>
    refine ⟨fun source task joined waiting => ?_⟩
    cases waiting
    obtain ⟨analysis, present, parts, _⟩ := (sound.slot get.identity.path).flight _ flying
    exact ⟨analysis, present, parts, by simp⟩
  | take waiting _ _ =>
    refine ⟨fun source task joined waiting' => ?_⟩
    simp only [afterTask] at waiting'
    split at waiting'
    · cases waiting'
    · split at waiting' <;> cases waiting'
  | _ => exact ⟨fun source task joined waiting => by cases waiting⟩

end Get

end Cache

end ComponentCatalog
