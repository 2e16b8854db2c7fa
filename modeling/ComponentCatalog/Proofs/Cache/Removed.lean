import ComponentCatalog.Proofs.Cache.Pursued

/-! # What removed components leave in the store

Removing a component forgets its slot and erases its file. But an analysis that a call waits for stores
what it finds before it looks whether its slot is still there, and a call that is still to look up starts
an analysis as if nothing had been removed. So whatever is pursued when the component is removed can be
stored afterwards: whoever waits drives the analysis to where it stores.
-/

namespace ComponentCatalog

open Component

namespace Cache

namespace Depot

variable {setup : Setup} {store : Store} {path : Path} {depot : Depot}

/-! ## Whatever is pursued can be filled -/

/-- A quiet run can fill the file of a path. -/
def CanFill (setup : Setup) (store : Store) (path : Path) (depot : Depot) : Prop :=
  ∃ moves, Follows (move setup store) (Quiet setup store path) depot moves ∧
    (depot.run setup store moves).Holds store path

private theorem CanFill.of_step {id : Nat} {reply : Reply}
    (succeeds : depot.Succeeds setup (.step id reply))
    (later : (depot.move setup store (.step id reply)).CanFill setup store path) :
    depot.CanFill setup store path := by
  obtain ⟨moves, quiet, holds⟩ := later
  exact ⟨.step id reply :: moves, ⟨⟨succeeds, by rintro _ ⟨⟩⟩, quiet⟩, holds⟩

/-- A step changes the cache and its call, whatever becomes of the files. -/
private theorem CanFill.of_get {id : Nat} {get next : Get} {cache : Cache} {reply : Reply}
    (known : depot.session.get? id = some get) (succeeds : depot.Succeeds setup (.step id reply))
    (step : get.step setup depot.session.cache reply = (cache, next))
    (later : ∀ depot' : Depot, depot'.session.get? id = some next → depot'.session.cache = cache →
      depot'.CanFill setup store path) : depot.CanFill setup store path := by
  have moved := Session.move_step setup reply known
  rw [step] at moved
  refine .of_step succeeds (later _ ?_ (congrArg Session.cache moved))
  show (depot.session.move setup (.step id reply)).get? id = some next
  rw [moved, Session.get?_stepped _ known, if_pos rfl]

/-- A call waits for a task. -/
structure Waits (depot : Depot) (id : Nat) (get : Get) (source : String) (task : Nat)
    (joined : Bool) (analysis : Analysis) : Prop where
  known : depot.session.get? id = some get
  waiting : get.stage = .waiting source task joined
  present : depot.session.cache.tasks.get? task = some analysis

section

variable {id : Nat} {get : Get} {source : String} {task : Nat} {joined : Bool} {analysis : Analysis}

/-- The step of a call that waits needs what the task needs. -/
theorem Waits.need?_eq (waits : depot.Waits id get source task joined analysis) :
    depot.need? setup id = some (analysis.need setup task) := by
  simp only [need?, waits.known, Option.bind_some, Get.need?, waits.waiting, waits.present,
    Option.map_some]

/-- With a step of the call a task without a result goes on, and no slot changes. -/
theorem Waits.goes_on (waits : depot.Waits id get source task joined analysis)
    (going : analysis.result? = none) (reply : Reply) :
    (depot.move setup store (.step id reply)).Waits id get source task joined
        (analysis.step setup task depot.session.cache reply).2 ∧
      ∀ other, (depot.move setup store (.step id reply)).session.cache.slot other =
        depot.session.cache.slot other := by
  obtain ⟨alike, next⟩ :=
    Session.goes_on setup waits.known waits.waiting waits.present going reply
  exact ⟨⟨(alike.calls id).trans waits.known, waits.waiting, next⟩, alike.slots⟩

/-- Nothing is described by an empty object, whichever categories are chosen. -/
private theorem category_empty {α : Type} (chosen : Bool) (name : String)
    (convert : List Metadata.Described → List α) :
    Metadata.category chosen name convert (.object []) =
      .ok (if chosen then some (convert []) else none) := by
  cases chosen with
  | false => rfl
  | true => rfl

private theorem normalize_empty (fields : Metadata.Fields) :
    ∃ metadata, Metadata.normalize fields (.object []) = .ok metadata := by
  unfold Metadata.normalize
  simp only [category_empty]
  exact ⟨_, rfl⟩

section

variable (opened : setup.store? = some store)
  (waits : depot.Waits id get source task joined analysis)
  (file : store.file analysis.identity.path = store.file path)

include opened waits file

private theorem canFill_storing {metadata : Metadata} {time : Nat}
    (storing : analysis.stage = .storing metadata time) : depot.CanFill setup store path := by
  obtain ⟨text, writes⟩ : ∃ text, depot.need? setup id = some (.write (store.file path) text) :=
    ⟨_, by rw [waits.need?_eq, Analysis.need, storing, opened, ← file]⟩
  have holds : (depot.move setup store (.step id (.done (.ok ())))).Holds store path := by
    simp [Holds, move, filesAfter, writes]
  refine .of_step ?_ ⟨[], trivial, holds⟩
  simp only [Succeeds, writes]

private theorem canFill_asked {request : Analyzer.Request}
    (asked : analysis.stage = .asked request) : depot.CanFill setup store path := by
  have needs : depot.need? setup id = some (.describe task request) := by
    rw [waits.need?_eq, Analysis.need, asked]
  obtain ⟨metadata, described⟩ := normalize_empty setup.fields
  have next : (analysis.step setup task depot.session.cache
      (.answered (.described (.object [])) 0)).2 = { analysis with stage := .storing metadata 0 } := by
    unfold Analysis.step
    simp [asked, Analysis.answer, Analysis.describe, described, opened]
  obtain ⟨waits', -⟩ := waits.goes_on (by simp only [Analysis.result?, asked])
    (.answered (.described (.object [])) 0)
  rw [next] at waits'
  refine .of_step ?_ (canFill_storing opened waits' file rfl)
  simp only [Succeeds, needs]

private theorem canFill_created {text : String}
    (created : analysis.stage = .created)
    (accepts : setup.pipeline.apply analysis.identity analysis.source = .ok text) :
    depot.CanFill setup store path := by
  have needs : depot.need? setup id = some (.readBytes (store.file path)) := by
    rw [waits.need?_eq, Analysis.need, created, opened, ← file]
  -- What was stored meanwhile could be found and taken; but then the file is there already.
  cases held : depot.files (store.file path) with
  | some bytes => exact ⟨[], trivial, Option.isSome_iff_exists.mpr ⟨bytes, held⟩⟩
  | none =>
    have next : (analysis.step setup task depot.session.cache (.bytes (.error .missing))).2 =
        { analysis with stage := .asked (analysis.request setup text) } := by
      unfold Analysis.step
      simp [created, opened, Analysis.begin, accepts]
    obtain ⟨waits', -⟩ := waits.goes_on (by simp only [Analysis.result?, created])
      (.bytes (.error .missing))
    rw [next] at waits'
    refine .of_step ?_ (canFill_asked opened waits' file rfl)
    simp only [Succeeds, needs, read, held]

/-- Whoever waits for an analysis that can store has it store. -/
theorem canFill_of_storable (storable : analysis.Storable setup) :
    depot.CanFill setup store path := by
  cases storable with
  | created created accepts => exact canFill_created opened waits file created accepts
  | asked asked => exact canFill_asked opened waits file asked
  | storing storing => exact canFill_storing opened waits file storing

end

/-- Where the slot is empty a call that looks up starts an analysis. -/
theorem canFill_of_looking (opened : setup.store? = some store)
    (known : depot.session.get? id = some get) (looking : get.stage = .looking source)
    (empty : depot.session.cache.slot get.identity.path = {})
    (file : store.file get.identity.path = store.file path) {text : String}
    (accepts : setup.pipeline.apply get.identity source = .ok text) :
    depot.CanFill setup store path := by
  have needs : depot.need? setup id = some .nothing := by
    simp only [need?, known, Option.bind_some, Get.need?, looking]
  have started := Get.step_start setup .nothing looking (by rw [empty]) (by rw [empty]; rfl)
  refine .of_get known (by simp only [Succeeds, needs]) started fun depot' known' now => ?_
  have present := tasks_launched depot.session.cache get.identity (get.fingerprint source) source
    depot.session.cache.nextTask
  rw [← now, if_pos rfl] at present
  exact canFill_of_storable opened ⟨known', rfl, present⟩ file (.created rfl accepts)

/-- So it does when it has read a source that the steps accept. -/
theorem canFill_of_reading (opened : setup.store? = some store)
    (known : depot.session.get? id = some get) (reading : get.stage = .reading)
    (empty : depot.session.cache.slot get.identity.path = {})
    (file : store.file get.identity.path = store.file path) {text : String}
    (accepts : setup.pipeline.apply get.identity source = .ok text) :
    depot.CanFill setup store path := by
  have needs : depot.need? setup id = some (.readText get.identity.path) := by
    simp only [need?, known, Option.bind_some, Get.need?, reading]
  have reads : get.step setup depot.session.cache (.text (.ok source)) =
      (depot.session.cache, { get with stage := .looking source }) := by
    simp only [Get.step, reading]
  refine .of_get known (by simp only [Succeeds, needs]) reads fun depot' known' now => ?_
  exact canFill_of_looking opened known' rfl (now ▸ empty) file accepts

end

/-- A call joined an analysis of another source that comes to an entry, if to anything, and the slot of
its own path is empty. -/
structure Astray (depot : Depot) (id : Nat) (get : Get) (source : String) (task : Nat)
    (analysis : Analysis) : Prop extends depot.Waits id get source task true analysis where
  other : analysis.fingerprint ≠ get.fingerprint source
  comes : ∀ result, analysis.result? = some result →
    ∃ outcome, result = .ok (analysis.entry outcome)
  empty : depot.session.cache.slot get.identity.path = {}

section

variable {id : Nat} {get : Get} {source text : String} {task : Nat} {analysis : Analysis}

/-- A task that records its result leaves a slot that waits for none as it is. -/
private theorem slot_recorded_of_idle {cache : Cache} {result : Except String Entry}
    (idle : (cache.slot path).inFlight? = none) :
    (cache.recorded task analysis result).slot path = cache.slot path := by
  rcases slot?_recorded cache task analysis result path with
    ⟨same, -⟩ | ⟨-, before, flight, known, flying, -⟩
  · simp only [Cache.slot, same]
  · rw [slot_eq cache known, flying] at idle
    cases idle

variable (store) in
/-- With a step of the call the other analysis goes on. -/
private theorem Astray.goes_on (astray : depot.Astray id get source task analysis)
    (going : analysis.result? = none) (reply : Reply) {stage : Stage}
    (next : (analysis.step setup task depot.session.cache reply).2 = { analysis with stage })
    (comes : ∀ result, Analysis.result? { analysis with stage } = some result →
      ∃ outcome, result = .ok (analysis.entry outcome)) :
    (depot.move setup store (.step id reply)).Astray id get source task { analysis with stage } := by
  obtain ⟨waits, slots⟩ := astray.toWaits.goes_on going reply
  rw [next] at waits
  exact ⟨waits, astray.other, comes, (slots _).trans astray.empty⟩

variable (opened : setup.store? = some store)
  (file : store.file get.identity.path = store.file path)
  (accepts : setup.pipeline.apply get.identity source = .ok text)

include opened file accepts

/-- Once the other analysis is recorded, the call looks up again. -/
private theorem canFill_astray_recorded (astray : depot.Astray id get source task analysis)
    {result : Except String Entry} (recorded : analysis.stage = .recorded result) :
    depot.CanFill setup store path := by
  have needs : depot.need? setup id = some .nothing := by
    rw [astray.need?_eq, Analysis.need, recorded]
  obtain ⟨outcome, rfl⟩ := astray.comes result (Analysis.result?_of_recorded recorded)
  have takes := Get.step_take setup .nothing astray.waiting astray.present recorded
  have looks : get.afterTask source true (.ok (analysis.entry outcome)) =
      { get with stage := .looking source } := by
    simp [Get.afterTask, Analysis.entry, astray.other]
  rw [looks] at takes
  refine .of_get astray.known (by simp only [Succeeds, needs]) takes fun depot' known now => ?_
  exact canFill_of_looking opened known rfl (now ▸ astray.empty) file accepts

private theorem canFill_astray_found (astray : depot.Astray id get source task analysis)
    {result : Except String Entry} (found : analysis.stage = .found result) :
    depot.CanFill setup store path := by
  have needs : depot.need? setup id = some .nothing := by
    rw [astray.need?_eq, Analysis.need, found]
  have records := Get.step_record setup .nothing astray.waiting astray.present found
  refine .of_get astray.known (by simp only [Succeeds, needs]) records fun depot' known now => ?_
  have after : depot'.Astray id get source task { analysis with stage := .recorded result } := by
    refine ⟨⟨known, astray.waiting, ?_⟩, astray.other, ?_, ?_⟩
    · rw [now]
      exact (tasks_recorded ..).trans (if_pos rfl)
    · rintro _ ⟨⟩
      exact astray.comes result (Analysis.result?_of_found found)
    · rw [now]
      exact (slot_recorded_of_idle (by rw [astray.empty])).trans astray.empty
  exact canFill_astray_recorded opened file accepts after rfl

private theorem canFill_astray_finding (astray : depot.Astray id get source task analysis)
    (going : analysis.result? = none) {reply : Reply} {outcome : Outcome}
    (succeeds : depot.Succeeds setup (.step id reply))
    (next : (analysis.step setup task depot.session.cache reply).2 = analysis.finding outcome) :
    depot.CanFill setup store path := by
  have after := astray.goes_on store going reply next (by rintro _ ⟨⟩; exact ⟨outcome, rfl⟩)
  exact .of_step succeeds (canFill_astray_found opened file accepts after rfl)

private theorem canFill_astray_asked (astray : depot.Astray id get source task analysis)
    {request : Analyzer.Request} (asked : analysis.stage = .asked request) :
    depot.CanFill setup store path := by
  have needs : depot.need? setup id = some (.describe task request) := by
    rw [astray.need?_eq, Analysis.need, asked]
  have going : analysis.result? = none := by simp only [Analysis.result?, asked]
  refine canFill_astray_finding opened file accepts astray going ?_
    (analysis.asked_step setup task depot.session.cache asked)
  simp only [Succeeds, needs]

/-- Whoever waits for the other analysis takes it to its end, and then starts one. -/
theorem canFill_of_astray (astray : depot.Astray id get source task analysis) :
    depot.CanFill setup store path := by
  cases stage : analysis.stage with
  | created =>
    have going : analysis.result? = none := by simp only [Analysis.result?, stage]
    have needs : depot.need? setup id = some (.readBytes (store.file analysis.identity.path)) := by
      rw [astray.need?_eq, Analysis.need, stage, opened]
    have succeeds : depot.Succeeds setup
        (.step id (.bytes (depot.read (store.file analysis.identity.path)))) := by
      simp only [Succeeds, needs]
    rcases analysis.created_step setup task depot.session.cache stage
      (depot.read (store.file analysis.identity.path)) with ⟨outcome, found⟩ | ⟨request, asked⟩
    · exact canFill_astray_finding opened file accepts astray going succeeds found
    · have after := astray.goes_on store going _ asked (by rintro _ ⟨⟩)
      exact .of_step succeeds (canFill_astray_asked opened file accepts after rfl)
  | asked request => exact canFill_astray_asked opened file accepts astray stage
  | storing metadata time =>
    obtain ⟨text, needs⟩ : ∃ text,
        depot.need? setup id = some (.write (store.file analysis.identity.path) text) :=
      ⟨_, by rw [astray.need?_eq, Analysis.need, stage, opened]⟩
    have going : analysis.result? = none := by simp only [Analysis.result?, stage]
    have stores : analysis.StoresIn setup := fun _ _ _ => opened ▸ rfl
    refine canFill_astray_finding opened file accepts astray going ?_
      (analysis.storing_step setup task depot.session.cache stage stores)
    simp only [Succeeds, needs]
  | found result => exact canFill_astray_found opened file accepts astray stage
  | recorded result => exact canFill_astray_recorded opened file accepts astray stage

end

/-- What is pursued when a component is removed can be filled behind the removal. -/
theorem canFill_of_pursued (opened : setup.store? = some store) (sound : depot.session.Sound)
    (pursued : depot.session.Pursued setup path) :
    (depot.move setup store (.remove path)).CanFill setup store path := by
  have tasks : (depot.session.cache.remove path).tasks = depot.session.cache.tasks := tasks_remove ..
  have empty : (depot.session.cache.remove path).slot path = {} :=
    (slot_remove ..).trans (if_pos rfl)
  cases pursued with
  | @waited id get source task joined analysis known waiting present here storable =>
    have waits : (depot.move setup store (.remove path)).Waits id get source task joined analysis :=
      ⟨known, waiting, tasks ▸ present⟩
    exact canFill_of_storable opened waits (here ▸ rfl) storable
  | @sought id get source text known here accepts may =>
    have empty' : (depot.session.cache.remove path).slot get.identity.path = {} := here ▸ empty
    rcases may with reading | looking | ⟨task, analysis, waiting, present, other, available⟩
    · exact canFill_of_reading opened known reading empty' (here ▸ rfl) accepts
    · exact canFill_of_looking opened known looking empty' (here ▸ rfl) accepts
    · have astray : (depot.move setup store (.remove path)).Astray id get source task analysis := by
        refine ⟨⟨known, waiting, tasks ▸ present⟩, other, fun result found => ?_, empty'⟩
        cases result with
        | error reason => exact absurd ⟨reason, found⟩ available
        | ok entry =>
          exact ((sound.cache.analyses present).found entry found).imp fun _ => congrArg _
      exact canFill_of_astray opened (here ▸ rfl) accepts astray

/-! ## When a removed component is stored again -/

/-- Behind the removal of a component, and as long as no further call is made for it, the store holds
something for it in some later state exactly if it was pursued when it was removed. -/
theorem canFill_remove_iff (opened : setup.store? = some store)
    (files : Path → Option ByteArray) {moves : List Move}
    (only : ∀ identity, .call identity ∈ moves → store.file identity.path = store.file path →
      identity.path = path) :
    ((run setup store ⟨{}, files⟩ moves).move setup store (.remove path)).CanFill setup store path ↔
      (run setup store ⟨{}, files⟩ moves).session.Pursued setup path := by
  have sound : (run setup store ⟨{}, files⟩ moves).session.Sound := by
    rw [session_run]
    exact Session.Reached.sound ⟨moves, rfl⟩
  have tells : (run setup store ⟨{}, files⟩ moves).session.Tells store path := by
    rw [session_run]
    exact Session.tells_run only
  constructor
  · rintro ⟨after, quiet, holds⟩
    have sound' := sound.move setup (.remove path)
    exact (Fillable.of_run sound' opened quiet holds).pursued sound tells
  · exact canFill_of_pursued opened sound

/-- A store of its own. -/
def shelf : Store := ⟨⟨"/store"⟩, 0⟩

/-- Components are analyzed as they are, and what is found is stored. -/
def shelved : Setup := ⟨[], {}, {}, 1000, some shelf⟩

/-- A call has read its source and asked the analyzer. -/
def askedMoves : List Move :=
  [.call Session.card, .step 0 (.text (.ok "")), .step 0 .nothing, .step 0 (.bytes (.error .missing))]

private theorem pursued_asked :
    (run shelved shelf ⟨{}, fun _ => none⟩ askedMoves).session.Pursued shelved ⟨"/a"⟩ := by
  refine @Session.Pursued.waited _ _ _ 0 _ _ 1 _ _ rfl rfl rfl ?_ ?_
  · rfl
  · exact .asked rfl

/-- If the component is removed then, it can be stored again. -/
theorem canFill_remove_iff_asked :
    ((run shelved shelf ⟨{}, fun _ => none⟩ askedMoves).move shelved shelf (.remove ⟨"/a"⟩)).CanFill
      shelved shelf ⟨"/a"⟩ := by
  refine (canFill_remove_iff rfl (fun _ => none) ?_).mpr pursued_asked
  intro identity called _
  obtain rfl : identity = Session.card := by simpa [askedMoves] using called
  rfl

/-- The operations on a store succeed, a component is removed, and no further call is made for it; yet
the store can hold something for it later. -/
theorem removed_stored_again :
    ¬ ∀ (setup : Setup) (store : Store) (before after : List Move) (path : Path),
      setup.store? = some store →
      Follows (move setup store) (Succeeds setup) {} before →
      Follows (move setup store) (Quiet setup store path)
        ((run setup store {} before).move setup store (.remove path)) after →
      ¬ (((run setup store {} before).move setup store (.remove path)).run setup store after).Holds
        store path := by
  intro never
  have reached : (run shelved shelf {} askedMoves).session.Sound :=
    Session.Reached.sound ⟨askedMoves, rfl⟩
  obtain ⟨after, quiet, holds⟩ := canFill_of_pursued rfl reached pursued_asked
  have succeeds : Follows (move shelved shelf) (Succeeds shelved) {} askedMoves :=
    ⟨trivial, trivial, trivial, rfl, trivial⟩
  exact never shelved shelf askedMoves after ⟨"/a"⟩ rfl succeeds quiet holds

end Depot

end Cache

end ComponentCatalog
