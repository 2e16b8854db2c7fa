import ComponentCatalog.Proofs.Digest.Fingerprint
import ComponentCatalog.Proofs.Engine.Beside
import ComponentCatalog.Proofs.Engine.Serial

/-! # What a slot remembers

What is known of a path changes by a completed analysis, by a source that cannot be read, and when it is
invalidated or forgotten. While calls follow one another, a slot has a fingerprint exactly if the latest
of these incidents was a completed analysis, and then it is that of the text that was analyzed. An
analysis that found no analyzer leaves no trace.
-/

namespace ComponentCatalog

open Component

namespace Cache

/-- What changes what is known of a path. -/
inductive Incident where
  /-- An analysis of a text came to an entry, and recorded it. -/
  | analyzed (identity : Identity) (source : String)
  | unreadable (path : Path)
  | invalidated (path : Path)
  | invalidatedAll
  | removed (path : Path)
  deriving DecidableEq

namespace Incident

/-- Does it happen to a path? -/
def on (path : Path) : Incident → Bool
  | analyzed identity _ => identity.path.parts == path.parts
  | unreadable other | invalidated other | removed other => other.parts == path.parts
  | invalidatedAll => true

/-- The latest incident on a path. -/
def lastOn (path : Path) (log : List Incident) : Option Incident := (log.filter (on path)).getLast?

theorem lastOn_append (path : Path) (log : List Incident) (incident? : Option Incident) :
    lastOn path (log ++ incident?.toList) = (incident?.filter (on path)).or (lastOn path log) := by
  cases incident? with
  | none => simp [lastOn]
  | some incident =>
    unfold lastOn
    rw [List.filter_append]
    cases happens : incident.on path with
    | true => simp [Option.filter, happens]
    | false => simp [Option.filter, happens]

theorem mem_of_lastOn {path : Path} {log : List Incident} {incident : Incident}
    (last : lastOn path log = some incident) : incident ∈ log ∧ incident.on path = true :=
  List.mem_filter.mp (List.mem_of_getLast? last)

end Incident

/-- What happens with the next step of an analysis. -/
def Analysis.incident? (analysis : Analysis) : Option Incident :=
  match analysis.stage with
  | .found (.ok _) => some (.analyzed analysis.identity analysis.source)
  | _ => none

/-- What happens with a step of getting an entry. -/
def Get.incident? (cache : Cache) (get : Get) (reply : Reply) : Option Incident :=
  match get.stage, reply with
  | .reading, .text (.error _) => some (.unreadable get.identity.path)
  | .waiting _ task _, _ => (cache.tasks.get? task).bind Analysis.incident?
  | _, _ => none

/-- A slot has the fingerprint and the entry of an analysis if that was the latest incident, and else no
fingerprint. -/
def Slot.Reflects (slot : Slot) : Option Incident → Prop
  | some (.analyzed identity source) =>
    slot.fingerprint? = some (.compute identity.path source) ∧
      ∃ entry, slot.last? = some entry ∧ entry.identity = identity
  | _ => slot.fingerprint? = none

variable {setup : Setup} {cache next : Cache} {get : Get} {slot later : Slot} {path : Path}
  {latest? : Option Incident}

theorem Slot.Reflects.of_eq (reflects : slot.Reflects latest?)
    (fingerprint : later.fingerprint? = slot.fingerprint?) (last : later.last? = slot.last?) :
    later.Reflects latest? := by
  unfold Reflects at reflects ⊢
  rw [fingerprint, last]
  exact reflects

/-- Unless an analysis completed, it is the fingerprint alone that counts. -/
theorem Slot.reflects_of_none (none : slot.fingerprint? = none)
    (other : ∀ identity source, latest? ≠ some (.analyzed identity source)) :
    slot.Reflects latest? := by
  unfold Reflects
  split
  · exact absurd rfl (other _ _)
  · exact none

theorem Get.Alone.of_eq (alone : get.Alone cache) (slots : next.slots = cache.slots)
    (tasks : next.tasks = cache.tasks) : get.Alone next where
  flight := by
    have flight := alone.flight
    simp only [Cache.slot, slot?, flight?, slots, tasks] at flight ⊢
    exact flight
  own := by
    rw [tasks]
    exact alone.own

/-- What happens with a step of a call that is alone happens on its path. -/
theorem Get.Alone.on (alone : get.Alone cache) {reply : Reply} {incident : Incident}
    (happens : get.incident? cache reply = some incident) (path : Path) :
    incident.on path = (get.identity.path.parts == path.parts) := by
  unfold Get.incident? at happens
  split at happens
  · cases happens
    rfl
  · next source task joined stage =>
    obtain ⟨-, at_, there⟩ := alone.own source task joined stage
    rw [there, Option.bind_some, Analysis.incident?] at happens
    split at happens <;> cases happens
    rfl
  · cases happens

private theorem Get.Alone.reflects_reading (reading : get.stage = .reading)
    (idle : (cache.slot get.identity.path).inFlight? = none) (reply : Reply)
    (reflects : (cache.slot get.identity.path).Reflects latest?) :
    ((get.step setup cache reply).1.slot get.identity.path).Reflects
      ((get.incident? cache reply).or latest?) := by
  cases reply with
  | text result =>
    cases result with
    | ok source =>
      have none : get.incident? cache (.text (.ok source)) = none := by simp only [incident?, reading]
      simpa [Get.step, reading, none] using reflects
    | error fault =>
      have now := slot?_recordUnreadable cache get.identity.path get.identity fault
      rw [if_pos ⟨rfl, idle⟩] at now
      simp only [Get.step, incident?, reading, slot_eq _ now]
      rfl
  | _ => simpa [Get.step, incident?, reading] using reflects

/-- What happens with an analysis is that its outcome is recorded. -/
private theorem Get.Alone.reflects_waiting {source : String} {task : Nat} {joined : Bool}
    (waiting : get.stage = .waiting source task joined) (alone : get.Alone cache) (sound : cache.Sound)
    (reply : Reply) (reflects : (cache.slot get.identity.path).Reflects latest?) :
    ((get.step setup cache reply).1.slot get.identity.path).Reflects
      ((get.incident? cache reply).or latest?) := by
  obtain ⟨rfl, at_, there⟩ := alone.own source task joined waiting
  have happens : get.incident? cache reply =
      Analysis.incident? ⟨get.identity, source, get.fingerprint source, at_⟩ := by
    simp only [incident?, waiting, there, Option.bind_some]
  have goes_on (going : Analysis.result? ⟨get.identity, source, get.fingerprint source, at_⟩ = none) :
      ((get.step setup cache reply).1.slot get.identity.path).Reflects latest? := by
    obtain ⟨analyses, notices, stage', eq, -⟩ := Analysis.step_working _ setup cache task reply going
    rw [step_going setup reply waiting there going, eq]
    exact reflects
  cases at_ with
  | recorded result =>
    rw [happens, step_take setup reply waiting there rfl]
    exact reflects
  | found result =>
    have flying := alone.flight.trans (flight?_of_open waiting there fun result => by simp)
    have now := (recorded_of_flight ⟨get.identity, source, get.fingerprint source, .found result⟩
      flying rfl result).1
    rw [happens, step_record setup reply waiting there rfl]
    cases result with
    | error reason => exact reflects.of_eq (by rw [now]; rfl) (by rw [now]; rfl)
    | ok entry =>
      obtain ⟨outcome, own⟩ := (sound.analyses there).found entry rfl
      simp only [Analysis.incident?, now]
      exact ⟨rfl, entry, rfl, congrArg Entry.identity own⟩
  | _ =>
    rw [happens]
    exact goes_on rfl

/-- A step of a call that is alone leaves its slot as it reflects what happens. -/
private theorem Get.Alone.reflects_own (alone : get.Alone cache) (sound : cache.Sound) (reply : Reply)
    (reflects : (cache.slot get.identity.path).Reflects latest?) :
    ((get.step setup cache reply).1.slot get.identity.path).Reflects
      ((get.incident? cache reply).or latest?) := by
  have flight := alone.flight
  cases stage : get.stage with
  | reading =>
    rw [flight?, stage] at flight
    exact reflects_reading stage flight reply reflects
  | looking source =>
    rw [flight?, stage] at flight
    have none : get.incident? cache reply = none := by simp only [incident?, stage]
    rw [none, Option.none_or]
    cases hit : (cache.slot get.identity.path).hit? get.identity (get.fingerprint source) with
    | some entry =>
      rw [step_hit setup reply stage flight hit]
      exact reflects
    | none =>
      rw [step_start setup reply stage flight hit]
      have now := (slot?_launched cache get.identity.path get.identity (get.fingerprint source)
        source).trans (if_pos rfl)
      exact reflects.of_eq (by rw [slot_eq _ now]) (by rw [slot_eq _ now])
  | waiting source task joined => exact reflects_waiting stage alone sound reply reflects
  | done result =>
    have none : get.incident? cache reply = none := by simp only [incident?, stage]
    rw [none, Option.none_or]
    simpa [Get.step, stage] using reflects

/-- A step of a call that is alone leaves every slot as it reflects what happens. -/
theorem Get.Alone.reflects_step (alone : get.Alone cache) (sound : cache.Sound) (reply : Reply)
    {log : List Incident} (reflects : (cache.slot path).Reflects (Incident.lastOn path log)) :
    ((get.step setup cache reply).1.slot path).Reflects
      (Incident.lastOn path (log ++ (get.incident? cache reply).toList)) := by
  rw [Incident.lastOn_append]
  by_cases here : get.identity.path.parts = path.parts
  · have kept : (get.incident? cache reply).filter (Incident.on path) = get.incident? cache reply := by
      cases happens : get.incident? cache reply with
      | none => rfl
      | some incident => simp [alone.on happens, here]
    rw [kept, ← slot_congr _ here]
    exact alone.reflects_own sound reply (slot_congr cache here ▸ reflects)
  · have none : (get.incident? cache reply).filter (Incident.on path) = none := by
      cases happens : get.incident? cache reply with
      | none => rfl
      | some incident => simp [alone.on happens, here]
    have step := get.step_transition setup cache reply
    rw [none, Option.none_or, (step.frame sound alone here).1]
    exact reflects

section

variable {log : List Incident}

theorem reflects_invalidate (reflects : (cache.slot path).Reflects (Incident.lastOn path log))
    (other : Path) : ((cache.invalidate other).slot path).Reflects
      (Incident.lastOn path (log ++ [.invalidated other])) := by
  rw [slot_invalidate, ← Option.toList_some, Incident.lastOn_append]
  by_cases here : other.parts = path.parts
  · simpa [Option.filter, Incident.on, here] using Slot.reflects_of_none rfl (by simp)
  · simpa [Option.filter, Incident.on, here] using reflects

theorem reflects_invalidateAll (cache : Cache) (path : Path) (log : List Incident) :
    (cache.invalidateAll.slot path).Reflects (Incident.lastOn path (log ++ [.invalidatedAll])) := by
  rw [slot_invalidateAll, ← Option.toList_some, Incident.lastOn_append]
  simpa [Option.filter, Incident.on] using Slot.reflects_of_none rfl (by simp)

theorem reflects_remove (reflects : (cache.slot path).Reflects (Incident.lastOn path log))
    (other : Path) : ((cache.remove other).slot path).Reflects
      (Incident.lastOn path (log ++ [.removed other])) := by
  rw [slot_remove, ← Option.toList_some, Incident.lastOn_append]
  by_cases here : other.parts = path.parts
  · simpa [Option.filter, Incident.on, here] using Slot.reflects_of_none rfl (by simp)
  · simpa [Option.filter, Incident.on, here] using reflects

end

end Cache

namespace Engine

open Cache

/-- What happens with an event. -/
def incident? (engine : Engine) : Event → Option Incident
  | .start _ (.changed path) => (engine.registry.get? path).map fun _ => .invalidated path
  | .step id index reply =>
    match engine.calls.get? id with
    | some (.getting _ gets) => gets[index]?.bind fun get => get.incident? engine.cache reply
    | some (.forgetting (path :: _) _) => some (.removed path)
    | _ => none
  | .invalidate path => some (.invalidated path)
  | .invalidateAll => some .invalidatedAll
  | _ => none

/-- What happens in a run, in this order. -/
def incidents (engine : Engine) (events : List Event) : List Incident :=
  observed act incident? engine events

/-- Every slot reflects what happened, and what is being got is got alone. -/
structure Remembers (engine : Engine) (log : List Incident) : Prop where
  alone : ∀ id goal gets, engine.calls.get? id = some (.getting goal gets) →
    ∀ get ∈ gets, get.Alone engine.cache
  slots : ∀ path, (engine.cache.slot path).Reflects (Incident.lastOn path log)

variable {engine next : Engine} {id : Nat} {call : Call} {log : List Incident}

namespace Remembers

/-- Nothing happens, and nothing begins to be got. -/
private theorem quiet (remembers : engine.Remembers log)
    (slots : next.cache.slots = engine.cache.slots) (tasks : next.cache.tasks = engine.cache.tasks)
    (calls : ∀ other goal gets, next.calls.get? other = some (.getting goal gets) →
      engine.calls.get? other = some (.getting goal gets)) : next.Remembers log where
  alone := fun other goal gets now get member =>
    (remembers.alone other goal gets (calls other goal gets now) get member).of_eq slots tasks
  slots := by
    intro path
    have same : next.cache.slot path = engine.cache.slot path := by
      simp only [Cache.slot, slot?, slots]
    rw [same]
    exact remembers.slots path

private theorem setCall (remembers : engine.Remembers log)
    (other : ∀ goal gets, call ≠ .getting goal gets) : (engine.setCall id call).Remembers log := by
  refine remembers.quiet rfl rfl fun place goal gets now => ?_
  rw [calls_setCall] at now
  split at now
  · exact absurd (Option.some.inj now) (other goal gets)
  · exact now

private theorem finish (remembers : engine.Remembers log) (result : Except Fault Answer) :
    (engine.finish id result).Remembers log := by
  refine remembers.quiet rfl rfl fun place goal gets now => ?_
  rw [calls_finish] at now
  split at now
  · cases now
  · exact now

private theorem deliver (remembers : engine.Remembers log) (pending : Pending) (snapshot : Snapshot) :
    (engine.deliver id pending snapshot).Remembers log := by
  rw [deliver_eq]
  refine Remembers.finish ?_ _
  exact remembers.quiet rfl rfl fun _ _ _ now => now

/-- The only call that gets entries goes on with them, or begins to. -/
private theorem withGets (slots : ∀ path, (engine.cache.slot path).Reflects (Incident.lastOn path log))
    (only : ∀ other goal gets, engine.calls.get? other = some (.getting goal gets) → id = other)
    {goal : Goal} {gets : List Get} (alone : ∀ get ∈ gets, get.Alone engine.cache)
    (none : gets = [] → ∃ before, goal = .all before) :
    (engine.withGets id goal gets).Remembers log := by
  have ended : ∀ {next : Engine}, next.cache = engine.cache →
      (∃ call, (∀ goal gets, call ≠ .getting goal gets) ∧
        ∀ other, next.calls.get? other = if id = other then some call else engine.calls.get? other) →
      next.Remembers log := by
    rintro next cache ⟨call, quiet, calls⟩
    refine ⟨fun other goal gets now => ?_, cache ▸ slots⟩
    rw [calls] at now
    split at now
    · exact absurd (Option.some.inj now) (quiet goal gets)
    · next another => exact absurd (only other goal gets now) another
  rcases engine.withGets_cases id goal gets with
    ⟨-, eq⟩ | ⟨-, reason, eq⟩ | ⟨entries, done, eq⟩ <;> rw [eq]
  · refine ⟨fun other goal' gets' now => ?_, slots⟩
    rw [calls_setCall] at now
    split at now
    · cases now
      exact alone
    · next another => exact absurd (only other goal' gets' now) another
  · exact ended rfl ⟨_, by simp, fun _ => calls_finish ..⟩
  · generalize after : engine.withEntries id entries goal = next
    cases after ▸ engine.withEntries_spec id entries goal with
    | rest kind =>
      obtain ⟨before, all⟩ := none (List.map_eq_nil_iff.mp done)
      exact absurd all (kind before)
    | publish _ => exact ended rfl ⟨_, by simp, fun _ => calls_setCall ..⟩
    | plain => exact ended rfl ⟨_, by simp, fun _ => calls_finish ..⟩

/-- A call is made when every call has ended and nothing is on its way. -/
private theorem start (remembers : engine.Remembers log) (idle : engine.Idle)
    (landed : ∀ path, (engine.cache.slot path).inFlight? = none) (id : Nat) (job : Job) :
    (engine.start id job).Remembers (log ++ (engine.incident? (.start id job)).toList) := by
  have only : ∀ other goal gets, engine.calls.get? other = some (.getting goal gets) → id = other := by
    intro other goal gets now
    obtain ⟨_, ended⟩ := idle other _ now
    cases ended
  have begins : ∀ (goal : Goal) (identities : List Identity),
      (identities = [] → ∃ before, goal = .all before) →
      (engine.withGets id goal (identities.map fun identity => { identity })).Remembers log := by
    intro goal identities none
    refine withGets remembers.slots only ?_ fun nil => none (List.map_eq_nil_iff.mp nil)
    intro get member
    obtain ⟨identity, -, rfl⟩ := List.mem_map.mp member
    exact .begin (landed _)
  cases job with
  | sync descriptors =>
    simp only [Engine.start, foldl_tell, incident?, Option.toList_none, List.append_nil, withDiff]
    split
    · refine Remembers.finish ?_ _
      exact remembers.quiet rfl rfl fun _ _ _ now => now
    · refine Remembers.setCall ?_ (by simp)
      exact remembers.quiet rfl rfl fun _ _ _ now => now
  | changed path =>
    simp only [Engine.start, incident?]
    cases engine.registry.get? path with
    | none => simpa using remembers.finish _
    | some identity =>
      refine withGets ?_ ?_ ?_ ?_
      · exact fun other => reflects_invalidate (remembers.slots other) path
      · exact only
      · intro get member
        rw [List.mem_singleton.mp member]
        refine .begin ?_
        have idle := landed identity.path
        simp only [changeCache, slot_invalidate]
        split
        · simp [Slot.invalidate, idle]
        · exact idle
      · simp
  | parseNamed name =>
    simp only [Engine.start, incident?, Option.toList_none, List.append_nil]
    split
    · next identity _ => exact begins _ [identity] (by simp)
    · exact remembers.finish _
  | parse identity => simpa [Engine.start, incident?] using begins _ [identity] (by simp)
  | get identity => simpa [Engine.start, incident?] using begins _ [identity] (by simp)
  | parseAll => simpa [Engine.start, incident?] using begins _ engine.registry.list fun _ => ⟨_, rfl⟩
  | forget path => simpa [Engine.start, incident?] using remembers.setCall (by simp)
  | stub =>
    simp only [Engine.start, incident?, Option.toList_none, List.append_nil]
    split
    · exact remembers.setCall (by simp)
    · exact remembers.finish _

/-- A call takes a step that neither gets an entry nor forgets a component. -/
private theorem step_quiet (remembers : engine.Remembers log) (index : Nat) (reply : Reply)
    (notGetting : ∀ goal gets, engine.calls.get? id ≠ some (.getting goal gets))
    (notForgetting : ∀ path rest diff?,
      engine.calls.get? id ≠ some (.forgetting (path :: rest) diff?)) :
    (engine.step id index reply).Remembers log := by
  have spec := engine.step_spec id index reply
  generalize engine.step id index reply = next at spec
  cases spec with
  | rest => exact remembers
  | get now _ => exact absurd now (notGetting _ _)
  | forget now => exact absurd now (notForgetting _ _ _)
  | reuse _ _ _ => exact remembers.deliver ..
  | deliver _ => exact remembers.deliver ..
  | turn _ _ _ =>
    refine Remembers.setCall ?_ (by simp)
    exact remembers.quiet rfl rfl fun _ _ _ now => now
  | publish _ =>
    refine Remembers.setCall ?_ (by simp)
    exact remembers.quiet rfl rfl fun _ _ _ now => now
  | removed _ => exact remembers.finish _
  | failed _ _ => exact remembers.finish _
  | stubThere _ _ => exact remembers.finish _
  | stubWritten _ _ => exact remembers.finish _
  | stubFailed _ _ => exact remembers.finish _
  | _ => exact remembers.setCall (by simp)

/-- The call in progress takes a step for one of its entries. -/
private theorem step_get (remembers : engine.Remembers log) {goal : Goal} {gets : List Get}
    (orderly : engine.Orderly id (.getting goal gets)) {index : Nat} {get : Get}
    (this : gets[index]? = some get) (reply : Reply) :
    ({ engine with cache := (get.step engine.setup engine.cache reply).1 }.withGets id goal
      (gets.set index (get.step engine.setup engine.cache reply).2)).Remembers
        (log ++ (get.incident? engine.cache reply).toList) := by
  have now := orderly.present (by simp)
  have distinct := orderly.fits.1
  have alone := remembers.alone id goal gets now
  obtain ⟨front, back, rfl, set⟩ := exists_split this
  have mine := alone get (by simp)
  have step := get.step_transition engine.setup engine.cache reply
  rw [set]
  refine withGets ?_ ?_ ?_ (by simp)
  · exact fun path => mine.reflects_step orderly.sound.cache reply (remembers.slots path)
  · intro other goal' gets' there
    exact (orderly.current there (by simp)).1.symm
  · intro other member
    rcases mem_split_iff.mp member with rfl | among
    · rw [get.step_snd]
      exact step.alone_self mine
    · have apart : get.identity.path.parts ≠ other.identity.path.parts := by
        rw [(List.perm_middle.map _).nodup_iff, List.map_cons, List.nodup_cons] at distinct
        exact fun same => distinct.1 (List.mem_map.mpr ⟨other, among, same.symm⟩)
      exact step.alone_other orderly.sound.cache mine apart
        (alone other (mem_split_iff.mpr (.inr among)))

private theorem step (remembers : engine.Remembers log) (orderly : engine.Orderly id call)
    (other index : Nat) (reply : Reply) :
    (engine.step other index reply).Remembers
      (log ++ (engine.incident? (.step other index reply)).toList) := by
  cases now : engine.calls.get? other with
  | none =>
    simp only [incident?, now, Option.toList_none, List.append_nil]
    exact remembers.step_quiet index reply (by simp [now]) (by simp [now])
  | some found =>
    cases found with
    | getting goal gets =>
      obtain ⟨rfl, rfl⟩ := orderly.current now (by simp)
      cases this : gets[index]? with
      | none => simpa [Engine.step, incident?, now, stepGet, this] using remembers
      | some get =>
        simp only [Engine.step, incident?, now, stepGet, this, Option.bind_some]
        exact remembers.step_get orderly this reply
    | forgetting paths diff? =>
      obtain ⟨rfl, rfl⟩ := orderly.current now (by simp)
      cases paths with
      | nil =>
        simp only [incident?, now, Option.toList_none, List.append_nil]
        exact remembers.step_quiet index reply (by simp [now]) (by simp [now])
      | cons path rest =>
        simp only [Engine.step, incident?, now, stepForget]
        refine ⟨fun place goal gets there => ?_, fun path' => reflects_remove (remembers.slots path') path⟩
        rw [calls_setCall] at there
        split at there
        · cases there
        · cases (orderly.current there (by simp)).2
    | _ =>
      simp only [incident?, now, Option.toList_none, List.append_nil]
      exact remembers.step_quiet index reply (by simp [now]) (by simp [now])

/-- Events one by one are remembered. -/
theorem act (remembers : engine.Remembers log) (orderly : engine.Orderly id call) (event : Event)
    (follows : engine.OneByOne event) :
    (engine.act event).Remembers (log ++ (engine.incident? event).toList) := by
  have idle_alone : ∀ {next : Engine}, engine.Idle → next.calls = engine.calls →
      ∀ other goal gets, next.calls.get? other = some (.getting goal gets) →
        ∀ get ∈ gets, get.Alone next.cache := by
    intro next idle calls other goal gets now
    rw [calls] at now
    obtain ⟨_, ended⟩ := idle other _ now
    cases ended
  cases event with
  | start other job =>
    exact remembers.start follows ((orderly.idle follows other (.ok .nothing)).landed (by simp)) other job
  | step other index reply => exact remembers.step orderly other index reply
  | drop other =>
    simp only [incident?, Option.toList_none, List.append_nil]
    refine remembers.quiet rfl rfl fun place goal gets now => ?_
    rw [Engine.act, calls_drop] at now
    split at now
    · cases now
    · exact now
  | invalidate path =>
    exact ⟨idle_alone follows rfl, fun other => reflects_invalidate (remembers.slots other) path⟩
  | invalidateAll => exact ⟨idle_alone follows rfl, fun other => reflects_invalidateAll ..⟩
  | takeNotices =>
    simp only [incident?, Option.toList_none, List.append_nil]
    exact remembers.quiet rfl rfl fun _ _ _ now => now

end Remembers

/-- Whatever was called one by one is remembered. -/
theorem remembers_run {events : List Event} (orderly : engine.Orderly id call)
    (remembers : engine.Remembers log) (follows : Follows Engine.act OneByOne engine events) :
    (engine.run events).Remembers (log ++ engine.incidents events) := by
  induction events generalizing engine id call log with
  | nil => simpa [incidents, observed, run] using remembers
  | cons event rest ih =>
    obtain ⟨_, _, further⟩ := orderly.act event follows.1
    have after := ih further (remembers.act orderly event follows.1) follows.2
    rwa [List.append_assoc] at after

theorem Created.orderly (created : engine.Created) : engine.Orderly 0 (.finished (.ok .nothing)) := by
  obtain ⟨_, _, _, _, _, rfl⟩ := created
  exact .create ..

/-- Nothing is remembered in the beginning. -/
theorem Created.remembers (created : engine.Created) : engine.Remembers [] where
  alone := by
    intro id goal gets now
    cases (created.calls id).symm.trans now
  slots := by
    obtain ⟨_, _, _, _, _, rfl⟩ := created
    intro path
    rfl

/-! ## Entries at hand -/

/-- An entry is at hand for a component and a text exactly if the latest incident was an analysis of just
that component and that text. -/
theorem Remembers.hit?_isSome_iff (remembers : engine.Remembers log) {identity : Identity}
    {text : String}
    (free : ∀ other source, .analyzed other source ∈ log →
      Digest.digest128 (Fingerprint.hashed other.path source) =
        Digest.digest128 (Fingerprint.hashed identity.path text) →
      Fingerprint.hashed other.path source = Fingerprint.hashed identity.path text) :
    ((engine.cache.slot identity.path).hit? identity (.compute identity.path text)).isSome ↔
      Incident.lastOn identity.path log = some (.analyzed identity text) := by
  have reflects := remembers.slots identity.path
  constructor
  · intro hit
    obtain ⟨entry, hit⟩ := Option.isSome_iff_exists.mp hit
    obtain ⟨held, last, same⟩ := Slot.hit?_eq_some hit
    cases latest : Incident.lastOn identity.path log with
    | none =>
      rw [latest] at reflects
      cases held.symm.trans reflects
    | some incident =>
      rw [latest] at reflects
      cases incident with
      | analyzed other source =>
        obtain ⟨print, entry', last', rfl⟩ := reflects
        cases last.symm.trans last'
        obtain ⟨member, here⟩ := Incident.mem_of_lastOn latest
        have computed := Option.some.inj (print.symm.trans held)
        rw [Fingerprint.compute_eq, Fingerprint.compute_eq, Fingerprint.mk.injEq] at computed
        obtain ⟨path, rfl⟩ := Fingerprint.eq_of_hashed (beq_iff_eq.mp here) (free _ _ member computed)
        rw [Identity.eq_of_same same path]
      | _ => cases held.symm.trans reflects
  · intro latest
    rw [latest] at reflects
    obtain ⟨print, entry, last, rfl⟩ := reflects
    simp [Slot.hit?, print, last, Identity.same_refl]

end Engine

end ComponentCatalog
