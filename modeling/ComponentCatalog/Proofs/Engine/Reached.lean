import ComponentCatalog.Proofs.Engine.Current
import ComponentCatalog.Proofs.Engine.Serial

/-! # Engines that can be reached

Whoever drives an engine makes each call under a number that no call has. Then the call that others wait
for does publish: once every call has ended, the next one need not wait to publish.
-/

namespace ComponentCatalog

open Component Cache

namespace Engine

/-- Calls are made under new numbers. -/
def NewNumbers (engine : Engine) : Event → Prop
  | .start id _ => engine.calls.get? id = none
  | _ => True

/-- What calls make of a new engine, side by side and in any order. -/
def Reached (engine : Engine) : Prop :=
  ∃ created events, Created created ∧ Follows act NewNumbers created events ∧
    created.run events = engine

/-- The call that others wait for publishes. -/
def Attended (engine : Engine) : Prop :=
  ∀ id, engine.publisher? = some id → ∃ call, engine.calls.get? id = some call ∧ call.Publishes

variable {engine : Engine} {id : Nat} {call : Call}

namespace Attended

/-- Others do not wait for a call that does not publish. -/
theorem free (attended : engine.Attended)
    (calm : ∀ call, engine.calls.get? id = some call → ¬ call.Publishes) :
    engine.publisher? ≠ some id := by
  intro mine
  obtain ⟨call, now, publishes⟩ := attended id mine
  exact calm call now publishes

theorem free_of (attended : engine.Attended) (now : engine.calls.get? id = some call)
    (calm : ¬ call.Publishes) : engine.publisher? ≠ some id :=
  attended.free fun _ there => Option.some.inj (now.symm.trans there) ▸ calm

theorem of_eq (attended : engine.Attended) {next : Engine} (calls : next.calls = engine.calls)
    (publisher : next.publisher? = engine.publisher?) : next.Attended := by
  unfold Attended
  rw [calls, publisher]
  exact attended

theorem setCall (attended : engine.Attended)
    (goes : engine.publisher? = some id → call.Publishes) : (engine.setCall id call).Attended := by
  intro other publisher
  rw [calls_setCall]
  split
  · next same => exact ⟨call, rfl, goes (same ▸ publisher)⟩
  · exact attended other publisher

/-- A call that ends, or is dropped, keeps nobody waiting. -/
private theorem passes (attended : engine.Attended) {next : Engine} {call? : Option Call}
    (publisher : next.publisher? =
      if engine.publisher? == some id then none else engine.publisher?)
    (calls : ∀ other, next.calls.get? other = if id = other then call? else engine.calls.get? other) :
    next.Attended := by
  intro other held
  rw [publisher] at held
  split at held
  · cases held
  · next another =>
    have apart : id ≠ other := by
      rintro rfl
      exact another (beq_iff_eq.mpr held)
    rw [calls, if_neg apart]
    exact attended other held

theorem finish (attended : engine.Attended) (id : Nat) (result : Except Fault Answer) :
    (engine.finish id result).Attended :=
  attended.passes rfl fun _ => calls_finish ..

theorem drop (attended : engine.Attended) (id : Nat) : (engine.drop id).Attended :=
  attended.passes rfl fun _ => calls_drop ..

theorem deliver (attended : engine.Attended) (id : Nat) (pending : Pending) (snapshot : Snapshot) :
    (engine.deliver id pending snapshot).Attended := by
  rw [deliver_eq]
  exact Attended.finish attended id _

theorem withGets (attended : engine.Attended) (free : engine.publisher? ≠ some id) (goal : Goal)
    (gets : List Get) : (engine.withGets id goal gets).Attended := by
  rcases engine.withGets_cases id goal gets with
    ⟨-, eq⟩ | ⟨-, reason, eq⟩ | ⟨entries, -, eq⟩ <;> rw [eq]
  · exact attended.setCall fun mine => absurd mine free
  · exact attended.finish id _
  · generalize after : engine.withEntries id entries goal = next
    cases after ▸ engine.withEntries_spec id entries goal with
    | rest _ => exact attended
    | publish _ => exact attended.setCall fun mine => absurd mine free
    | plain => exact attended.finish id _

private theorem withDiff (attended : engine.Attended) (free : engine.publisher? ≠ some id)
    (diff : Diff) : (engine.withDiff id diff).Attended := by
  unfold Engine.withDiff
  split
  · exact attended.finish id _
  · exact attended.setCall fun mine => absurd mine free

private theorem start (attended : engine.Attended) (free : engine.publisher? ≠ some id) (job : Job) :
    (engine.start id job).Attended := by
  cases job with
  | sync descriptors =>
    simp only [Engine.start, foldl_tell]
    refine Attended.withDiff ?_ ?_ _
    · exact attended.of_eq rfl rfl
    · exact free
  | parse identity => exact attended.withGets free _ _
  | parseNamed name =>
    simp only [Engine.start]
    split
    · exact attended.withGets free _ _
    · exact attended.finish id _
  | parseAll => exact attended.withGets free _ _
  | changed path =>
    simp only [Engine.start]
    split
    · have same : (engine.changeCache (·.invalidate path)).Attended := attended
      exact same.withGets free _ _
    · exact attended.finish id _
  | get identity => exact attended.withGets free _ _
  | forget path => exact attended.setCall fun mine => absurd mine free
  | stub =>
    simp only [Engine.start]
    split
    · exact attended.setCall fun mine => absurd mine free
    · exact attended.finish id _

private theorem step (attended : engine.Attended) (id index : Nat) (reply : Reply) :
    (engine.step id index reply).Attended := by
  have spec := engine.step_spec id index reply
  generalize engine.step id index reply = next at spec
  -- A call that does not publish keeps nobody waiting, whatever it does next.
  have calm : ∀ {before : Call}, engine.calls.get? id = some before → ¬ before.Publishes →
      ∀ {middle : Engine}, middle.calls = engine.calls → middle.publisher? = engine.publisher? →
        ∀ after, (middle.setCall id after).Attended := by
    intro before now quiet middle calls publisher after
    refine (attended.of_eq calls publisher).setCall fun mine => ?_
    exact absurd (publisher ▸ mine) (attended.free_of now quiet)
  cases spec with
  | rest => exact attended
  | @get goal gets get now _ =>
    have free := attended.free_of now (by simp [Call.Publishes])
    have same : Attended { engine with cache := (get.step engine.setup engine.cache reply).1 } := attended
    exact same.withGets free _ _
  | forget now => exact calm now (by simp [Call.Publishes]) rfl rfl _
  | forgotten now => exact calm now (by simp [Call.Publishes]) rfl rfl _
  | removed _ => exact attended.finish id _
  | reuse _ _ _ => exact attended.deliver id _ _
  | turn _ _ _ =>
    intro other publisher
    obtain rfl : id = other := Option.some.inj publisher
    exact ⟨_, (calls_setCall ..).trans (if_pos rfl), trivial⟩
  | collect _ => exact attended.setCall fun _ => trivial
  | publish _ =>
    refine Attended.setCall ?_ fun _ => trivial
    exact attended
  | write _ _ => exact attended.setCall fun _ => trivial
  | written _ _ => exact attended.setCall fun _ => trivial
  | failed _ _ => exact attended.finish id _
  | deliver _ => exact attended.deliver id _ _
  | stubThere _ _ => exact attended.finish id _
  | stubMissing now _ => exact calm now (by simp [Call.Publishes]) rfl rfl _
  | stubWrite now _ => exact calm now (by simp [Call.Publishes]) rfl rfl _
  | stubWritten _ _ => exact attended.finish id _
  | stubFailed _ _ => exact attended.finish id _

/-- Every event preserves it, when no call is made under the number of one that others wait for. -/
theorem act (attended : engine.Attended) (event : Event)
    (free : ∀ id job, event = .start id job → engine.publisher? ≠ some id) :
    (engine.act event).Attended := by
  cases event with
  | start id job => exact attended.start (free id job rfl) job
  | step id index reply => exact attended.step id index reply
  | drop id => exact attended.drop id
  | _ => exact attended

/-- Once every call has ended, nobody publishes. -/
theorem publisher_of_idle (attended : engine.Attended) (idle : engine.Idle) :
    engine.publisher? = none := by
  cases publisher : engine.publisher? with
  | none => rfl
  | some id =>
    obtain ⟨call, now, publishes⟩ := attended id publisher
    obtain ⟨result, rfl⟩ := idle id call now
    cases publishes

end Attended

/-- While calls follow one another, the call that others wait for publishes. -/
theorem Created.attended_run (created : engine.Created) {events : List Event}
    (follows : Follows act OneByOne engine events) : (engine.run events).Attended := by
  obtain ⟨_, _, _, _, _, rfl⟩ := created
  refine follows.preserves (P := Attended) (fun now event attended ordered => ?_) (by rintro _ ⟨⟩)
  refine attended.act event fun id job begins => ?_
  subst begins
  rw [attended.publisher_of_idle ordered]
  exact (Option.some_ne_none id).symm

namespace Reached

theorem numbered (reached : engine.Reached) : engine.Numbered := by
  obtain ⟨created, events, first, -, rfl⟩ := reached
  exact first.numbered.run events

theorem attended (reached : engine.Reached) : engine.Attended := by
  obtain ⟨_, events, ⟨_, _, _, _, _, rfl⟩, follows, rfl⟩ := reached
  refine follows.preserves (P := Attended) (fun now event attended new => ?_) (by rintro _ ⟨⟩)
  refine attended.act event fun id job begins => ?_
  subst begins
  exact attended.free fun call there => by cases new.symm.trans there

/-- Once every call has ended, nobody publishes. -/
theorem publisher_of_idle (reached : engine.Reached) (idle : engine.Idle) :
    engine.publisher? = none := reached.attended.publisher_of_idle idle

end Reached

/-- Two components become known. -/
def pairing : List Event :=
  .start 0 (.sync [⟨"Card", ⟨"/Card.vue"⟩, false⟩, ⟨"Menu", ⟨"/Menu.vue"⟩, false⟩]) ::
    List.replicate 6 (.step 0 0 .nothing)

/-- An engine that knows two components. -/
def pair : Engine := bareEngine.run pairing

theorem reached_pair : pair.Reached :=
  ⟨bareEngine, pairing, ⟨{}, [], [], .none, .ok (), rfl⟩,
    ⟨rfl, trivial, trivial, trivial, trivial, trivial, trivial, trivial⟩, rfl⟩

theorem idle_pair : pair.Idle := idle_of_all (by decide +kernel)

theorem landed_pair (path : Path) : (pair.cache.slot path).inFlight? = none := by
  have none : pair.cache.slots = [] := List.isEmpty_iff.mp (by decide +kernel)
  simp [Cache.slot, slot?, none, Table.get?]

theorem store_pair : pair.setup.store? = none := Option.isNone_iff_eq_none.mp (by decide +kernel)

end Engine

end ComponentCatalog
