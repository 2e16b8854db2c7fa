import ComponentCatalog.Proofs.Cache.Sound

/-! # What undisturbed calls rely on

An entry that a slot shows is taken from it only by removal. So a call whose path nobody removes finds
what it got in the slot, and the task that it waits for on its way there, unless that came to an end.
-/

namespace ComponentCatalog

open Component

namespace Cache

/-- The slot of a path shows an entry. -/
def Shown (cache : Cache) (path : Path) : Prop := (cache.slot path).last?.isSome

namespace Get

variable {setup : Setup} {cache cache' : Cache} {get : Get} {reply : Reply} {stage : Stage}

/-- A step takes no entry from a slot. -/
theorem Transition.shown (step : Transition setup cache get reply cache' stage) {path : Path}
    (shown : cache.Shown path) : cache'.Shown path := by
  cases step.slotChange path with
  | kept same => simpa only [Shown, same] using shown
  | unreadable _ _ _ _ now => simp [Shown, now, Slot.unreadable]
  | started _ _ _ _ now _ => simpa only [Shown, now] using shown
  | recorded _ _ _ now _ => simp [Shown, now, Slot.recorded]
  | landed _ _ _ now _ => simpa only [Shown, now, Slot.landed] using shown

/-- What a call relies on that nobody disturbs: the slot is on its way to the task that the call waits
for, or shows an entry, or the task ended for want of an analyzer; and it shows what was got. -/
structure Grounded (cache : Cache) (get : Get) : Prop where
  waiting : ∀ source task joined, get.stage = .waiting source task joined →
    (∃ flight, (cache.slot get.identity.path).inFlight? = some flight ∧ flight.task = task) ∨
    cache.Shown get.identity.path ∨
    ∃ analysis reason, cache.tasks.get? task = some analysis ∧
      analysis.stage = .recorded (.error reason)
  done : ∀ entry, get.stage = .done (.ok entry) → cache.Shown get.identity.path

/-- A call goes on waiting for a task that is open. -/
theorem Transition.waits (step : Transition setup cache get reply cache' stage) {source : String}
    {task : Nat} {joined : Bool} (waiting : get.stage = .waiting source task joined)
    {analysis : Analysis} (present : cache.tasks.get? task = some analysis)
    (opened : analysis.Open) : stage = get.stage := by
  cases step with
  | rest => rfl
  | work _ _ _ _ _ _ => rfl
  | record _ _ _ => rfl
  | take waiting' present' recorded =>
    cases waiting.symm.trans waiting'
    cases present.symm.trans present'
    exact absurd recorded (opened _)
  | read reading _ => cases waiting.symm.trans reading
  | unreadable reading _ => cases waiting.symm.trans reading
  | hit looking _ _ => cases waiting.symm.trans looking
  | start looking _ _ => cases waiting.symm.trans looking
  | join looking _ => cases waiting.symm.trans looking

/-- A step of any call leaves the ground of the others. -/
theorem Transition.grounded (step : Transition setup cache get reply cache' stage)
    (sound : cache.Sound) {other : Get} (grounded : other.Grounded cache) :
    other.Grounded cache' where
  waiting := by
    intro source task joined waiting
    rcases grounded.waiting source task joined waiting with
      ⟨flight, flying, rfl⟩ | shown | ⟨analysis, reason, present, recorded⟩
    · cases step.slotChange other.identity.path with
      | kept same => exact .inl ⟨flight, same ▸ flying, rfl⟩
      | unreadable _ _ _ idle _ => cases idle.symm.trans flying
      | started _ _ idle _ _ _ => cases idle.symm.trans flying
      | recorded _ _ _ now _ => exact .inr (.inl (by simp [Shown, now, Slot.recorded]))
      | landed flying' _ _ _ after =>
        cases flying.symm.trans flying'
        exact .inr (.inr ⟨_, _, after, rfl⟩)
    · exact .inr (.inl (step.shown shown))
    · obtain ⟨later, there, grows⟩ := (step.grows sound).tasks present
      rw [grows.recorded _ recorded] at there
      exact .inr (.inr ⟨analysis, reason, there, recorded⟩)
  done := fun entry done => step.shown (grounded.done entry done)

/-- A call finds new ground with each of its steps, if nothing is on its way when it cannot read. -/
theorem Transition.grounded_self (step : Transition setup cache get reply cache' stage)
    (sound : cache.Sound) (grounded : get.Grounded cache)
    (alone : get.stage = .reading → (cache.slot get.identity.path).inFlight? = none) :
    Get.Grounded cache' { get with stage } := by
  have kept := step.grounded sound grounded
  cases step with
  | rest => exact kept
  | work _ _ _ _ _ _ => exact kept
  | record _ _ _ => exact kept
  | read _ _ => exact ⟨by simp, by simp⟩
  | @unreadable fault reading _ =>
    refine ⟨by simp, fun _ _ => ?_⟩
    have now := slot?_recordUnreadable cache get.identity.path get.identity fault
    rw [if_pos ⟨rfl, alone reading⟩] at now
    simp [Shown, slot_eq _ now, Slot.unreadable]
  | hit _ _ hit =>
    refine ⟨by simp, fun _ _ => ?_⟩
    simp [Shown, (Slot.hit?_eq_some hit).2.1]
  | start _ _ _ =>
    refine ⟨fun _ _ _ waiting => ?_, by simp⟩
    cases waiting
    exact .inl ⟨_, congrArg Slot.inFlight? (slot_eq _ ((slot?_launched ..).trans (if_pos rfl))), rfl⟩
  | join _ flying =>
    refine ⟨fun _ _ _ waiting => ?_, by simp⟩
    cases waiting
    exact .inl ⟨_, flying, rfl⟩
  | @take source task joined analysis result waiting present recorded =>
    refine ⟨fun _ _ _ waiting' => ?_, fun entry done => ?_⟩
    · unfold afterTask at waiting'
      split at waiting'
      · cases waiting'
      · split at waiting' <;> cases waiting'
    · have ok : ∃ entry, result = .ok entry := by
        unfold afterTask at done
        split at done
        · cases done
        · exact ⟨_, rfl⟩
      obtain ⟨entry, rfl⟩ := ok
      rcases grounded.waiting source task joined waiting with
        ⟨flight, flying, rfl⟩ | shown | ⟨other, reason, present', failed⟩
      · obtain ⟨flown, there, _, _, opened⟩ := (sound.slot _).flight flight flying
        cases present.symm.trans there
        exact absurd recorded (opened _)
      · exact shown
      · cases present.symm.trans present'
        cases recorded.symm.trans failed

end Get

end Cache

end ComponentCatalog
