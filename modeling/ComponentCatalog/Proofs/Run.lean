/-! # Runs of a state machine

A run makes events one after the other. Events that each keep to a guard in the state that they are
made in follow it; what every guarded event preserves, the whole run preserves. What an observer sees of
the single events makes up what is observed of the run.
-/

namespace ComponentCatalog

variable {σ ε : Type} {act : σ → ε → σ} {guard weaker : σ → ε → Prop} {state : σ}

/-- Events that each keep to a guard, in the state that they are made in. -/
def Follows (act : σ → ε → σ) (guard : σ → ε → Prop) : σ → List ε → Prop
  | _, [] => True
  | state, first :: rest => guard state first ∧ Follows act guard (act state first) rest

namespace Follows

theorem append {first second : List ε} (left : Follows act guard state first)
    (right : Follows act guard (first.foldl act state) second) :
    Follows act guard state (first ++ second) := by
  induction first generalizing state with
  | nil => exact right
  | cons event rest ih => exact ⟨left.1, ih left.2 right⟩

/-- One more event has to keep to the guard in the state behind the others. -/
theorem concat_iff {events : List ε} {event : ε} :
    Follows act guard state (events ++ [event]) ↔
      Follows act guard state events ∧ guard (events.foldl act state) event := by
  induction events generalizing state with
  | nil => simp [Follows]
  | cons first rest ih => simp [Follows, ih, and_assoc]

theorem mono {events : List ε} (follows : Follows act guard state events)
    (weakens : ∀ state event, guard state event → weaker state event) :
    Follows act weaker state events := by
  induction events generalizing state with
  | nil => trivial
  | cons event rest ih => exact ⟨weakens _ _ follows.1, ih follows.2⟩

/-- Every run follows the guard that allows all. -/
theorem free (events : List ε) : Follows act (fun _ _ => True) state events := by
  induction events generalizing state with
  | nil => trivial
  | cons event rest ih => exact ⟨trivial, ih⟩

/-- What every guarded event preserves, guarded runs preserve. -/
theorem preserves {P : σ → Prop} {events : List ε} (follows : Follows act guard state events)
    (step : ∀ state event, P state → guard state event → P (act state event)) (holds : P state) :
    P (events.foldl act state) := by
  induction events generalizing state with
  | nil => exact holds
  | cons event rest ih => exact ih follows.2 (step state event holds follows.1)

end Follows

/-- What is seen of the events of a run, in their order. -/
def observed {α : Type} (act : σ → ε → σ) (see : σ → ε → Option α) : σ → List ε → List α
  | _, [] => []
  | state, event :: rest => (see state event).toList ++ observed act see (act state event) rest

/-- The last event is seen in the state behind the others. -/
theorem observed_concat {α : Type} {see : σ → ε → Option α} {events : List ε} {event : ε} :
    observed act see state (events ++ [event]) =
      observed act see state events ++ (see (events.foldl act state) event).toList := by
  induction events generalizing state with
  | nil => simp [observed]
  | cons first rest ih => simp [observed, ih]

end ComponentCatalog
