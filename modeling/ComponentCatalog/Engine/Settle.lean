import ComponentCatalog.Engine.Basic

/-!
# Driving an engine

Calls are driven in the order in which they were made, each as far as it comes. What a call needs is
asked for in any monad; if there is no reply yet the call rests. Once no call takes a step any more
the engine is settled.
-/

namespace ComponentCatalog.Engine

variable {m : Type → Type} [Monad m]

/-- Who replies to needs, at once or not yet. -/
abbrev Replier (m : Type → Type) := Need → m (Option Reply)

/-- The number of entries that a call gets. -/
def Call.width : Call → Nat
  | getting _ gets => gets.length
  | _ => 0

/-- A number of steps that no call takes. Each of the entries that are being got looks up the cache
at most once for each of them, with a few steps in between; the rest is publishing. -/
def budget (engine : Engine) : Nat :=
  let gets := engine.calls.foldl (fun total entry => total + entry.2.width) 1
  let components := engine.registry.list.length + engine.cache.slots.length
  gets * gets * 16 + (engine.calls.length + 1) * (components + 32)

/-- Drives one part of a call as far as it comes, and tells whether it took a step. -/
def drive (reply : Replier m) (id index : Nat) : Nat → Engine → Bool → m (Engine × Bool)
  | 0, engine, moved => pure (engine, moved)
  | fuel + 1, engine, moved => do
    match engine.need? id index with
    | none => pure (engine, moved)
    | some need =>
      match ← reply need with
      | some reply' => drive reply id index fuel (engine.step id index reply') true
      | none => pure (engine, moved)

/-- Drives all parts of a call as far as they come. -/
def driveCall (reply : Replier m) (fuel : Nat) (engine : Engine) (id : Nat) : m (Engine × Bool) :=
  let width := ((engine.calls.get? id).map Call.width).getD 0
  (List.range (max 1 width)).foldlM
    (fun (engine, moved) index => drive reply id index fuel engine moved) (engine, false)

/-- Drives all calls as far as they come, until none takes a step. -/
def rounds (reply : Replier m) (fuel : Nat) : Nat → Engine → m Engine
  | 0, engine => pure engine
  | left + 1, engine => do
    let (engine, moved) ← (engine.calls.map Prod.fst).foldlM
      (fun (engine, moved) id => do
        let (engine, moved') ← driveCall reply fuel engine id
        pure (engine, moved || moved')) (engine, false)
    if moved then rounds reply fuel left engine else pure engine

/-- Drives all calls as far as they come. -/
def settle (reply : Replier m) (engine : Engine) : m Engine :=
  rounds reply engine.budget engine.budget engine

/-- Makes a call to an engine that has none, and takes what it came to. -/
def call (reply : Replier m) (engine : Engine) (job : Job) :
    m (Engine × Option (Except Fault Answer)) := do
  let engine ← settle reply (engine.start 0 job)
  pure (engine.drop 0, engine.result? 0)

end ComponentCatalog.Engine
