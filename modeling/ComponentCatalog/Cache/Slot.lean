import ComponentCatalog.Catalog.Snapshot
import ComponentCatalog.Digest.Fingerprint

/-!
# What is known of one component

A slot remembers what the last analysis of a component came to, the fingerprint of the source for
which that still holds, and the analysis that is on its way, of which there is at most one.
-/

namespace ComponentCatalog

open Component

namespace Cache

/-- What came of one analysis. -/
structure Entry where
  identity : Identity
  /-- Of the source that was analyzed; nothing if it could not be read. -/
  fingerprint? : Option Fingerprint
  outcome : Outcome
  deriving Repr, DecidableEq, Inhabited

/-- An analysis that is on its way. -/
structure InFlight where
  task : Nat
  fingerprint : Fingerprint
  /-- Was the component invalidated since it began? -/
  invalidated : Bool := false
  deriving Repr, DecidableEq, Inhabited

/-- What is known of one component. -/
structure Slot where
  /-- Of the source for which the last entry holds; nothing if it holds no longer. -/
  fingerprint? : Option Fingerprint := none
  last? : Option Entry := none
  inFlight? : Option InFlight := none
  deriving Repr, DecidableEq, Inhabited

/-- How the component stands. -/
def Slot.status (slot : Slot) : Status :=
  if slot.inFlight?.isSome then .pending
  else match slot.last?, slot.fingerprint? with
    | none, _ => .unknown
    | some _, none => .stale
    | some ⟨_, _, .resolved _⟩, some _ => .resolved
    | some ⟨_, _, .failed _⟩, some _ => .error

/-- The slot after its entry ceased to hold, for an analysis on its way, too. -/
def Slot.invalidate (slot : Slot) : Slot where
  fingerprint? := none
  last? := slot.last?
  inFlight? := slot.inFlight?.map fun flight => { flight with invalidated := true }

/-- The entry of a slot, if it holds for a component with a source of the fingerprint. -/
def Slot.hit? (slot : Slot) (identity : Identity) (fingerprint : Fingerprint) : Option Entry :=
  if slot.fingerprint? == some fingerprint then slot.last?.filter (·.identity.same identity)
  else none

end Cache

end ComponentCatalog
