import ComponentCatalog.Catalog.Failure
import ComponentCatalog.Component.Identity
import ComponentCatalog.Metadata.Basic
import ComponentCatalog.Table

/-!
# Snapshots

A snapshot shows what is known of the components at one time, in the order of the registry. Until the
first one is taken a stub without components stands in.
-/

namespace ComponentCatalog

/-- What an analysis came to. -/
inductive Outcome where
  | resolved (metadata : Metadata)
  | failed (failure : Failure)
  deriving Repr, DecidableEq, Inhabited

/-- One component of a snapshot. -/
structure SnapshotEntry where
  identity : Component.Identity
  status : Status
  outcome : Outcome
  deriving Repr, DecidableEq, Inhabited

/-- What is known of the components at one time. -/
structure Snapshot where
  /-- The number of the snapshot; zero for the stub. -/
  generation : Nat := 0
  /-- The number of outcomes that had been recorded. -/
  revision : Nat := 0
  /-- The components under their names. -/
  components : Table String SnapshotEntry := []
  deriving Repr, DecidableEq, Inhabited

namespace Snapshot

/-- What stands in until the first snapshot is taken. -/
def stub : Snapshot := {}

def isStub (snapshot : Snapshot) : Bool := snapshot.generation == 0

def get? (snapshot : Snapshot) (name : String) : Option SnapshotEntry :=
  snapshot.components.get? name

end Snapshot

end ComponentCatalog
