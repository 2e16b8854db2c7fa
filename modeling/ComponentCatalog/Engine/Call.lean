import ComponentCatalog.Cache.Progress
import ComponentCatalog.Engine.Artifact

/-!
# Calls to an engine

A call asks an engine for something. It gets the entries that it needs, all at the same time, and
publishes what is known then. Publishing is done by one call after the other, so that the published
files follow the snapshots.
-/

namespace ComponentCatalog.Engine

open Component Cache

/-- What an engine is asked to do. -/
inductive Job where
  /-- Takes over the components that were discovered. -/
  | sync (descriptors : List Descriptor)
  /-- Analyzes a component. -/
  | parse (identity : Identity)
  | parseNamed (name : String)
  | parseAll
  /-- The source at a path changed. -/
  | changed (path : Path)
  /-- Gets an entry, and publishes nothing. -/
  | get (identity : Identity)
  /-- Forgets the component at a path. -/
  | forget (path : Path)
  /-- Writes a module without components, if there is none. -/
  | stub

/-- What an engine answers. -/
inductive Answer where
  | diff (diff : Diff)
  | metadata (metadata : Metadata)
  | snapshot (snapshot : Snapshot)
  | entry (found? : Option Entry)
  | nothing

/-- What becomes of the entries that a call gets. -/
inductive Goal where
  /-- The metadata of a component, once they are published. -/
  | metadata (name : String)
  /-- The snapshot with all of them; the number of analyses before is known. -/
  | all (analysesBefore : Nat)
  /-- The entry, once it is published. -/
  | published
  /-- The entry as it is. -/
  | plain

/-- What a call answers once the snapshot is published. -/
inductive Pending where
  | diff (diff : Diff)
  | metadata (name : String) (outcome : Outcome)
  | entry (entry : Entry)
  | all (analysesBefore components failed : Nat)

/-- How far a publication is. -/
inductive Publication where
  /-- Another call publishes. -/
  | waiting
  /-- The snapshot is taken, component by component. -/
  | collecting (revision : Nat) (rest : List Identity) (shown : Table String SnapshotEntry)
  | writing (snapshot : Snapshot) (artifacts : List Artifact)

/-- How far a call is. -/
inductive Call where
  | getting (goal : Goal) (gets : List Get)
  /-- Components are forgotten; behind that a change is published, if there is one. -/
  | forgetting (paths : List Path) (diff? : Option Diff)
  | publishing (pending : Pending) (publication : Publication)
  | lookingForStub (artifact : Artifact)
  | writingStub (artifact : Artifact)
  | finished (result : Except Fault Answer)

namespace Call

/-- The result of a call that is finished. -/
def result? : Call → Option (Except Fault Answer)
  | finished result => some result
  | _ => none

end Call

end ComponentCatalog.Engine
