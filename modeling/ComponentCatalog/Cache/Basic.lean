import ComponentCatalog.Cache.Slot
import ComponentCatalog.Component.Registry
import ComponentCatalog.Host.Notice

/-!
# The cache of analyses

The cache keeps one slot for each path, and the analyses that were started. Whoever wants an entry
takes the one that holds, joins the analysis that is on its way, or starts one. The revision counts
the changes to what a snapshot could show.
-/

namespace ComponentCatalog

open Component

namespace Cache

/-- How far an analysis is. -/
inductive Stage where
  /-- Nothing was done yet. -/
  | created
  /-- The analyzer was asked. -/
  | asked (request : Analyzer.Request)
  /-- What the analyzer found is being stored. -/
  | storing (metadata : Metadata) (time : Nat)
  /-- It is known what came of it, or why there is no analyzer. -/
  | found (result : Except String Entry)
  /-- What came of it is in the cache, and those who wait can have it. -/
  | recorded (result : Except String Entry)

/-- The analysis of one component. -/
structure Analysis where
  identity : Identity
  source : String
  fingerprint : Fingerprint
  stage : Stage := .created

end Cache

open Cache in
/-- The cache of analyses. -/
structure Cache where
  /-- What is known of the components, by the parts of their paths. -/
  slots : Table (List PathPart) Slot := []
  /-- The analyses by their numbers. -/
  tasks : Table Nat Analysis := []
  nextTask : Nat := 1
  /-- How often something changed that a snapshot could show. -/
  revision : Nat := 0
  /-- The number of snapshots that were taken. -/
  generation : Nat := 0
  /-- How often the analyzer was asked. -/
  analyses : Nat := 0
  /-- What is to be told, the latest last. -/
  notices : List Notice := []

namespace Cache

/-- What is known of the component at a path. -/
def slot? (cache : Cache) (path : Path) : Option Slot := cache.slots.get? path.parts

/-- What is known of the component at a path, be it nothing. -/
def slot (cache : Cache) (path : Path) : Slot := (cache.slot? path).getD {}

def setSlot (cache : Cache) (path : Path) (slot : Slot) : Cache :=
  { cache with slots := cache.slots.set path.parts slot }

def tell (cache : Cache) (notice : Notice) : Cache :=
  { cache with notices := cache.notices ++ [notice] }

def status (cache : Cache) (path : Path) : Status := (cache.slot path).status

/-! ## Looking up -/

/-- Where an entry comes from. -/
inductive Lookup where
  | hit (entry : Entry)
  | started (task : Nat)
  | joined (task : Nat)

/-- Finds where the entry of a component with a source comes from, and starts an analysis if it comes
from nowhere else. -/
def lookup (cache : Cache) (identity : Identity) (fingerprint : Fingerprint) (source : String) :
    Cache × Lookup :=
  let slot := cache.slot identity.path
  match slot.inFlight?, slot.hit? identity fingerprint with
  -- Whoever wants an entry joins what is on its way, be it for another source, and compares then.
  | some flight, _ => (cache, .joined flight.task)
  | none, some entry => (cache, .hit entry)
  | none, none =>
    let task := cache.nextTask
    let cache := cache.setSlot identity.path { slot with inFlight? := some ⟨task, fingerprint, false⟩ }
    let tasks := cache.tasks.set task { identity, source, fingerprint }
    ({ cache with tasks, nextTask := task + 1 }, .started task)

/-- The entry of a component whose source cannot be read. -/
def unreadableEntry (identity : Identity) (fault : Files.Fault) : Entry where
  identity := identity
  fingerprint? := none
  outcome := .failed ⟨.source, "cannot read " ++ identity.path.text ++ ": " ++ fault.message⟩

/-- Records that the source of a component cannot be read, unless an analysis is on its way. -/
def recordUnreadable (cache : Cache) (identity : Identity) (fault : Files.Fault) : Cache :=
  let cache := cache.tell (.unreadable identity.name identity.path fault)
  let slot := cache.slot identity.path
  -- What is on its way has the last word.
  if slot.inFlight?.isSome then cache
  else
    let entry := unreadableEntry identity fault
    let cache := cache.setSlot identity.path { slot with last? := some entry, fingerprint? := none }
    { cache with revision := cache.revision + 1 }

/-! ## Forgetting -/

/-- The entry at a path holds no longer. -/
def invalidate (cache : Cache) (path : Path) : Cache :=
  match cache.slot? path with
  | some slot => cache.setSlot path slot.invalidate
  | none => cache

/-- No entry holds any longer. -/
def invalidateAll (cache : Cache) : Cache :=
  { cache with slots := cache.slots.mapValues Slot.invalidate }

/-- Forgets the component at a path. -/
def remove (cache : Cache) (path : Path) : Cache :=
  match cache.slot? path with
  | some _ =>
    -- An analysis that is on its way is not stopped, but there is no slot to record it in.
    { cache with slots := cache.slots.erase path.parts, revision := cache.revision + 1 }
  | none => cache

/-! ## Recording -/

/-- Records what came of a task, unless its slot is gone or has another one on its way. If there was
no analyzer nothing is recorded, and the slot is as it was before. -/
def finish (cache : Cache) (path : Path) (task : Nat) (result? : Option Entry) : Cache :=
  match cache.slot? path with
  | some slot =>
    match slot.inFlight? with
    | some flight =>
      if flight.task = task then
        match result? with
        | some entry =>
          -- What was invalidated in the meantime is shown, but it answers no one who looks it up.
          let fingerprint? := if flight.invalidated then none else some flight.fingerprint
          let cache := cache.setSlot path ⟨fingerprint?, some entry, none⟩
          { cache with revision := cache.revision + 1 }
        | none => cache.setSlot path { slot with inFlight? := none }
      else cache
    | none => cache
  | none => cache

/-! ## Snapshots -/

/-- What a snapshot shows of a component, if an analysis of it came to an end. -/
def shown? (cache : Cache) (identity : Identity) : Option SnapshotEntry := do
  let slot ← cache.slot? identity.path
  let last ← slot.last?
  return ⟨identity, slot.status, last.outcome⟩

/-- Adds what a snapshot shows of one more component. -/
def collect (cache : Cache) (shown : Table String SnapshotEntry) (identity : Identity) :
    Table String SnapshotEntry :=
  match cache.shown? identity with
  | some entry => shown.set identity.name entry
  | none => shown

/-- Takes a snapshot of the components. -/
def snapshot (cache : Cache) (components : List Identity) : Cache × Snapshot :=
  let generation := cache.generation + 1
  ({ cache with generation }, ⟨generation, cache.revision, components.foldl cache.collect []⟩)

end Cache

end ComponentCatalog
