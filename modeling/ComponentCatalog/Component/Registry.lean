import ComponentCatalog.Component.Identity
import ComponentCatalog.Options.Exclude

/-!
# Known components

The registry holds the components that were discovered last, in the order in which they first came.
Of the discovered components it takes those that are not filtered out, are well formed, and share
neither a path nor a name with one taken before.
-/

namespace ComponentCatalog

namespace Component

/-- What changed in a registry. -/
structure Diff where
  added : List Identity
  removed : List Identity
  deriving Repr, DecidableEq

def Diff.isEmpty (diff : Diff) : Bool := diff.added.isEmpty && diff.removed.isEmpty

/-- The identities of one list that another one does not have. -/
def missingFrom (others identities : List Identity) : List Identity :=
  identities.filter fun identity => !others.any identity.same

/-- The components that are in one of two lists alone. -/
def diff (previous current : List Identity) : Diff :=
  ⟨missingFrom previous current, missingFrom current previous⟩

/-- A report that a discovered component was dropped, with its path if another one has its name. -/
structure Dropped where
  fault : DiscoveryFault
  path? : Option Path
  deriving Repr, DecidableEq

/-- What decides which components are filtered out. -/
structure Filter where
  exclude : List Exclude := []
  globalsOnly : Bool := false

/-- Is a discovered component filtered out? -/
def Filter.rejects (filter : Filter) (descriptor : Descriptor) : Bool :=
  (filter.globalsOnly && !descriptor.isGlobalOnly) ||
    filter.exclude.any (·.holds descriptor.resolvedPath)

/-- What becomes of one more discovered component, given those that were taken. -/
def Filter.admit (filter : Filter) (taken : List Identity) (descriptor : Descriptor) :
    Option (Except Dropped Identity) :=
  if filter.rejects descriptor then none
  else match descriptor.identify with
    | .error fault => some (.error ⟨fault, none⟩)
    | .ok identity =>
      -- To come upon a file twice is no fault; two files of one name are one.
      if taken.any (·.path.same identity.path) then none
      else match taken.find? (·.name == identity.name) with
        | some existing =>
          some (.error ⟨.duplicateName identity.name existing.path, some identity.path⟩)
        | none => some (.ok identity)

/-- The components that are taken from those discovered, and the reports on those dropped. -/
def Filter.select (filter : Filter) (descriptors : List Descriptor) : List Identity × List Dropped :=
  descriptors.foldl
    (fun (taken, dropped) descriptor =>
      match filter.admit taken descriptor with
      | some (.ok identity) => (taken ++ [identity], dropped)
      | some (.error report) => (taken, dropped ++ [report])
      | none => (taken, dropped))
    ([], [])

end Component

open Component in
/-- The components that are known, in order. -/
structure Registry where
  filter : Filter := {}
  list : List Identity := []

namespace Registry

open Component

/-- The components that stay when a list is discovered, and behind them the new ones. -/
def merge (known current : List Identity) : List Identity :=
  let kept := known.filter fun identity => current.any identity.same
  -- A file whose component has another name now is not kept: it goes behind the others.
  kept ++ current.filter fun identity => !kept.any (·.path.same identity.path)

/-- Takes the discovered components for the known ones, and says what changed. -/
def register (registry : Registry) (descriptors : List Descriptor) :
    Registry × Diff × List Dropped :=
  let (current, dropped) := registry.filter.select descriptors
  ({ registry with list := merge registry.list current }, diff registry.list current, dropped)

def get? (registry : Registry) (path : Path) : Option Identity :=
  registry.list.find? (·.path.same path)

def findByName? (registry : Registry) (name : String) : Option Identity :=
  registry.list.find? (·.name == name)

end Registry

end ComponentCatalog
