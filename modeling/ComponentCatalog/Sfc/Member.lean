/-!
# What a component offers

A component takes props, has slots, emits events and exposes values. Each has a name and a type,
which is kept as the text it was written with.
-/

namespace ComponentCatalog.Sfc

/-- The type of what is declared without one. -/
def unknownType : String := "unknown"

/-- A prop as a component declares it. -/
structure DeclaredProp where
  name : String
  type : String
  required : Bool
  default? : Option String
  deriving Repr, DecidableEq

/-- A slot, an event or an exposed value. -/
structure Member where
  name : String
  type : String
  deriving Repr, DecidableEq

/-- All that a component declares, in the order of its source. -/
structure Interface where
  props : List DeclaredProp := []
  slots : List Member := []
  events : List Member := []
  exposed : List Member := []
  deriving Repr, DecidableEq

end ComponentCatalog.Sfc
