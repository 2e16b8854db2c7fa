import ComponentCatalog.Analyzer.Request
import ComponentCatalog.Sfc.Analysis

/-!
# The analyzer for component files

The analyzer that needs no other program reads the component file itself. What it says of a component
is an object with the chosen categories, in the order of their names.
-/

namespace ComponentCatalog.Analyzer

open Sfc

/-- A declared prop as an analyzer describes it. -/
def describeProp (prop : DeclaredProp) : Json :=
  .object [("default", .optionalString prop.default?), ("name", .string prop.name),
    ("required", .bool prop.required), ("type", .string prop.type)]

/-- A slot, an event or an exposed value as an analyzer describes it. -/
def describeMember (member : Member) : Json :=
  .object [("name", .string member.name), ("type", .string member.type)]

/-- An interface as an analyzer describes it. -/
def describe (fields : Metadata.Fields) (interface : Interface) : Json :=
  let category (chosen : Bool) (name : String) (members : List Json) : List (String × Json) :=
    if chosen then [(name, .array members)] else []
  .object <| category fields.events "events" (interface.events.map describeMember) ++
    category fields.exposed "exposed" (interface.exposed.map describeMember) ++
    category fields.props "props" (interface.props.map describeProp) ++
    category fields.slots "slots" (interface.slots.map describeMember)

/-- The description of a component file, or why its script does not parse. -/
def builtin (request : Request) : Except Fault Json :=
  match interfaceOf request.forceUseTs request.source.toList with
  | .ok interface => .ok (describe request.fields (interface.hiding request.ignore))
  | .error fault => .error (.parse fault.message)

end ComponentCatalog.Analyzer
