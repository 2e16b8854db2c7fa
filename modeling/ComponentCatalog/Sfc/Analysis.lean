import ComponentCatalog.Sfc.Macro
import ComponentCatalog.Sfc.Slot

/-!
# The interface of a component file

A component's interface is what its script declares. Its slots are those of its template unless the
script declares some.
-/

namespace ComponentCatalog.Sfc

open Script

/-- The interface of a component file, or why its script does not parse. -/
def interfaceOf (forceTyped : Bool) (source : List Char) : Except Fault Interface := do
  let declared ← match script? source with
    | some block =>
      let script ← parse (forceTyped || block.isTyped) block.content
      pure (declaredBy block.content script)
    | none => pure {}
  let interface := declared.interface
  let slots :=
    if interface.slots.isEmpty then ((template? source).map templateSlots).getD []
    else interface.slots
  return { interface with slots, props := withDefaults declared.defaults interface.props }

/-- The interface with the types that are not to be shown. -/
def Interface.hiding (ignored : List String) (interface : Interface) : Interface :=
  let shown (type : String) : String := if ignored.contains type then unknownType else type
  let member (m : Member) : Member := { m with type := shown m.type }
  { props := interface.props.map fun p => { p with type := shown p.type }
    slots := interface.slots.map member
    events := interface.events.map member
    exposed := interface.exposed.map member }

end ComponentCatalog.Sfc
