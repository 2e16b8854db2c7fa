import ComponentCatalog.Json.Decode

/-!
# Metadata of a component

What is known of a component in the form in which it is stored and published. A category that was
not asked for is absent, which differs from one in which nothing was found.
-/

namespace ComponentCatalog

namespace Metadata

/-- A prop that a component takes. -/
structure PropInfo where
  name : String
  type : String
  required : Bool
  default? : Option String := none
  description? : Option String := none
  deriving Repr, DecidableEq, Inhabited

/-- A slot, an event or an exposed value. -/
structure MemberInfo where
  name : String
  type : String
  deriving Repr, DecidableEq, Inhabited

/-- Which categories are computed. -/
structure Fields where
  props : Bool := true
  slots : Bool := true
  events : Bool := true
  exposed : Bool := true
  deriving Repr, DecidableEq, Inhabited

end Metadata

open Metadata in
/-- What is known of a component. -/
structure Metadata where
  props? : Option (List PropInfo) := none
  slots? : Option (List MemberInfo) := none
  events? : Option (List MemberInfo) := none
  exposed? : Option (List MemberInfo) := none
  deriving Repr, DecidableEq, Inhabited

namespace Metadata

/-! ## Writing -/

/-- An entry of an object, if there is a value for it. -/
def entry? {α : Type} (key : String) (write : α → Json) : Option α → List (String × Json)
  | some value => [(key, write value)]
  | none => []

def PropInfo.toJson (prop : PropInfo) : Json :=
  .object <| [("name", .string prop.name), ("type", .string prop.type),
    ("required", .bool prop.required)] ++ entry? "default" .string prop.default? ++
    entry? "description" .string prop.description?

def MemberInfo.toJson (member : MemberInfo) : Json :=
  .object [("name", .string member.name), ("type", .string member.type)]

def membersJson (members : List MemberInfo) : Json := .array (members.map MemberInfo.toJson)

/-- Metadata as JSON. Absent categories are left out. -/
def toJson (metadata : Metadata) : Json :=
  .object <| entry? "props" (fun props => .array (props.map PropInfo.toJson)) metadata.props? ++
    entry? "slots" membersJson metadata.slots? ++ entry? "events" membersJson metadata.events? ++
    entry? "exposed" membersJson metadata.exposed?

def Fields.toJson (fields : Fields) : Json :=
  .object [("props", .bool fields.props), ("slots", .bool fields.slots),
    ("events", .bool fields.events), ("exposed", .bool fields.exposed)]

/-! ## Reading -/

def PropInfo.decoder : Decoder PropInfo :=
  Doc.record "struct PropMeta"
    [Doc.field "name" true Doc.asString fun name p => { p with name },
     Doc.field "type" true Doc.asString fun type p => { p with type },
     Doc.field "required" true Doc.asBool fun required p => { p with required },
     Doc.field "default" false (Doc.optional Doc.asString) fun default? p => { p with default? },
     Doc.field "description" false (Doc.optional Doc.asString) fun description? p =>
      { p with description? }]
    ⟨"", "", false, none, none⟩

/-- Reads a member, which reports call by the name of its category. -/
def MemberInfo.decoder (category : String) : Decoder MemberInfo :=
  Doc.record ("struct " ++ category)
    [Doc.field "name" true Doc.asString fun name m => { m with name },
     Doc.field "type" true Doc.asString fun type m => { m with type }]
    ⟨"", ""⟩

def decoder : Decoder Metadata :=
  let members (category : String) := Doc.optional (Doc.list (MemberInfo.decoder category))
  Doc.record "struct ComponentMetadata"
    [Doc.field "props" false (Doc.optional (Doc.list PropInfo.decoder)) fun props? m =>
      { m with props? },
     Doc.field "slots" false (members "SlotMeta") fun slots? m => { m with slots? },
     Doc.field "events" false (members "EventMeta") fun events? m => { m with events? },
     Doc.field "exposed" false (members "ExposedMeta") fun exposed? m => { m with exposed? }]
    {}

/-- Reads a choice of categories. All that are not mentioned are chosen. -/
def Fields.decoder : Decoder Fields :=
  Doc.record "struct MetaFields"
    [Doc.field "props" false Doc.asBool fun props f => { f with props },
     Doc.field "slots" false Doc.asBool fun slots f => { f with slots },
     Doc.field "events" false Doc.asBool fun events f => { f with events },
     Doc.field "exposed" false Doc.asBool fun exposed f => { f with exposed }]
    {}

end Metadata

end ComponentCatalog
