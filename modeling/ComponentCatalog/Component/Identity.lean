import ComponentCatalog.Component.Name
import ComponentCatalog.Json.Decode
import ComponentCatalog.Path

/-!
# Which component it is

A component is told by its name, the path of its file and whether it is global. What is discovered
becomes an identity if its name is a display name and its path starts at the root.
-/

namespace ComponentCatalog.Component

/-- Which component it is. -/
structure Identity where
  name : String
  path : Path
  isGlobal : Bool
  deriving Repr, DecidableEq, Inhabited

namespace Identity

/-- What tells components apart: of the path only its parts. -/
def key (identity : Identity) : String × List PathPart × Bool :=
  (identity.name, identity.path.parts, identity.isGlobal)

/-- Are two identities those of one component? -/
def same (a b : Identity) : Bool := a.key == b.key

def toJson (identity : Identity) : Json :=
  .object [("name", .string identity.name), ("path", .string identity.path.text),
    ("global", .bool identity.isGlobal)]

def decoder : Decoder Identity :=
  Doc.record "struct ComponentIdentity"
    [Doc.field "name" true Doc.asString fun name id => { id with name },
     Doc.field "path" true Doc.asPath fun path id => { id with path := ⟨path⟩ },
     Doc.field "global" true Doc.asBool fun isGlobal id => { id with isGlobal }]
    ⟨"", ⟨""⟩, false⟩

end Identity

/-- A component as it is discovered. -/
structure Descriptor where
  displayName : String
  resolvedPath : Path
  isGlobalOnly : Bool := false
  deriving Repr, DecidableEq, Inhabited

def Descriptor.toJson (descriptor : Descriptor) : Json :=
  .object [("displayName", .string descriptor.displayName),
    ("resolvedPath", .string descriptor.resolvedPath.text),
    ("isGlobalOnly", .bool descriptor.isGlobalOnly)]

def Descriptor.decoder : Decoder Descriptor :=
  Doc.record "struct ComponentDescriptor"
    [Doc.field "displayName" true Doc.asString fun displayName d => { d with displayName },
     Doc.field "resolvedPath" true Doc.asPath fun path d => { d with resolvedPath := ⟨path⟩ },
     Doc.field "isGlobalOnly" false Doc.asBool fun isGlobalOnly d => { d with isGlobalOnly }]
    ⟨"", ⟨""⟩, false⟩

/-- Why a discovered component is not taken. -/
inductive DiscoveryFault where
  | emptyName (path : Path)
  | invalidName (name : String)
  | relativePath (name : String) (path : Path)
  | duplicateName (name : String) (existing : Path)
  deriving Repr, DecidableEq

def DiscoveryFault.message : DiscoveryFault → String
  | emptyName path => "component at " ++ path.text ++ " has an empty name"
  | invalidName name => "component \x60" ++ name ++ "\x60 is not PascalCase"
  | relativePath name path => "component \x60" ++ name ++ "\x60 has a relative path " ++ path.text
  | duplicateName name existing =>
    "component name \x60" ++ name ++ "\x60 already registered for " ++ existing.text

/-- The identity of a discovered component. -/
def Descriptor.identify (descriptor : Descriptor) : Except DiscoveryFault Identity :=
  let name := String.ofList (Text.trimmed descriptor.displayName.toList)
  if name.isEmpty then .error (.emptyName descriptor.resolvedPath)
  else if !isDisplayName name then .error (.invalidName name)
  else if !descriptor.resolvedPath.isAbsolute then
    .error (.relativePath name descriptor.resolvedPath)
  else .ok ⟨name, descriptor.resolvedPath, descriptor.isGlobalOnly⟩

end ComponentCatalog.Component
