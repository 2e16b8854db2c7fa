import ComponentCatalog.Script.Grammar
import ComponentCatalog.Sfc.Member
import ComponentCatalog.Text.Scan

/-!
# The interface that a script declares

A component declares its interface by calls of five functions: `defineProps`, `withDefaults`,
`defineEmits`, `defineSlots` and `defineExpose`. An interface is given by an object type, written in
place or named, or by an object or array at run time. Types are kept as they are written. The spans of a script are
counted from behind the mark that tells the order of its bytes, if there is one; they are looked up in the whole
text all the same, by the bytes of its encoding.
-/

namespace ComponentCatalog.Sfc

open Script

/-- The number of bytes in which a text is encoded. -/
def byteCount : List Char → Nat
  | [] => 0
  | c :: rest => c.utf8Size + byteCount rest

/-- A text cut behind a number of bytes, if no character is divided. -/
def cutBytes : Nat → List Char → Option (List Char × List Char)
  | 0, text => some ([], text)
  | _ + 1, [] => none
  | count + 1, c :: rest =>
    if c.utf8Size ≤ count + 1 then
      (cutBytes (count + 1 - c.utf8Size) rest).map fun cut => (c :: cut.1, cut.2)
    else none

/-- The stretch of a text between two places. -/
def stretch (text : List Char) (span : Span) : List Char :=
  (text.drop span.lo).take (span.hi - span.lo)

/-- The bytes of a text that are as far from its start as a span is from the start of its script. -/
def bytesAt (text : List Char) (span : Span) : Option (List Char) := do
  let script := withoutMark text
  let (_, rest) ← cutBytes (byteCount (script.take span.lo)) text
  let (found, _) ← cutBytes (byteCount (stretch script span)) rest
  return found

/-- What a text holds at a span of its script. -/
def writtenAt (text : List Char) (span : Span) : Option (List Char) :=
  if span.hi < span.lo then none
  else if startsWithMark text then bytesAt text span
  else some (stretch text span)

/-- What is shown of a span: what is written there, with single spaces. -/
def shownAt (text : List Char) (span : Span) : String :=
  ((writtenAt text span).map Text.squeezed).getD unknownType

/-- The types that a script names, with their members. A later name hides an earlier one. -/
abbrev NamedTypes := List (String × List Node)

/-- The members of a named object type that a node declares. -/
def namedType? : Node → Option (String × List Node)
  | .interfaceDecl _ name members _ => some (name, members)
  | .aliasDecl _ name (.typeLiteral _ members) _ => some (name, members)
  | _ => none

/-- Is a node one that names a type? -/
def namesType : Node → Bool
  | .interfaceDecl _ _ _ _ | .aliasDecl _ _ _ _ => true
  | _ => false

/-- The object types that a script names, the last one first. -/
def namedTypes (script : List Node) : NamedTypes :=
  ((script.flatMap (Node.preorder (!namesType ·))).filterMap namedType?).reverse

/-- A script as it is read: what is shown of a span, and the types it names. -/
structure Source where
  snippet : Span → String
  types : NamedTypes

namespace Source

def typeText (source : Source) (type : List Node) : String :=
  match type with
  | node :: _ => source.snippet node.span
  | [] => unknownType

/-- The members of an object type, or of the object type it names. -/
def membersOf (source : Source) : Node → List Node
  | .typeLiteral _ members => members
  | .typeRef _ (.name _ name) _ => (source.types.lookup name).getD []
  | _ => []

end Source

def stringText? : Node → Option String
  | .string _ value => some value
  | _ => none

def typeKey? : Node → Option String
  | .name _ text => some text
  | .string _ value => some value
  | _ => none

/-- An element or an argument without the dots before it. -/
def withoutDots : Node → Node
  | .other .spread _ [inner] => inner
  | node => node

def elementsOf (elements : List Node) : List Node :=
  (elements.filter (!·.isKind .hole)).map withoutDots

/-- The entries of an object literal that have a name, with their values. -/
def entriesOf (entries : List Node) : List (String × Option Node) :=
  entries.filterMap fun
    | .entry _ key value => (typeKey? key).map (·, some value)
    | .shorthand _ key => (typeKey? key).map (·, none)
    | .method _ key _ => (typeKey? key).map (·, none)
    | _ => none

/-- The type of the values that a constructor makes. -/
def constructedType : String → String
  | "String" => "string"
  | "Number" => "number"
  | "Boolean" => "boolean"
  | "Array" => "unknown[]"
  | "Object" => "Record<string, any>"
  | "Symbol" => "symbol"
  | name => name

/-- The type of a prop that is described by a value at run time. -/
def runtimeType (source : Source) : Node → String
  | .name _ text => constructedType text
  | .array _ elements => " | ".intercalate (runtimeTypes source elements)
  | .cast _ _ type => source.snippet type.span
  | node => source.snippet node.span
where
  /-- The types of the elements of an array. -/
  runtimeTypes (source : Source) : List Node → List String
    | [] => []
    | .other .hole _ _ :: rest => runtimeTypes source rest
    | .other .spread _ [inner] :: rest => runtimeType source inner :: runtimeTypes source rest
    | node :: rest => runtimeType source node :: runtimeTypes source rest

/-- A prop that is described by an object at run time. -/
def describedProp (source : Source) (name : String) (entries : List Node) : DeclaredProp :=
  (entriesOf entries).foldl (fun prop entry =>
    match entry with
    | ("type", some value) => { prop with type := runtimeType source value }
    | ("required", some value) =>
      { prop with required := match value with | .boolean _ b => b | _ => false }
    | ("default", some value) => { prop with default? := some (source.snippet value.span) }
    | _ => prop)
    ⟨name, unknownType, false, none⟩

def runtimeProp (source : Source) : String × Option Node → DeclaredProp
  | (name, some (.object _ entries)) => describedProp source name entries
  | (name, some value) => ⟨name, runtimeType source value, false, none⟩
  | (name, none) => ⟨name, unknownType, false, none⟩

def typedProp? (source : Source) : Node → Option DeclaredProp
  | .property _ key optional type =>
    (typeKey? key).map fun name => ⟨name, source.typeText type, !optional, none⟩
  -- Methods and signatures are no props.
  | _ => none

/-- The props that a call of `defineProps` declares. -/
def propsOf (source : Source) (args types : List Node) : List DeclaredProp :=
  match types, args.map withoutDots with
  | type :: _, _ => (source.membersOf type).filterMap (typedProp? source)
  | [], .array _ elements :: _ =>
    ((elementsOf elements).filterMap stringText?).map (⟨·, "any", false, none⟩)
  | [], .object _ entries :: _ => (entriesOf entries).map (runtimeProp source)
  | [], _ => []

/-- The default values that a call of `withDefaults` gives. -/
def defaultsOf (source : Source) (args : List Node) : List (String × String) :=
  match args.map withoutDots with
  | _ :: .object _ entries :: _ =>
    (entriesOf entries).filterMap fun (name, value?) =>
      value?.map fun value => (name, source.snippet value.span)
  | _ => []

/-- What an event passes on, by a parameter of its signature. -/
def payloadText (source : Source) : Node → String
  | .binding _ name type => name ++ ": " ++ source.typeText type
  | node => source.snippet node.span

/-- An event of an object type: a property, or a signature whose first parameter names it. -/
def typedEvent? (source : Source) : Node → Option Member
  | .callSignature _ (.binding _ _ (.stringType _ name :: _) :: payload) _ =>
    some ⟨name, "[" ++ ", ".intercalate (payload.map (payloadText source)) ++ "]"⟩
  | .property _ key _ type => (typeKey? key).map (⟨·, source.typeText type⟩)
  | _ => none

/-- The events that a call of `defineEmits` declares. -/
def eventsOf (source : Source) (args types : List Node) : List Member :=
  match types, args.map withoutDots with
  | type :: _, _ => (source.membersOf type).filterMap (typedEvent? source)
  | [], .array _ elements :: _ =>
    ((elementsOf elements).filterMap stringText?).map (⟨·, "any[]"⟩)
  | [], .object _ entries :: _ => (entriesOf entries).map fun entry => ⟨entry.1, "any[]"⟩
  | [], _ => []

/-- A slot of an object type: a property, or a method whose first parameter is what it passes on. -/
def typedSlot? (source : Source) : Node → Option Member
  | .methodSignature _ key parameters _ =>
    (typeKey? key).map fun name =>
      match parameters with
      | .binding _ _ type :: _ => ⟨name, source.typeText type⟩
      | _ => ⟨name, "\x7b\x7d"⟩
  | .property _ key _ type => (typeKey? key).map (⟨·, source.typeText type⟩)
  | _ => none

/-- The slots that a call of `defineSlots` declares. -/
def slotsOf (source : Source) (types : List Node) : List Member :=
  match types with
  | type :: _ => (source.membersOf type).filterMap (typedSlot? source)
  | [] => []

/-- The type of an exposed value, as far as its form shows it. -/
def exposedType : Option Node → String
  | some (.other .arrow _ _) | some (.other .function _ _) => "Function"
  | some (.string _ _) => "string"
  | some (.number _) => "number"
  | some (.boolean _ _) => "boolean"
  | _ => unknownType

/-- The values that a call of `defineExpose` exposes. -/
def exposedOf (args : List Node) : List Member :=
  match args.map withoutDots with
  | .object _ entries :: _ => (entriesOf entries).map fun entry => ⟨entry.1, exposedType entry.2⟩
  | _ => []

/-- What the calls of a script declare, and the default values that are given apart. -/
structure Declared where
  interface : Interface := {}
  defaults : List (String × String) := []

/-- What a script declares when a further node of it is seen. -/
def Declared.see (source : Source) (declared : Declared) : Node → Declared
  | .call _ (.name _ callee) args types =>
    let i := declared.interface
    match callee with
    | "defineProps" =>
      { declared with interface := { i with props := i.props ++ propsOf source args types } }
    | "withDefaults" =>
      { declared with defaults := declared.defaults ++ defaultsOf source args }
    | "defineEmits" =>
      { declared with interface := { i with events := i.events ++ eventsOf source args types } }
    | "defineSlots" =>
      { declared with interface := { i with slots := i.slots ++ slotsOf source types } }
    | "defineExpose" =>
      { declared with interface := { i with exposed := i.exposed ++ exposedOf args } }
    | _ => declared
  | _ => declared

/-- What a script declares, given what is shown of its spans. -/
def declaredWith (snippet : Span → String) (script : List Node) : Declared :=
  let source : Source := ⟨snippet, namedTypes script⟩
  -- Calls count wherever they stand, an outer one before those in its arguments.
  (script.flatMap (Node.preorder fun _ => true)).foldl (Declared.see source) {}

/-- What a script declares. -/
def declaredBy (text : List Char) (script : List Node) : Declared :=
  declaredWith (shownAt text) script

/-- The props with the default values given to them; of two values the last counts. -/
def withDefaults (defaults : List (String × String)) (props : List DeclaredProp) :
    List DeclaredProp :=
  props.map fun prop =>
    match defaults.reverse.lookup prop.name with
    | some value => { prop with default? := some value }
    | none => prop

end ComponentCatalog.Sfc
