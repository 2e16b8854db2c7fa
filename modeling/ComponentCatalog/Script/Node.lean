import ComponentCatalog.Script.Token

/-!
# Syntax trees

A tree keeps in full what a component's interface is read from: calls with their arguments, object
and array literals, the members of object types, and the declarations that name them. Every other
construct is an `other` node of a kind, with its parts. The parts of a node, `Node.parts`, stand in
the order in which the interface is collected; a few constructs are visited in another order than
they are written, a class body before the class it extends for instance.
-/

namespace ComponentCatalog.Script

/-- The kinds of construct that are told apart only by name. -/
inductive Kind where
  | this | superRef | importRef | null | bigint | regex | template | tagged
  | paren | sequence | conditional | binary | unary | update | await | yield
  | assign | compound | member | superMember | optional | construct | metaProperty
  | function | arrow | classBody
  | privateName | satisfies | assertion | constAssertion | nonNull | instantiation
  | hole | spread | computed | accessor | defaulted
  | arrayPattern | objectPattern | restPattern | defaultPattern | patternEntry
  | parameter | body | statement | moduleItem | plainType | optionalType | restType | invalid
  deriving Repr, DecidableEq, Inhabited

/-- A piece of a script. -/
inductive Node where
  | name (span : Span) (text : String)
  | string (span : Span) (value : String)
  | number (span : Span)
  | boolean (span : Span) (value : Bool)
  | array (span : Span) (elements : List Node)
  | object (span : Span) (entries : List Node)
  /-- `key: value` in an object literal. -/
  | entry (span : Span) (key value : Node)
  /-- A name that stands for an entry of the same name. -/
  | shorthand (span : Span) (key : Node)
  /-- `key() { … }` in an object literal. -/
  | method (span : Span) (key function : Node)
  | call (span : Span) (callee : Node) (args types : List Node)
  /-- `value as type`. -/
  | cast (span : Span) (value type : Node)
  | typeLiteral (span : Span) (members : List Node)
  /-- A reference to a type; `entity` is a name when it is not qualified. -/
  | typeRef (span : Span) (entity : Node) (types : List Node)
  | stringType (span : Span) (value : String)
  /-- `key?: type` in an object type. -/
  | property (span : Span) (key : Node) (optional : Bool) (type : List Node)
  /-- `(parameters): result` in an object type. -/
  | callSignature (span : Span) (parameters rest : List Node)
  /-- `key(parameters): result` in an object type. -/
  | methodSignature (span : Span) (key : Node) (parameters rest : List Node)
  | interfaceDecl (span : Span) (name : String) (members rest : List Node)
  | aliasDecl (span : Span) (name : String) (type : Node) (rest : List Node)
  /-- A bound name with the type it is given, if any. -/
  | binding (span : Span) (name : String) (type : List Node)
  | other (kind : Kind) (span : Span) (parts : List Node)
  deriving Repr, Inhabited

namespace Node

def span : Node → Span
  | name s _ | string s _ | number s | boolean s _ | array s _ | object s _ | entry s _ _
  | shorthand s _ | method s _ _ | call s _ _ _ | cast s _ _ | typeLiteral s _ | typeRef s _ _
  | stringType s _ | property s _ _ _ | callSignature s _ _ | methodSignature s _ _ _
  | interfaceDecl s _ _ _ | aliasDecl s _ _ _ | binding s _ _ | other _ s _ => s

/-- The parts of a node, in the order in which they are visited. -/
def parts : Node → List Node
  | name _ _ | string _ _ | number _ | boolean _ _ | stringType _ _ => []
  | array _ elements => elements
  | object _ entries => entries
  | entry _ key value => [key, value]
  | shorthand _ key => [key]
  | method _ key function => [key, function]
  | call _ callee args types => callee :: (args ++ types)
  | cast _ value type => [value, type]
  | typeLiteral _ members => members
  | typeRef _ entity types => entity :: types
  | property _ key _ type => key :: type
  | callSignature _ parameters rest => parameters ++ rest
  | methodSignature _ key parameters rest => key :: (parameters ++ rest)
  | interfaceDecl _ _ members rest => rest ++ members
  | aliasDecl _ _ type rest => rest ++ [type]
  | binding _ _ type => type
  | other _ _ parts => parts

/-- A part is smaller than its node. -/
theorem sizeOf_lt_of_mem_parts {node part : Node} (member : part ∈ node.parts) :
    sizeOf part < sizeOf node := by
  have inList {list : List Node} (inside : part ∈ list) : sizeOf part < sizeOf list :=
    List.sizeOf_lt_of_mem inside
  cases node <;> simp only [parts, List.not_mem_nil, List.mem_cons, List.mem_append] at member <;>
    simp_wf <;> grind

/-- A node and the parts below it, each before its own parts. Below a node that is not `open_`
nothing is visited. -/
def preorder (open_ : Node → Bool) (node : Node) : List Node :=
  node :: if open_ node then
      node.parts.attach.flatMap fun ⟨part, _⟩ => preorder open_ part
    else []
termination_by sizeOf node
decreasing_by exact sizeOf_lt_of_mem_parts ‹_›

def isKind (kind : Kind) : Node → Bool
  | other k _ _ => k == kind
  | _ => false

def isName : Node → Bool
  | name _ _ => true
  | _ => false

end Node

end ComponentCatalog.Script
