import ComponentCatalog.Script.Expression

/-!
# Declarations

Variables, and the declarations of a typed script: enumerations, interfaces, aliases of types and
namespaces, each also behind `declare`.
-/

namespace ComponentCatalog.Script

open Parse

/-- May `let` before this token declare a variable? -/
def followsLet : Token → Bool
  | .word text => isPlainName text || ["let", "yield", "await"].contains text
  | .mark text => text == "\x7b" || text == "["
  | _ => false

def startsVariables : Parse Bool := do
  if ← isAtAny ["const", "var"] then return true
  return (← isAt "let") && (← isNextToken followsLet)

def variable_ (inForHead : Bool) : Parse Node := do
  let start ← here
  let target ← call .target
  let typed ← typescript
  let target ← if typed then do
      if let .binding _ _ _ := target then let _ ← eat "!"
      annotate start target (← annotation?)
    else pure target
  let noValue ← if inForHead then isAtAny ["in", "of"] else pure false
  let value ← if noValue then pure []
    else if ← eat "=" then pure [← call .assignment]
    else pure []
  return .other .statement (← spanFrom start) (target :: value)

/-- Passes over what follows a declaration up to the end of the statement. -/
def skipToClose : Parse Unit := do
  let _ ← recover (call .expression) fun _ => return invalidAt ⟨0, 0⟩
  repeating () fun _ => do
    if ← eatClose then return (false, ())
    let _ ← advance
    match (← current).token with
    | .bad _ => return (false, ())
    | _ => return (true, ())

/-- Does `in` or `of` follow a declaring word without a name, as in a loop over a value? -/
def lacksVariable : Parse Bool := ahead do
  unless ← isAtAny ["in", "of"] do return false
  let value ← attempt do
    let _ ← advance
    let value ← call .assignment
    expect ")"
    return some value
  return value.isSome

/-- A declaration of variables. Outside of the head of a loop it ends a statement, and what does not
belong to it is passed over. -/
def variableList (inForHead : Bool) : Parse Node := do
  let start ← here
  let word ← advance
  let includesIn := !inForHead || !word.isWord "var"
  if (← typescript) && inForHead then
    if ← lacksVariable then return .other .statement (← spanFrom start) []
  let nodes ← repeating ([] : List Node) fun nodes => do
    if ← isAtClose then return (false, nodes)
    let node ← within (fun ctx => { ctx with allowIn := includesIn || ctx.allowIn })
      (variable_ inForHead)
    return (← eat ",", node :: nodes)
  unless inForHead do
    unless ← eatClose do skipToClose
  return .other .statement (← spanFrom start) nodes.reverse

/-- The resources that a block gives back at its end, if they are declared here. -/
def resources? (start : Nat) : Parse (Option Node) := do
  let _ ← look
  if (← beforeBreak) || !(← isNextToken Token.isName) then return none
  let _ ← advance
  let nodes ← repeating ([] : List Node) fun nodes => do
    if (← isAt ";") || (← atEnd) then return (false, nodes)
    let node ← variable_ false
    return (← eat ",", node :: nodes)
  expectClose
  return some (.other .statement (← spanFrom start) nodes.reverse)

/-- A member of an enumeration. A token that should be a comma is taken for one. -/
def enumMember : Parse Node := do
  let start ← here
  let key ← match ← need with
    | .string _ _ => stringHere
    | .number _ => do
      let _ ← advance
      pure (Node.number (← spanFrom start))
    | token => do
      if token.isMark "[" then
        let _ ← advance
        let _ ← call .expression
        expect "]"
        pure (Node.name (← spanFrom start) "")
      else wordName
  if ← eat "=" then
    let value ← call .assignment
    return .other .statement (← spanFrom start) [key, value]
  unless ← isAtAny [",", "\x7d"] do
    let lexeme ← current
    let _ ← advance
    modify fun state =>
      { state with current := some { lexeme with token := .mark "," } }
  return .other .statement (← spanFrom start) [key]

def enumFrom (start : Nat) : Parse Node := do
  let name ← wordName
  expect "\x7b"
  let members ← repeating ([] : List Node) fun members => do
    if ← isAt "\x7d" then return (false, members)
    let member ← enumMember
    let _ ← eat ","
    return (true, member :: members)
  expect "\x7d"
  return .other .statement (← spanFrom start) (name :: members.reverse)

def interfaceFrom (start : Nat) : Parse Node := do
  let name ← wordName
  let types ← typeParameters?
  let bases ← if ← eat "extends" then heritageList else pure []
  if ← isAt "extends" then
    repeating () fun _ => do
      if (← atEnd) || (← isAt "\x7b") then return (false, ())
      let _ ← advance
      return (true, ())
  let members ← inType typeMembers
  return .interfaceDecl (← spanFrom start) (nameText name) members (types ++ bases)

def aliasFrom (start : Nat) : Parse Node := do
  let name ← wordName
  let types ← typeParameters?
  let type ← typeAfter "="
  expectClose
  return .aliasDecl (← spanFrom start) (nameText name) type types

/-- Pieces of a block up to its closing brace or the end of the script. -/
def blockBody (p : Parse Node) : Parse (List Node) := do
  let nodes ← whileAt (do return !(← look).isMark "\x7d" && !(← atEnd)) p
  let _ ← eat "\x7d"
  return nodes

/-- The block of a namespace, which holds items like a script. -/
def spaceBlock : Parse Node := do
  let start ← here
  expect "\x7b"
  let nodes ← blockBody (call .item)
  return .other .statement (← spanFrom start) nodes

def spaceFrom : Parse Node := do
  let start ← here
  let name ← wordName
  let body ← if ← eat "." then call .space else spaceBlock
  return .other .statement (← spanFrom start) [name, body]

/-- A description of a script elsewhere, from its name on. -/
def ambientSpace (start : Nat) : Parse Node := do
  let name ← if ← isAt "global" then wordName
    else match ← need with
      | .string _ _ => stringHere
      | _ => unexpected "global or a string literal"
  if ← isAt "\x7b" then
    let body ← spaceBlock
    return .other .statement (← spanFrom start) [name, body]
  expectClose
  return .other .statement (← spanFrom start) [name]

/-- A declaration of a typed script that starts with a word. The word is the current token when
`ahead` is set, and has been taken otherwise. -/
def wordDeclaration? (marks : List Node) (start : Nat) (word : String) (ahead : Bool) :
    Parse (Option Node) := do
  let take : Parse Unit := do
    if ahead then let _ ← advance
  let named ← if ahead then pure true else isAtToken Token.isName
  match word with
  | "abstract" =>
    unless ahead || ((← isAt "class") && !(← afterBreak)) do return none
    take
    return some (← classDeclaration marks start true)
  | "enum" =>
    unless named do return none
    take
    return some (← enumFrom start)
  | "interface" =>
    unless named do return none
    take
    return some (← interfaceFrom start)
  | "module" =>
    if ← afterBreak then return none
    take
    if (← need).isString then return some (← ambientSpace start)
    unless named do return none
    return some (← spaceFrom)
  | "namespace" =>
    unless named do return none
    take
    return some (← spaceFrom)
  | "type" =>
    unless ahead || (named && !(← afterBreak)) do return none
    take
    return some (← aliasFrom start)
  | _ => return none

/-- What stands behind `declare`, if it is a declaration. -/
def declared? (marks : List Node) (start : Nat) : Parse (Option Node) :=
  within (fun ctx => { ctx with inDeclare := true }) do
    if ← isAt "function" then return some (← functionDeclaration marks true)
    if ← isAt "class" then return some (← classDeclaration marks start true)
    if (← isAt "const") && (← isNext "enum") then
      let _ ← advance
      let _ ← advance
      return some (← enumFrom start)
    if ← isAtAny ["const", "var", "let"] then return some (← variableList false)
    if ← isAt "global" then return some (← ambientSpace start)
    match (← current).token with
    | .word text => wordDeclaration? marks start text true
    | _ => return none

end ComponentCatalog.Script
