import ComponentCatalog.Script.TypeExpr

/-!
# Functions

Functions with their parameters, their result and their body, wherever they stand: declarations,
expressions, methods and arrows.
-/

namespace ComponentCatalog.Script

open Parse

/-- Reads the body of a function in the surroundings it has. -/
def inBody {α : Type} (isAsync isGenerator : Bool) (p : Parse α) : Parse α := do
  let before := (← get).arrowStart
  modify fun state => { state with arrowStart := none }
  let result ← within (fun ctx =>
    { ctx with
      inAsync := isAsync, inGenerator := isGenerator, inFunction := true, inParameters := false }) p
  modify fun state => { state with arrowStart := before }
  return result

/-- The body of a function in braces. A typed script may leave it out. -/
def functionBody (isAsync isGenerator : Bool) : Parse (Option Node) :=
  inBody isAsync isGenerator do
    if (← typescript) && !(← isAt "\x7b") && (← eatClose) then return none
    return some (← allowingIn true (call .block))

/-- The body of an arrow function: a block or an expression. -/
def arrowBody (isAsync : Bool) : Parse Node :=
  inBody isAsync false do
    if ← isAt "\x7b" then call .block else call .assignment

/-- A function from its type parameters on, and whether it has a body. -/
def functionRest (marks : List Node) (start : Nat) (isAsync isGenerator : Bool) :
    Parse (Node × Bool) :=
  within (fun ctx => { ctx with inAsync := isAsync, inGenerator := isGenerator }) do
    let types ← if ← typescript then typeParameters? else pure []
    expect "("
    let params ← within (fun ctx => { ctx with inParameters := true, inFunction := false }) parameters
    expect ")"
    let result ← if ← typescript then resultType? else pure []
    let body ← functionBody isAsync isGenerator
    let node := Node.other .function (← spanFrom start)
      (params ++ marks ++ body.toList ++ types ++ result)
    return (node, body.isSome)

/-- A function from the word `function` on. -/
def functionFrom (marks : List Node) (start : Nat) (isAsync nameRequired : Bool) :
    Parse (Node × Bool) := do
  expect "function"
  let isGenerator ← eat "*"
  let name ← if nameRequired then pure [← boundName] else pure (← boundName?).toList
  let (function, hasBody) ←
    within (fun ctx => { ctx with allowSuper := false, awaitsColon := false })
      (functionRest marks start isAsync isGenerator)
  match function with
  | .other kind span parts => return (.other kind span (name ++ parts), hasBody)
  | other => return (other, hasBody)

def functionExpression (start : Nat) (isAsync : Bool) : Parse Node := do
  let (node, hasBody) ← functionFrom [] start isAsync false
  unless hasBody do unexpected "\x7b"
  return node

def functionDeclaration (marks : List Node) (nameRequired : Bool) : Parse Node := do
  let start ← here
  let isAsync ← eat "async"
  let (node, _) ← functionFrom marks start isAsync nameRequired
  return .other .statement (← spanFrom start) [node]

def arrowFrom (start : Nat) (isAsync : Bool) (params types result : List Node) : Parse Node := do
  let body ← arrowBody isAsync
  return .other .arrow (← spanFrom start) (params ++ [body] ++ types ++ result)

/-- An asynchronous arrow function with type parameters, if one stands here. -/
def genericAsyncArrow? (start : Nat) : Parse (Option Node) := do
  unless ← isAt "<" do return none
  let head ← attempt do
    let types ← typeParameters
    expect "("
    let params ← parameters
    expect ")"
    let result ← resultType?
    expect "=>"
    return some (types, params.map patternOf, result)
  match head with
  | some (types, params, result) =>
    return some (← within (fun ctx => { ctx with inAsync := true, inGenerator := false })
      (arrowFrom start true params types result))
  | none => return none

end ComponentCatalog.Script
