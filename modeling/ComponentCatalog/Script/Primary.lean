import ComponentCatalog.Script.Access
import ComponentCatalog.Script.Reread

/-!
# Names, parentheses and arrow functions

An opening parenthesis may start an expression, the parameters of an arrow function, or both as far
as one can see. Its contents are read as expressions, and read again as parameters when an arrow
follows.
-/

namespace ComponentCatalog.Script

open Parse

/-- What stands between parentheses. -/
inductive ParenItem where
  /-- An expression, possibly behind dots. -/
  | value (spread : Bool) (node : Node)
  /-- What can only be a parameter. -/
  | pattern (node : Node)

/-- A reading that may have failed already. -/
def lift {α : Type} : Except Fault α → Parse α
  | .ok value => return value
  | .error fault => fail fault

/-- The parameters of an arrow function out of what stood between parentheses. -/
def itemsAsParameters : List ParenItem → Parse (List Node)
  | [] => return []
  | .pattern node :: rest => do return node :: (← itemsAsParameters rest)
  | .value true node :: rest => do
    if rest.isEmpty then
      return [.other .restPattern node.span [← lift (asPattern .bound node)]]
    else itemsAsParameters rest
  | .value false node :: rest => do
    let first ← lift (asPattern .bound node)
    return first :: (← itemsAsParameters rest)

/-- The arms of a conditional expression, from behind its question mark. -/
def conditionalArms (start : Nat) (test : Node) : Parse Node := do
  let whenTrue ← within
    (fun ctx => { ctx with inConditional := true, awaitsColon := true, allowIn := true })
    (call .assignment)
  expect ":"
  let whenFalse ← within (fun ctx => { ctx with inConditional := true, awaitsColon := false })
    (call .assignment)
  return .other .conditional (← spanFrom start) [test, whenTrue, whenFalse]

/-- What follows an expression that is stored to; the expression itself if nothing is. -/
def assignmentFrom (start : Nat) (target : Node) : Parse Node := do
  let token ← look
  unless token.isAssignment do return target
  let plain := token.isMark "="
  let left ← if plain then lift (asPattern .assigned target) else pure target
  unless isAssignable left do fail .badAssignment
  let _ ← advance
  let right ← call .assignment
  return .other (if plain then .assign else .compound) (← spanFrom start) [left, right]

/-- An expression between parentheses in a typed script. -/
def typedValue (start : Nat) : Parse (Bool × Node) := do
  let dots := (← isAt "...") && (← isNextToken Token.isName)
  if dots || (← isAtToken Token.isName) then
    if ← eat "..." then return (true, ← call .binary)
    let node ← call .binary
    return (false, ← assignmentFrom start node)
  else plainValue
where
  /-- Dots and an expression, or an expression. -/
  plainValue : Parse (Bool × Node) := do
    if ← eat "..." then return (true, ← innerAssignment)
    else return (false, ← call .assignment)

/-- Is a question mark here one of an optional parameter? -/
def marksOptional : Parse Bool := do
  return (← isNext ",") || (← isNext ":") || (← isNext ")") || (← isNext "=")

/-- A parameter out of an expression, with its type and its default. -/
def typedParameter (start : Nat) (spread : Bool) (node : Node) : Parse Node := do
  let pattern ← lift (asPattern .bound node)
  let pattern := if spread then .other .restPattern node.span [pattern] else pattern
  let pattern ← annotate start pattern (← annotation?)
  if ← eat "=" then
    let value ← call .assignment
    return .other .defaultPattern (← spanFrom start) [pattern, value]
  else return pattern

/-- One thing between parentheses. -/
def parenItem : Parse ParenItem := do
  let start ← here
  modify fun state => { state with arrowStart := some start }
  unless ← typescript do
    let (spread, node) ← typedValue.plainValue
    return .value spread node
  let _ ← eatModifier
  let patternStart ← here
  let (spread, node) ← typedValue start
  if ← isAt "?" then
    if ← marksOptional then
      let _ ← advance
      let _ ← look
      unless node.isName do fail .optionalPattern
      return .pattern (← typedParameter patternStart spread node)
    unless spread do
      let _ ← advance
      return ← closeItem patternStart spread (← conditionalArms start node)
  closeItem patternStart spread node
where
  /-- An expression, unless a type makes it a parameter. -/
  closeItem (start : Nat) (spread : Bool) (node : Node) : Parse ParenItem := do
    if ← isAt ":" then return .pattern (← typedParameter start spread node)
    else return .value spread node

/-- Can an arrow follow this item directly? -/
def mayPrecedeArrow : ParenItem → Bool
  | .value _ node => node.isName
  | .pattern (.binding _ _ _) => true
  | .pattern _ => false

/-- What stands between parentheses, from the opening one to the closing one. -/
def parenItems : Parse (List ParenItem) :=
  within (fun ctx => { ctx with awaitsColon := false }) do
    expect "("
    let items ← repeating ([] : List ParenItem) fun items => do
      if (← atEnd) || (← isAt ")") then return (false, items)
      let start ← here
      let item ← parenItem
      let items := item :: items
      let items ←
        if (← eat "=>") && mayPrecedeArrow item then do
          let params ← itemsAsParameters items.reverse
          pure (.value false (← arrowFrom start false params [] []) :: items)
        else pure items
      unless ← isAt ")" do expect ","
      return (true, items)
    expect ")"
    return items.reverse

/-- An arrow function between `?` and `:`, where a colon may also end the expression. -/
def arrowInConditional? (start : Nat) (isAsync : Bool) (items : List ParenItem) :
    Parse (Option Node) := attempt do
  let result ← resultType ":"
  expect "=>"
  let params ← itemsAsParameters items
  let arrow ← arrowFrom start isAsync params [] result
  if ← isAtAny [":", ";"] then return some arrow else return none

/-- The result type of an arrow function, if one stands here. -/
def arrowResult? : Parse (Option (List Node)) := attempt do
  let result ← resultType ":"
  if ← isAt "=>" then return some result else return none

/-- The expression between parentheses, when no arrow follows them. -/
def parenthesized (start : Nat) (items : List ParenItem) : Parse Node := do
  let values ← items.mapM fun
    | .value spread node => return (spread, node)
    | .pattern _ => fail .notExpression
  match values with
  | [] => fail .emptyParentheses
  | [(false, node)] => return .other .paren (← spanFrom start) [node]
  | _ =>
    if values.any Prod.fst then fail .spreadInParentheses
    let span ← spanFrom start
    return .other .paren span [.other .sequence span (values.map Prod.snd)]

/-- Operators behind an arrow function whose body is a block. -/
abbrev Continue := Node → Parse Node

/-- A parenthesis: an expression, an arrow function, or the arguments of a call of `async`. -/
def parenOrArrow (continue_ : Continue) (mayBeArrow : Bool) (async? : Option Span) :
    Parse Node := do
  let start ← match async? with
    | some span => pure span.lo
    | none => here
  let items ← within (fun ctx => { ctx with awaitsColon := false, allowIn := true }) parenItems
  let ctx ← context
  if ctx.typescript && ctx.inConditional && ctx.awaitsColon && (← isAt ":") then
    if let some arrow ← arrowInConditional? start async?.isSome items then return arrow
  let result ← if ctx.typescript && !ctx.awaitsColon && (← isAt ":") then arrowResult?
    else pure none
  let hasPattern := items.any fun
    | .pattern _ => true
    | _ => false
  if hasPattern || result.isSome || (← isAt "=>") then
    if ← afterBreak then fail .breakBeforeArrow
    unless mayBeArrow do fail .arrowNotAllowed
    expect "=>"
    let params ← itemsAsParameters items
    let block ← isAt "\x7b"
    let arrow ← arrowFrom start async?.isSome params [] (result.getD [])
    if block && (← isAtToken Token.isBinary) then return ← continue_ arrow
    return arrow
  match async? with
  | some span =>
    let args ← items.mapM fun
      | .value true node => return .other .spread node.span [node]
      | .value false node => return node
      | .pattern _ => fail .notExpression
    return .call (← spanFrom start) (.name span "async") args []
  | none => parenthesized start items

/-- An expression that starts with `async`, when the word is no plain name. -/
def asyncExpression? (continue_ : Continue) (start : Nat) (mayBeArrow : Bool) :
    Parse (Option Node) := do
  if (← isNext "function") && !(← beforeBreak) then
    let _ ← advance
    return some (← functionExpression start true)
  if mayBeArrow && (← typescript) && (← isNext "<") then
    let arrow ← attempt do
      let _ ← advance
      genericAsyncArrow? start
    if arrow.isSome then return arrow
  if mayBeArrow && (← isNext "(") && !(← beforeBreak) then
    let _ ← advance
    return some (← parenOrArrow continue_ mayBeArrow (some ⟨start, (← get).taken⟩))
  return none

/-- A name, or an arrow function whose only parameter it is. -/
def nameOrArrow (start : Nat) (mayBeArrow : Bool) : Parse Node := do
  let ctx ← context
  let name ← plainName (!ctx.inGenerator) (!ctx.inAsync)
  unless mayBeArrow && !(← afterBreak) do return name
  if nameText name == "async" && (← isAtToken Token.isName) then
    let param ← boundName
    expect "=>"
    return ← arrowFrom start true [bindingOf param] [] []
  if ← eat "=>" then return ← arrowFrom start false [bindingOf name] [] []
  return name

/-- May a name start here? -/
def startsName : Parse Bool := do
  return (← isAt "let") || (← isAtToken Token.isName)

/-- An expression without operators and accesses. -/
def primary (continue_ : Continue) : Parse Node := do
  let start ← here
  let mayBeArrow := (← get).arrowStart == some start
  let token ← look
  if token.isWord "this" then
    let _ ← advance
    return .other .this (← spanFrom start) []
  if token.isWord "async" then
    if let some node ← asyncExpression? continue_ start mayBeArrow then return node
  if token.isMark "[" then return ← arrayLiteral
  if token.isMark "\x7b" then return ← objectLiteral
  if token.isWord "function" then return ← functionExpression start false
  if let some node ← tokenLiteral? then return node
  if token.isMark "/" || token.isMark "/=" then return ← regexLiteral
  if token.isMark "`" then
    let parts ← template false (allowingIn true (call .expression))
    return .other .template (← spanFrom start) parts
  if token.isMark "(" then return ← parenOrArrow continue_ mayBeArrow none
  let marks ← decorators
  if ← isAt "class" then return ← classFrom marks start false
  if ← startsName then return ← nameOrArrow start mayBeArrow
  if ← eat "#" then
    let name ← wordName
    return .other .privateName (← spanFrom start) [name]
  fail .noExpression

end ComponentCatalog.Script
