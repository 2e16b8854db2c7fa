import ComponentCatalog.Script.Primary

/-!
# Expressions

Operators of all ranks, conditional expressions, assignments and sequences. A missing operand does
not always stop the reading: an operator without its left operand, and a sign without its operand,
are read on with an `invalid` node in their place.
-/

namespace ComponentCatalog.Script

open Parse

def awaitFrom (start : Nat) : Parse Node := do
  if ← isAt "*" then fail .awaitStar
  if (← isAtAny [")", "]"]) && !(← context).inAsync then
    return .name (← spanFrom start) "await"
  let value ← call .unary
  return .other .await (← spanFrom start) [value]

def awaitExpression : Parse Node := do
  let start ← here
  let _ ← advance
  awaitFrom start

/-- A type in angle brackets before a value, from behind the opening bracket. -/
def assertionFrom (start : Nat) : Parse Node := do
  if ← eat "const" then
    expect ">"
    let value ← call .unary
    return .other .constAssertion (← spanFrom start) [value]
  let type ← inType (call .type)
  expect ">"
  let value ← call .unary
  return .other .assertion (← spanFrom start) [value, type]

/-- The operators that stand before their operand. -/
def signs : List String := ["delete", "void", "typeof", "+", "-", "~", "!"]

/-- An operand with the operators before it and behind it. -/
def unaryExpression : Parse Node := do
  let start ← here
  if (← typescript) && (← eat "<") then return ← assertionFrom start
  if ← isAtAny ["++", "--"] then
    let _ ← advance
    let operand ← call .unary
    return .other .update ⟨start, operand.span.hi⟩ [operand]
  if ← isAtAny signs then
    let _ ← advance
    let place ← here
    let operand ← recover (call .unary) fun _ => return invalidAt ⟨place, place⟩
    return .other .unary ⟨start, operand.span.hi⟩ [operand]
  if ← isAt "await" then return ← awaitExpression
  let operand ← call .leftHand
  if operand.isKind .arrow || (← afterBreak) then return operand
  if ← isAtAny ["++", "--"] then
    let _ ← advance
    return .other .update (← spanFrom start) [operand]
  return operand

/-- The operator between two operands that stands here. -/
def operator? : Parse (Option String) := do
  match ← look with
  | .mark text => return if binaryMarks.contains text then some text else none
  | .word "instanceof" => return some "instanceof"
  | .word "in" => return if (← context).allowIn then some "in" else none
  | _ => return none

/-- A value with the type that it is taken for, from the word before the type. -/
def castFrom (value : Node) : Parse Node := do
  let start := value.span.lo
  let satisfies ← isAt "satisfies"
  if !satisfies && (← isNext "const") then
    let _ ← advance
    let _ ← look
    let _ ← advance
    return .other .constAssertion (← spanFrom start) [value]
  let type ← inType do
    let _ ← advance
    call .type
  if satisfies then return .other .satisfies (← spanFrom start) [value, type]
  else return .cast (← spanFrom start) value type

/-- Joins an operand with those behind it, by operators of a rank above `floor`. Each step takes a
token, so that `fuel` is never less than the tokens that are left. -/
def joinOperands : Nat → Node → Nat → Parse Node
  | 0, _, _ => throw .tooDeep
  | fuel + 1, left, floor => do
    let casts ← do
      if (← typescript) && floor < 7 && !(← afterBreak) then isAtAny ["as", "satisfies"]
      else pure false
    if casts then joinOperands fuel (← castFrom left) floor
    else
      match ← operator? with
      | none => return left
      | some operator =>
        if rank operator ≤ floor then return left
        let _ ← advance
        let power := operator == "**"
        -- Here it would not be plain what the sign belongs to.
        if power && (left.isKind .unary || left.isKind .await) then fail .negatedPower
        let operand ← call .unary
        -- Powers bind to the right: their own rank may follow.
        let right ← joinOperands fuel operand (if power then rank operator - 1 else rank operator)
        joinOperands fuel (.other .binary ⟨left.span.lo, right.span.hi⟩ [left, right]) floor

/-- Joins an operand with all those behind it. -/
def joinAll (left : Node) : Parse Node := do
  joinOperands ((← get).cursor.rest.length + 4) left 0

/-- Operands joined by operators. The first operand may be missing. -/
def binaryExpression : Parse Node := do
  let start ← here
  let left ← recover (call .unary) fun fault => do
    let _ ← need
    if (← operator?).isSome then return invalidAt ⟨start, start⟩ else throw fault
  if left.isKind .arrow then return left
  joinAll left

def conditional : Parse Node := do
  let start ← here
  let test ← call .binary
  if test.isKind .arrow then return test
  if ← eat "?" then conditionalArms start test else return test

def yieldExpression : Parse Node := do
  let start ← here
  let _ ← advance
  let ctx ← context
  if ctx.inParameters && !ctx.inFunction then fail .yieldParameter
  let token ← look
  let goesOn := token.startsExpression || token.isMark "*" || token.isMark "/="
  if !goesOn || (← afterBreak) then return .other .yield (← spanFrom start) []
  let _ ← eat "*"
  let value ← call .assignment
  return .other .yield (← spanFrom start) [value]

/-- An arrow function with type parameters, if one stands here. -/
def genericArrow? (start : Nat) : Parse (Option Node) :=
  within (fun ctx => { ctx with awaitsColon := false }) <| attempt do
    let types ← typeParameters
    match ← call .assignment with
    | .other .arrow span parts => return some (.other .arrow ⟨start, span.hi⟩ (parts ++ types))
    | _ => return none

/-- Does an assignment end with this expression, whatever follows? -/
def takesNoAssignment (node : Node) : Bool :=
  [.arrow, .conditional, .binary, .unary, .update].any node.isKind

/-- May an arrow function start with this token? -/
def startsArrow : Token → Bool
  | .word text => isPlainName text || text == "yield"
  | .mark text => text == "("
  | _ => false

/-- An expression without commas. -/
def assignmentExpression : Parse Node := do
  let start ← here
  if (← typescript) && (← isAt "<") && (← isNextToken Token.isAnyWord) then
    if let some arrow ← genericArrow? start then return arrow
  if (← context).inGenerator && (← isAt "yield") then return ← yieldExpression
  let token ← needStart
  -- Only where an expression starts can a name or a parenthesis open an arrow function.
  modify fun state => { state with arrowStart := if startsArrow token then some start else none }
  let node ← conditional
  if takesNoAssignment node then return node else assignmentFrom start node

def expression : Parse Node := do
  let first ← call .assignment
  unless ← isAt "," do return first
  let more ← whileAt (eat ",") (call .assignment)
  return .other .sequence (← spanFrom first.span.lo) (first :: more)

/-- An expression with what is accessed in it and the calls that are made of it. -/
def leftHand : Parse Node := do
  let start ← here
  if ← isAt "super" then return ← superExpression {}
  if ← isAt "import" then return ← importExpression {}
  let callee ← call .construct
  if callee.isKind .arrow then return callee
  let types ← if (← typescript) && (← isAtAny ["<", "<<"]) then
      attempt do
        let types ← typeArguments
        if ← isAt "(" then return some types else return none
    else pure none
  if ← isAt "(" then
    let args ← arguments false
    let node := Node.call (← spanFrom start) callee args (types.getD [])
    accesses {} node
  else return callee

/-- A constructed value, or a value with what is accessed in it. -/
def construct : Parse Node := do
  if ← isAt "new" then return ← newExpression
  if ← isAt "super" then return ← superExpression { noCall := true }
  if ← isAt "import" then return ← importExpression { noCall := true }
  let node ← primary joinAll
  if node.isKind .arrow then return node
  let types ← if (← typescript) && (← isAt "<") then expressionTypeArguments? startsExpression
    else pure none
  let span ← spanFrom node.span.lo
  let node := match types with
    | some types => Node.other .instantiation span (node :: types)
    | none => node
  accesses { noCall := true } node

end ComponentCatalog.Script
