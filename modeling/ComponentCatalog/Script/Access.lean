import ComponentCatalog.Script.Literal

/-!
# Member accesses, calls and constructions

What stands behind an expression and belongs to it: members, calls, type arguments and templates;
and the forms that are built from these alone, decorators and the types a class implements.
-/

namespace ComponentCatalog.Script

open Parse

def startsLeftHand : Parse Bool := do
  match ← look with
  | .string _ _ | .number _ | .bigint _ | .regex _ _ => return true
  | .mark text => return ["`", "(", "[", "\x7b"].contains text
  | .word text =>
    if text == "import" then
      return (← isNext "(") || (← isNext "<") || (← isNext ".")
    else
      return !isReserved text ||
        ["this", "super", "null", "true", "false", "function", "class", "new"].contains text
  | _ => return false

def startsExpression : Parse Bool := do
  if ← startsLeftHand then return true
  isAtAny ["+", "-", "~", "!", "++", "--", "<", "#", "delete", "typeof", "void", "await", "yield"]

/-- What may stand behind an expression in its place. -/
structure Access where
  /-- Calls end the expression. -/
  noCall : Bool := false
  /-- Brackets end the expression. -/
  noComputed : Bool := false

/-- Is an expression a callee that is no value: `super` or `import`? -/
def isBareCallee (node : Node) : Bool := node.isKind .superRef || node.isKind .importRef

/-- An expression without the marks that rule out a missing value. -/
def withoutNonNull : Node → Node
  | .other .nonNull span parts =>
    match parts with
    | [inner] => withoutNonNull inner
    | _ => .other .nonNull span parts
  | node => node

/-- Does an expression stop at a missing value? -/
def isOptionalChain (node : Node) : Bool := (withoutNonNull node).isKind .optional

def taggedTemplate (start : Nat) (tag : Node) (types : List Node) : Parse Node := do
  let parts ← template true (allowingIn true (call .expression))
  return .other .tagged (← spanFrom start) (tag :: (parts ++ types))

/-- A call behind its callee. -/
def callOf (start : Nat) (optional : Bool) (callee : Node) (args types : List Node) :
    Parse Node := do
  let span ← spanFrom start
  if optional || isOptionalChain callee then
    if isBareCallee callee then fail .superOptional
    return .other .optional span (callee :: (args ++ types))
  return .call span callee args types

/-- Type arguments behind an expression, with what makes them type arguments. -/
def typedAccess? (access : Access) (start : Nat) (node : Node) : Parse (Option (Bool × Node)) :=
  attempt do
    if !access.noCall && node.isName && nameText node == "async" then
      if let some arrow ← genericAsyncArrow? start then return some (true, arrow)
    let types ← typeArguments
    if !access.noCall && (← isAt "(") then
      let args ← arguments false
      return some (true, ← callOf start false node args types)
    if ← isAt "`" then return some (true, ← taggedTemplate start node types)
    if ← isAtAny ["=", "as", "satisfies"] then
      return some (false, .other .instantiation (← spanFrom start) (node :: types))
    return none

/-- A member of `super`. An untyped script may use it in methods only. -/
def superMember (access : Access) (start : Nat) (optional : Bool) (part : Node) : Parse Node := do
  unless (← context).allowSuper || (← typescript) do fail .superAccess
  if optional then fail (if access.noCall then .superCall else .superAccess)
  return .other .superMember (← spanFrom start) [part]

/-- A member of an expression behind its point or bracket. -/
def memberOf (access : Access) (start : Nat) (optional : Bool) (node part : Node) :
    Parse Node := do
  if node.isKind .superRef then superMember access start optional part
  else if optional || isOptionalChain node then
    return .other .optional (← spanFrom start) [node, part]
  else return .other .member (← spanFrom start) [node, part]

/-- A member in brackets, from behind its opening bracket. -/
def computedMember (access : Access) (start : Nat) (optional : Bool) (node : Node) :
    Parse Node := do
  let open_ ← here
  let inner ← allowingIn true (call .expression)
  expect "]"
  memberOf access start optional node (.other .computed (← spanFrom open_) [inner])

/-- A member behind a point. -/
def namedMember (access : Access) (start : Nat) (optional : Bool) (node : Node) : Parse Node := do
  let part ← memberName
  if node.isKind .importRef then
    if part.isName && nameText part == "meta" then
      return .other .metaProperty (← spanFrom start) []
    else unexpected "meta"
  memberOf access start optional node part

/-- The end of the accesses behind an expression, which a template may put off. -/
def closeAccess (access : Access) (start : Nat) (node : Node) (types : Option (List Node)) :
    Parse (Bool × Node) := do
  if node.isKind .superRef then fail (if access.noCall then .superCall else .superAccess)
  if node.isKind .importRef then fail .importAccess
  let node ← match types with
    | some types => pure (Node.other .instantiation (← spanFrom start) (node :: types))
    | none => pure node
  if ← isAt "`" then
    let tagged ← within (fun ctx => { ctx with awaitsColon := false })
      (taggedTemplate start node [])
    return (true, tagged)
  return (false, node)

/-- One access behind an expression; tells whether more may follow. -/
def accessStep (access : Access) (start : Nat) (node : Node) : Parse (Bool × Node) := do
  let _ ← look
  let typed ← typescript
  if typed && !(← afterBreak) && (← isAt "!") then
    let _ ← advance
    if node.isKind .superRef then fail (.nonNull "super")
    if node.isKind .importRef then fail (.nonNull "import")
    return (true, .other .nonNull (← spanFrom start) [node])
  if typed && !isBareCallee node && (← isAt "<") then
    if let some result ← typedAccess? access start node then return result
  let types ← if typed && (← isAt "<") then expressionTypeArguments? startsExpression
    else pure none
  let optional ← if (← isAt "?") && (← isNext ".") then eat "?" else pure false
  if !access.noComputed then
    if optional && (← isAt ".") && (← isNext "[") then
      let _ ← advance
      let _ ← advance
      return (true, ← computedMember access start true node)
    if ← eat "[" then return (true, ← computedMember access start optional node)
  let callsOptional :=
    optional && (← isAt ".") && ((← isNext "(") || (typed && (← isNext "<")))
  if callsOptional then
    let _ ← advance
    let callTypes ← if typed && (← isAt "<") then typeArguments else pure []
    let args ← arguments (node.isKind .importRef)
    return (true, ← callOf start true node args callTypes)
  if !access.noCall && (← isAt "(") then
    let args ← arguments (node.isKind .importRef)
    return (true, ← callOf start optional node args [])
  if ← eat "." then return (true, ← namedMember access start optional node)
  closeAccess access start node types

def accesses (access : Access) (node : Node) : Parse Node := do
  repeating node (accessStep access node.span.lo)

/-- `import` as an expression: a call, or a word about the script itself. -/
def importExpression (access : Access) : Parse Node := do
  let start ← here
  let _ ← advance
  if ← eat "." then
    let word ← wordName
    if nameText word == "meta" then
      accesses access (.other .metaProperty (← spanFrom start) [])
    else if ["source", "evaluation"].contains (nameText word) then
      accesses access (.other .importRef (← spanFrom start) [])
    else unexpected "meta"
  else accesses access (.other .importRef (← spanFrom start) [])

/-- `super` with what is accessed in it. -/
def superExpression (access : Access) : Parse Node := do
  let start ← here
  let _ ← advance
  accesses access (.other .superRef (← spanFrom start) [])

/-- Does a constructor stop at a missing value? -/
def isOptionalConstructor : Node → Bool
  | .other .optional _ _ => true
  | .other .member _ (base :: _) => base.isKind .optional
  | _ => false

def newExpression : Parse Node := do
  let start ← here
  let _ ← advance
  if ← eat "." then
    unless ← eat "target" do unexpected "target"
    return ← accesses ⟨true, false⟩ (.other .metaProperty (← spanFrom start) [])
  let constructor ← call .construct
  if constructor.isKind .arrow then return constructor
  if isOptionalConstructor constructor then fail .newOptional
  let types ← if (← typescript) && (← isAtAny ["<", "<<"]) then
      attempt do
        let types ← typeArguments
        if ← isAt "(" then return some types else return none
    else pure none
  if ← isAt "(" then
    let args ← arguments false
    let node := Node.other .construct (← spanFrom start) (constructor :: (args ++ types.getD []))
    accesses ⟨true, false⟩ node
  else return .other .construct (← spanFrom start) [constructor]

def decorator : Parse Node := do
  let start ← here
  let _ ← advance
  let value ← if ← eat "(" then do
      let inner ← call .expression
      expect ")"
      pure inner
    else do
      let first ← plainName false false
      repeating first fun node => do
        unless ← eat "." do return (false, node)
        let name ← plainName true true
        return (true, .other .member (← spanFrom start) [node, name])
  let types ← if (← typescript) && (← isAt "<") then do pure (some (← typeArguments))
    else pure none
  if types.isNone && !(← isAt "(") then return value
  let args ← arguments false
  return .call (← spanFrom value.span.lo) value args (types.getD [])

/-- A type that a class or an interface extends or implements. -/
def heritage : Parse Node := do
  let start ← here
  let node ← accesses ⟨true, true⟩ (← wordName)
  if node.isKind .instantiation then return node
  let types ← if ← isAt "<" then typeArguments else pure []
  return .other .plainType (← spanFrom start) (node :: types)

end ComponentCatalog.Script
