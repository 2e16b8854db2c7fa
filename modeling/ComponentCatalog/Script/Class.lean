import ComponentCatalog.Script.Function

/-!
# Classes

Classes with their heads and members: fields, methods, accessors, constructors, index signatures and
static blocks, each with the modifiers that may stand before it.
-/

namespace ComponentCatalog.Script

open Parse

def memberFrom (start : Nat) (parts : List Node) : Parse Node := do
  return .other .statement (← spanFrom start) parts

def startsMethod : Parse Bool := do
  return (← isAt "(") || ((← typescript) && (← isAt "<"))

/-- Does a field go on here? A line end counts only where a semicolon may be left out. -/
def startsField (breakCounts : Bool) : Parse Bool := do
  if (← typescript) && (← isAtAny ["!", ":"]) then return true
  if ← isAtAny ["=", "\x7d"] then return true
  if breakCounts then isAtClose else isAt ";"

def isConstructorKey : Node → Bool
  | .name _ text => text == "constructor"
  | .string _ value => value == "constructor"
  | _ => false

def classKey : Parse Node := do
  if ← isAt "#" then privateName else propertyKey

def methodFrom (marks : List Node) (start : Nat) (key : Node) (isAsync isGenerator : Bool) :
    Parse Node := do
  let (function, _) ← within (fun ctx => { ctx with allowSuper := true })
    (functionRest marks start isAsync isGenerator)
  memberFrom start [key, function]

def fieldFrom (marks : List Node) (start : Nat) (key : Node) (optional : Bool) : Parse Node := do
  if isConstructorKey key then fail .constructorField
  if (← typescript) && !optional then let _ ← eat "!"
  let type ← annotation?
  let value ← within (fun ctx => { ctx with allowIn := true }) do
    if ← eat "=" then pure [← call .assignment] else pure []
  let _ ← eatClose
  memberFrom start ([key] ++ value ++ type ++ marks)

/-- A member whose key is a modifier's word that has just been taken. -/
def wordMember? (marks : List Node) (start : Nat) (text : String) (breakCounts : Bool) :
    Parse (Option Node) := do
  let key := Node.name (← spanFrom start) text
  if ← startsMethod then return some (← methodFrom marks start key false false)
  if (← startsField breakCounts) || ((← typescript) && (← isAt "?")) then
    let optional ← if ← typescript then eat "?" else pure false
    return some (← fieldFrom marks start key optional)
  return none

/-- A parameter of a constructor, which may declare a field. -/
def constructorParameter : Parse Node := do
  let start ← here
  let marks ← decorators
  let patternStart ← here
  if ← eat "..." then
    let target ← call .target
    let type ← if ← typescript then annotation? else pure []
    return .other .parameter (← spanFrom start)
      (marks ++ [.other .restPattern (← spanFrom patternStart) (target :: type)])
  let access ← modifier? ["public", "protected", "private", "in", "out"] false
  let override_ ← modifier? ["override"] false
  let readOnly ← modifier? ["readonly"] false
  let pattern ← parameterPattern
  let declares := (access.isSome && access != some "in" && access != some "out") ||
    override_.isSome || readOnly.isSome
  if declares then
    match pattern with
    | .binding _ _ _ | .other .defaultPattern _ _ => pure ()
    | _ => fail .parameterProperty
  return .other .parameter (← spanFrom start) (marks ++ [pattern])

def constructorFrom (start : Nat) (key : Node) : Parse Node := do
  let types ← if ← typescript then
      (if (← isAt "<") && (← isNext ">") then do
        let _ ← advance
        let _ ← advance
        pure []
      else typeParameters?)
    else pure []
  expect "("
  let params ← commaList ")" constructorParameter
  expect ")"
  if ← typescript then let _ ← annotation?
  let body ← functionBody false false
  let _ := types
  memberFrom start (key :: (params ++ body.toList))

def staticBlock (start : Nat) : Parse Node := do
  let block ← call .block
  memberFrom start [block]

/-- The modifiers of a member, the last of a list of equal words counting once. -/
def memberModifiers : Parse (List String) :=
  repeating ([] : List String) fun words => do
    match ← modifier? ["abstract", "readonly", "override", "static"] true with
    | some word => return (true, word :: words)
    | none => return (false, words)

/-- Is the key the plain name `text`? -/
def isNamed (text : String) : Node → Bool
  | .name _ other => other == text
  | _ => false

/-- A member behind its key: a method, a field, or a method behind one of three words. -/
def memberBehindKey (marks : List Node) (start : Nat) (key : Node) : Parse Node := do
  let optional ← if ← typescript then eat "?" else pure false
  if ← startsMethod then
    if isConstructorKey key then return ← constructorFrom start key
    else return ← methodFrom marks start key false false
  let generatorFollows := (← afterBreak) && (← isAt "*")
  let accessor := (isNamed "get" key || isNamed "set" key) && !(← startsField false) &&
    !generatorFollows
  if !accessor && (← startsField true) then return ← fieldFrom marks start key optional
  if isNamed "async" key && !(← afterBreak) then
    let _ ← modifier? ["override"] false
    let isGenerator ← eat "*"
    let key ← classKey
    if isConstructorKey key then fail .asyncConstructor
    if ← typescript then let _ ← eat "?"
    return ← methodFrom marks start key true isGenerator
  if accessor then
    let key ← classKey
    return ← methodFrom marks start key false false
  unexpected "* for generator, private key, identifier or async"

/-- A member behind the words `declare`, its access and `static`. -/
def memberBehindStatic (marks : List Node) (start : Nat) (hasAccess isStatic : Bool) :
    Parse Node := do
  let words ← memberModifiers
  if (← typescript) && (← eat "accessor") then
    if let some node ← wordMember? marks start "accessor" true then return node
  if (isStatic || words.contains "static") && (← isAt "\x7b") then return ← staticBlock start
  if (← isAt "static") && (← isNext "\x7b") then
    let _ ← advance
    return ← staticBlock start
  if (← typescript) && !words.contains "abstract" && !words.contains "override" && !hasAccess then
    if let some node ← indexSignature? start then return node
  if ← eat "*" then
    let key ← classKey
    return ← methodFrom marks start key false true
  memberBehindKey marks start (← classKey)

def classMember : Parse Node := do
  let start ← here
  let marks ← decorators
  let declared ← if ← typescript then eat "declare" else pure false
  if declared then
    if let some node ← wordMember? marks start "declare" true then return node
  let access ← modifier? ["public", "protected", "private", "in", "out"] false
  let hasAccess := access.isSome && access != some "in" && access != some "out"
  let declaredLate ← if declared then pure false
    else if ← typescript then eat "declare" else pure false
  if declaredLate then
    if let some node ← wordMember? marks start "declare" true then return node
  let wordStart ← here
  let isStatic ← eat "static"
  if isStatic then
    if let some node ← wordMember? marks wordStart "static" false then return node
  memberBehindStatic marks start hasAccess isStatic

/-- The members of a class, without the semicolons between them. -/
def classMembers : Parse (List Node) := do
  let nodes ← repeating ([] : List Node) fun nodes => do
    if (← atEnd) || (← isAt "\x7d") then return (false, nodes)
    if ← eat ";" then return (true, nodes)
    let node ← within (fun ctx => { ctx with allowSuper := true }) classMember
    return (true, node :: nodes)
  return nodes.reverse

def superClass : Parse (Node × List Node) := do
  match ← call .leftHand with
  | .other .instantiation _ (base :: types) => return (base, types)
  | base =>
    if (← typescript) && (← isAt "<") then return (base, ← typeArguments)
    else return (base, [])

def heritageList : Parse (List Node) :=
  typeList (isAtAny ["\x7b", "implements", "extends"]) (call .heritage)

/-- A class from the word `class` on. -/
def classFrom (marks : List Node) (start : Nat) (nameRequired : Bool) : Parse Node := do
  expect "class"
  let name ← if nameRequired then pure [← boundName] else pure (← boundName?).toList
  let types ← if ← typescript then typeParameters? else pure []
  let base ← if ← eat "extends" then do
      let base ← superClass
      if (← typescript) && (← eat ",") then let _ ← heritageList
      pure (some base)
    else pure none
  if ← eat "extends" then let _ ← superClass
  let implemented ←
    if (← typescript) && (← eat "implements") then heritageList else pure []
  let base ← if ← typescript then do
      if ← eat "implements" then let _ ← heritageList
      if ← eat "extends" then
        let late ← superClass
        pure (base.orElse fun _ => some late)
      else pure base
    else pure base
  expect "\x7b"
  let members ← classMembers
  unless ← atEnd do expect "\x7d"
  let (baseNode, baseTypes) := match base with
    | some (node, types) => ([node], types)
    | none => ([], [])
  return .other .classBody (← spanFrom start)
    (name ++ marks ++ members ++ baseNode ++ types ++ baseTypes ++ implemented)

def classDeclaration (marks : List Node) (start : Nat) (nameRequired : Bool) : Parse Node := do
  let node ← classFrom marks start nameRequired
  return .other .statement (← spanFrom start) [node]

end ComponentCatalog.Script
