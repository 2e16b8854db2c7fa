import ComponentCatalog.Script.Parse

/-!
# Names, keys and patterns

Names and the keys of properties, the patterns that declarations bind, the parameters of functions,
and the modifiers that may stand before a member or a parameter.
-/

namespace ComponentCatalog.Script

open Parse

def wordName : Parse Node := do
  let start ← here
  match ← need with
  | .word text =>
    let _ ← advance
    return .name (← spanFrom start) text
  | _ => fail .noIdentifier

def nameText : Node → String
  | .name _ text => text
  | _ => ""

/-- A name that is no keyword. Some keywords are names in some places. -/
def plainName (allowYield allowAwait : Bool) : Parse Node := do
  let start ← here
  match ← need with
  | .word text =>
    let _ ← advance
    let node : Node := .name (← spanFrom start) text
    let ctx ← context
    if text == "await" then
      if ctx.inDeclare then return node else fail .awaitName
    else if text == "this" && ctx.typescript then return node
    else if text == "let" || isPlainName text then return node
    else if text == "yield" && allowYield then return node
    else if text == "await" && allowAwait then return node
    else fail .noIdentifier
  | _ => fail .noIdentifier

def boundName : Parse Node := plainName true true

def boundName? : Parse (Option Node) := do
  if ← isAtToken Token.isName then return some (← boundName) else return none

/-- The private name behind a hash, which it has to touch. -/
def privateName : Parse Node := do
  let start ← here
  let _ ← advance
  let hashEnd := (← get).taken
  if (← here) != hashEnd then fail .spaceAfterHash
  let name ← wordName
  return .other .privateName (← spanFrom start) [name]

/-- A name, private if a hash stands before it. -/
def memberName : Parse Node := do
  if ← isAt "#" then privateName else wordName

def stringHere : Parse Node := do
  let start ← here
  match ← advance with
  | .string value _ => return .string (← spanFrom start) value
  | _ => fail .noIdentifier

def propertyKey : Parse Node := do
  let start ← here
  match ← need with
  | .string _ _ => stringHere
  | .number _ =>
    let _ ← advance
    return .number (← spanFrom start)
  | .bigint _ =>
    let _ ← advance
    return .other .bigint (← spanFrom start) []
  | .word _ => wordName
  | token =>
    if token.isMark "[" then
      let _ ← advance
      let first ← allowingIn true (call .assignment)
      let inner ←
        if (← typescript) && (← isAt ",") then
          let more ← whileAt (eat ",") (allowingIn true (call .assignment))
          pure (Node.other .sequence (← spanFrom start) (first :: more))
        else pure first
      expect "]"
      return .other .computed (← spanFrom start) [inner]
    else unexpected "identifier, string literal, numeric literal or [ for the computed key"

/-- May a member go on behind a modifier with the current token? -/
def followsModifier : Parse Bool := do
  if ← afterBreak then return false
  let token ← look
  return ["[", "\x7b", "*", "...", "#"].any token.isMark || token.isAnyWord ||
    match token with
    | .string _ _ | .number _ | .bigint _ => true
    | _ => false

/-- The next modifier out of a list, if one stands here and something follows that it modifies. -/
def modifier? (allowed : List String) (stopAtStaticBlock : Bool) : Parse (Option String) := do
  unless ← typescript do return none
  match ← need with
  | .word text =>
    unless allowed.contains text do return none
    if stopAtStaticBlock && text == "static" && (← isNext "\x7b") then return none
    attempt do
      let _ ← advance
      if ← followsModifier then return some text else return none
  | _ => return none

/-- Modifiers that may stand before a parameter. -/
def parameterModifiers : List String := ["public", "protected", "private", "readonly"]

/-- Takes a modifier of a parameter, if one stands here. -/
def eatModifier : Parse Bool := do
  unless ← typescript do return false
  let token ← look
  unless parameterModifiers.any token.isWord do return false
  unless (← isNextToken Token.isAnyWord) || (← isNext "\x7b") || (← isNext "[") do return false
  let _ ← modifier? parameterModifiers false
  return true

/-- The type behind a colon, if a colon stands here. -/
def annotation? : Parse (List Node) := do
  if ← isAt ":" then
    inType do
      let _ ← advance
      return [← call .type]
  else return []

/-- A pattern with the type it is given. All but names then extend over the type. -/
def annotate (start : Nat) (pattern : Node) (type : List Node) : Parse Node := do
  match pattern with
  | .binding span text _ => return .binding span text type
  | .other kind _ parts =>
    if type.isEmpty then return pattern
    else if kind == .defaultPattern then return .other kind ⟨start, (← get).taken⟩ parts
    else return .other kind ⟨start, (← get).taken⟩ (parts ++ type)
  | _ => return pattern

/-- A name as a pattern. -/
def bindingOf : Node → Node
  | .name span text => .binding span text []
  | other => other

/-- What a pattern binds, and the value it has by default. -/
def defaulted (start : Nat) (pattern : Node) : Parse Node := do
  if ← eat "=" then
    let value ← allowingIn true (call .assignment)
    return .other .defaultPattern (← spanFrom start) [pattern, value]
  else return pattern

/-- An element of a pattern: a target with an optional default. -/
def bindingElement : Parse Node := do
  let start ← here
  defaulted start (← call .target)

def arrayElement : Parse Node := do
  let start ← here
  if ← eat "..." then
    let target ← call .target
    return .other .restPattern (← spanFrom start) [target]
  else bindingElement

def arrayPattern : Parse Node := do
  let start ← here
  let _ ← advance
  let elements ← repeating ([] : List Node) fun elements => do
    if (← atEnd) || (← isAt "]") then return (false, elements)
    let at_ ← here
    if ← eat "," then return (true, .other .hole ⟨at_, at_⟩ [] :: elements)
    let element ← arrayElement
    unless ← isAt "]" do expect ","
    return (true, element :: elements)
  expect "]"
  if (← context).inDeclare then let _ ← eat "?"
  return .other .arrayPattern (← spanFrom start) elements.reverse

def objectElement : Parse Node := do
  let start ← here
  if ← eat "..." then
    let target ← call .target
    return .other .restPattern (← spanFrom start) [target]
  let key ← propertyKey
  if ← eat ":" then
    let value ← bindingElement
    return .other .patternEntry (← spanFrom start) [key, value]
  unless key.isName do unexpected "an identifier"
  if ← eat "=" then
    let value ← allowingIn true (call .assignment)
    return .other .patternEntry (← spanFrom start) [key, value]
  return .other .patternEntry (← spanFrom start) [key]

/-- Entries between braces, with a comma behind all but the last. -/
def braceList (p : Parse Node) : Parse (List Node) := do
  let _ ← advance
  let nodes ← repeating ([] : List Node) fun nodes => do
    if ← eat "\x7d" then return (false, nodes)
    unless nodes.isEmpty do
      expect ","
    if !nodes.isEmpty && (← eat "\x7d") then return (false, nodes)
    return (true, (← p) :: nodes)
  return nodes.reverse

/-- Is a node a rest pattern over something that is no name? -/
def restOfPattern : Node → Bool
  | .other .restPattern _ (.binding _ _ _ :: _) => false
  | .other .restPattern _ _ => true
  | _ => false

def objectPattern : Parse Node := do
  let start ← here
  let entries ← within (fun ctx => { ctx with awaitsColon := false }) (braceList objectElement)
  if (entries.getLast?.map restOfPattern).getD false then fail .dotsWithoutName
  if (← context).inDeclare then let _ ← eat "?"
  return .other .objectPattern (← spanFrom start) entries

def bindingTarget : Parse Node := do
  let token ← need
  if token.isAnyWord then return bindingOf (← boundName)
  else if token.isMark "[" then arrayPattern
  else if token.isMark "\x7b" then objectPattern
  else unexpected "yield, an identifier, [ or \x7b"

/-- May a parameter of this form be optional? -/
def mayBeOptional : Node → Bool
  | .binding _ _ _ => true
  | .other kind _ _ => kind == .arrayPattern || kind == .objectPattern
  | _ => false

/-- A parameter without its decorators. -/
def parameterPattern : Parse Node := do
  let start ← here
  let _ ← eatModifier
  let patternStart ← here
  let pattern ← bindingElement
  let pattern ←
    if ← typescript then
      if ← eat "?" then
        unless mayBeOptional pattern || (← context).inDeclare do fail .optionalPattern
      let type ← annotation?
      annotate patternStart pattern type
    else pure pattern
  if ← eat "=" then
    let value ← call .assignment
    return .other .defaultPattern (← spanFrom start) [pattern, value]
  else return pattern

/-- A parameter that takes all remaining arguments, from behind its dots. -/
def restParameter (start : Nat) : Parse Node := do
  let target ← call .target
  let target ← if ← eat "=" then do
      let value ← call .assignment
      pure (Node.other .defaultPattern (← spanFrom start) [target, value])
    else pure target
  let type ← if ← typescript then annotation? else pure []
  let rest := Node.other .restPattern (← spanFrom start) (target :: type)
  if ← typescript then let _ ← eat "?"
  return rest

def decorators : Parse (List Node) := do
  let nodes ← whileAt (isAt "@") (call .decorator)
  if !nodes.isEmpty && (← isAt "export") then
    unless ← typescript do fail .decoratedExport
  return nodes

def parameter : Parse Node := do
  let start ← here
  let marks ← decorators
  let patternStart ← here
  let pattern ← if ← eat "..." then restParameter patternStart else parameterPattern
  return .other .parameter (← spanFrom start) (marks ++ [pattern])

def parameters : Parse (List Node) := commaList ")" parameter

def patternOf : Node → Node
  | .other .parameter _ parts => parts.getLast?.getD (.other .invalid ⟨0, 0⟩ [])
  | other => other

end ComponentCatalog.Script
