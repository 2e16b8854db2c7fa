import ComponentCatalog.Script.Class

/-!
# Literals and arguments

Array and object literals, the literals of one token, and the arguments of calls.
-/

namespace ComponentCatalog.Script

open Parse

/-- An expression where `in` is an operator. -/
def innerAssignment : Parse Node := allowingIn true (call .assignment)

/-- An expression, or dots and an expression whose elements are meant. -/
def spreadOr (p : Parse Node) : Parse Node := do
  let start ← here
  if ← eat "..." then
    let inner ← innerAssignment
    return .other .spread (← spanFrom start) [inner]
  else p

def arrayLiteral : Parse Node := do
  let start ← here
  let _ ← advance
  let elements ← repeating ([] : List Node) fun elements => do
    if (← atEnd) || (← isAt "]") then return (false, elements)
    let place ← here
    if ← eat "," then return (true, .other .hole ⟨place, place⟩ [] :: elements)
    let element ← spreadOr innerAssignment
    unless ← isAt "]" do expect ","
    return (true, element :: elements)
  expect "]"
  return .array (← spanFrom start) elements.reverse

def arguments (ofImport : Bool) : Parse (List Node) :=
  within (fun ctx => { ctx with awaitsColon := false }) do
    expect "("
    let args ← repeating ([] : List Node) fun args => do
      if (← atEnd) || (← isAt ")") then return (false, args)
      unless args.isEmpty do expect ","
      if !args.isEmpty && (← isAt ")") then
        if ofImport && !(← typescript) then fail .importTrailingComma
        return (false, args)
      return (true, (← spreadOr innerAssignment) :: args)
    expect ")"
    return args.reverse

def objectMethod (start : Nat) (key : Node) (isAsync isGenerator : Bool) : Parse Node := do
  let (function, _) ← within (fun ctx => { ctx with allowSuper := true })
    (functionRest [] start isAsync isGenerator)
  return .method (← spanFrom start) key function

/-- May an entry of a typed object literal go on here behind its key? -/
def goesOnBehindKey : Parse Bool := do
  let token ← look
  return ["(", "[", ":", ",", "?", "=", "*", "\x7d", "<"].any token.isMark || token.isAnyWord ||
    match token with
    | .string _ _ | .number _ => true
    | _ => false

/-- What may stand behind the key of an entry, for a report. -/
def entryWanted (typed : Bool) : String :=
  if typed then
    "... , *,  (, [, :, , ?, =, an identifier, public, protected, private, readonly, <."
  else "... , *,  (, [, :, , ?, = or an identifier"

/-- A getter, a setter or an asynchronous method behind its word. -/
def accessorEntry (start : Nat) (word : String) : Parse Node := do
  let isAsync := word == "async"
  let isGenerator ← if isAsync then eat "*" else pure false
  let key ← propertyKey
  let (function, _) ← within (fun ctx => { ctx with allowSuper := true })
    (functionRest [] start isAsync isGenerator)
  if isAsync then return .method (← spanFrom start) key function
  else return .other .accessor (← spanFrom start) [key, function]

/-- An entry behind a key that is a name and is followed by no value. -/
def namedEntry (start : Nat) (key : Node) : Parse Node := do
  let _ ← eat "?"
  if ← isAtAny ["=", ",", "\x7d"] then
    if ← eat "=" then
      let value ← innerAssignment
      return .other .defaulted (← spanFrom start) [key, value]
    return .shorthand key.span key
  let word := nameText key
  if ["get", "set", "async"].contains word then accessorEntry start word
  else unexpected (entryWanted (← typescript))

def objectEntry : Parse Node := do
  let start ← here
  if ← isAt "..." then return ← spreadOr innerAssignment
  if ← eat "*" then
    let key ← propertyKey
    return ← objectMethod start key false true
  let _ ← eatModifier
  let key ← propertyKey
  if (← typescript) && !(← goesOnBehindKey) then
    return .entry (← spanFrom start) key (.other .invalid (← spanFrom start) [])
  if ← eat ":" then
    let value ← innerAssignment
    return .entry (← spanFrom start) key value
  if ← startsMethod then return ← objectMethod start key false false
  unless key.isName do unexpected "identifier"
  namedEntry start key

def objectLiteral : Parse Node := do
  let start ← here
  let entries ← within (fun ctx => { ctx with awaitsColon := false }) (braceList objectEntry)
  return .object (← spanFrom start) entries

/-- A literal of one token, if the current token is one. -/
def tokenLiteral? : Parse (Option Node) := do
  let start ← here
  let kept ← look
  let node : Option (Span → Node) := match kept with
    | .word "null" => some (.other .null · [])
    | .word "true" => some (.boolean · true)
    | .word "false" => some (.boolean · false)
    | .string value _ => some (.string · value)
    | .number _ => some .number
    | .bigint _ => some (.other .bigint · [])
    | _ => none
  match node with
  | some make =>
    let _ ← advance
    return some (make (← spanFrom start))
  | none => return none

end ComponentCatalog.Script
