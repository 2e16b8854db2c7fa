import ComponentCatalog.Script.Pattern
import ComponentCatalog.Script.Template

/-!
# Types

The grammar of types: functions, unions and intersections, operators, arrays, literals, tuples and
the members of object types.
-/

namespace ComponentCatalog.Script

open Parse

def plainTypeFrom (start : Nat) (parts : List Node) : Parse Node := do
  return .other .plainType (← spanFrom start) parts

/-- Elements up to a place where the list may end, with a comma behind all but the last. -/
def typeList (atClose : Parse Bool) (p : Parse Node) : Parse (List Node) := do
  let nodes ← repeating ([] : List Node) fun nodes => do
    if ← atClose then return (false, nodes)
    let node ← p
    if ← eat "," then return (true, node :: nodes)
    if ← atClose then return (false, node :: nodes)
    expect ","
    return (true, node :: nodes)
  return nodes.reverse

/-- Takes the bracket that opens type arguments, also out of a shift. -/
def openAngle : Parse Unit := do
  let lexeme ← current
  if lexeme.token.isMark "<<" then
    let second := lexeme.source.next
    modify fun state =>
      { state with
        current := some ⟨.mark "<", second, ⟨second.pos, second.pos + 1⟩, false⟩
        taken := second.pos }
  else expect "<"

def typeArguments : Parse (List Node) := do
  let types ← inType do
    openAngle
    typeList (isAt ">") (call .type)
  expect ">"
  return types

/-- The type behind a mark or word, if it stands here. -/
def typeBehind? (text : String) : Parse (List Node) := inType do
  if ← eat text then return [← call .type] else return []

/-- Modifiers that may stand before a type parameter. -/
def typeParameterModifiers : List String :=
  ["public", "private", "protected", "readonly", "abstract", "const", "override", "in", "out"]

def typeParameter : Parse Node := do
  let start ← here
  let _ ← repeating () fun _ => do
    return ((← modifier? typeParameterModifiers false).isSome, ())
  let name ← inType wordName
  let bound ← typeBehind? "extends"
  let default_ ← typeBehind? "="
  plainTypeFrom start (name :: (bound ++ default_))

def typeParameters : Parse (List Node) := inType do
  unless ← isAt "<" do unexpected "< (jsx tag start)"
  let _ ← advance
  let nodes ← typeList (isAt ">") typeParameter
  expect ">"
  return nodes

def typeParameters? : Parse (List Node) := do
  if ← isAt "<" then typeParameters else return []

/-- A name, or names joined by points. -/
def entityName (anyWord : Bool) : Parse Node := do
  let start ← here
  let first ← wordName
  repeating first fun entity => do
    unless ← eat "." do return (false, entity)
    unless (← isAt "#") || (← isAtToken Token.isAnyWord) do return (false, entity)
    let right ← if anyWord then wordName else plainName false false
    return (true, .other .member (← spanFrom start) [entity, right])

def typeReference : Parse Node := do
  let start ← here
  let _ ← eatModifier
  let entity ← entityName true
  let types ←
    if !(← afterBreak) && (← isAtAny ["<", "<<"]) then typeArguments else pure []
  return .typeRef (← spanFrom start) entity types

/-- What a function returns, a type or a test of a parameter, behind a mark. -/
def resultType (mark : String) : Parse (List Node) := inType do
  unless ← eat mark do
    let token := (← current).token
    let shown := if token == .finish then "None" else "Some(" ++ token.shown ++ ")"
    fail (.expected mark shown)
  let asserts := (← isAt "asserts") && (← isNextToken Token.isName)
  if asserts then
    let _ ← advance
    let _ ← look
  let tests := (← isAtToken Token.isName) && (← isNext "is") && !(← beforeBreak)
  unless asserts || tests do return [← call .type]
  let name ← wordName
  if tests then
    let _ ← advance
    return [name, ← call .type]
  else return [name]

def resultType? : Parse (List Node) := do
  if ← isAt ":" then resultType ":" else return []

def signatureParameters : Parse (List Node) := do
  let nodes := (← parameters).map patternOf
  let allowed : Node → Bool := fun
    | .binding _ _ _ => true
    | .other kind _ _ => kind == .arrayPattern || kind == .objectPattern || kind == .restPattern
    | _ => false
  unless nodes.all allowed do
    unexpected ("an identifier, [ for an array pattern, \x7b for an object patter or ... " ++
      "for a rest pattern")
  expect ")"
  return nodes

/-- Passes over what may start a parameter; tells whether something did. -/
def skipParameterStart : Parse Bool := do
  let _ ← eatModifier
  if ← isAtToken Token.isAnyWord then
    let _ ← advance
    return true
  if (← isAt "\x7b") || (← isAt "[") then
    match ← attempt (do return some (← call .target)) with
    | some _ => return true
    | none => return false
  return false

/-- Does a parenthesis open the parameters of a function type? -/
def opensParameters : Parse Bool := do
  let _ ← advance
  if ← isAtAny [")", "..."] then return true
  if ← skipParameterStart then
    if ← isAtAny [":", ",", "?", "="] then return true
    if ← eat ")" then return ← isAt "=>"
  return false

/-- Does a function type start here? -/
def startsFunctionType : Parse Bool := do
  if ← isAt "<" then return true
  if ← isAt "(" then ahead opensParameters else return false

def functionType (constructor : Bool) : Parse Node := do
  let start ← here
  if constructor then
    let _ ← eat "abstract"
    expect "new"
  let types ← typeParameters?
  expect "("
  let params ← signatureParameters
  let result ← resultType "=>"
  plainTypeFrom start (params ++ types ++ result)

/-- Types joined by an operator, which may also stand before the first. -/
def joinedTypes (mark : String) (p : Parse Node) : Parse Node := do
  let start ← here
  let _ ← eat mark
  let first ← p
  if ← isAt mark then
    let more ← whileAt (eat mark) p
    plainTypeFrom start (first :: more)
  else return first

/-- The words that are types of their own. -/
def typeWords : List String :=
  ["void", "null", "any", "boolean", "bigint", "never", "number", "object", "string", "symbol",
    "unknown", "undefined", "intrinsic"]

/-- Keywords that may start a type all the same. -/
def typeKeywords : List String := ["void", "yield", "null", "await", "break"]

/-- A test of `this`, or `this` alone. -/
def thisType (start : Nat) (asserts : Bool) : Parse Node := do
  let _ ← advance
  if asserts || (!(← afterBreak) && (← isAt "is")) then
    if ← eat "is" then
      let type ← inType (call .type)
      return .other .plainType (← spanFrom start) [type]
    else plainTypeFrom start []
  else plainTypeFrom start []

def importType : Parse Node := do
  let start ← here
  let _ ← advance
  expect "("
  let _ ← need
  let _ ← advance
  expect ")"
  let qualifier ← if ← eat "." then pure [← entityName false] else pure []
  let types ← if ← isAt "<" then typeArguments else pure []
  plainTypeFrom start (qualifier ++ types)

def queryType : Parse Node := do
  let start ← here
  expect "typeof"
  let entity ← if ← isAt "import" then importType else entityName true
  let types ←
    if !(← afterBreak) && (← isAtAny ["<", "<<"]) then typeArguments else pure []
  plainTypeFrom start (entity :: types)

/-- Is an object type one that maps keys? -/
def startsMappedType : Parse Bool := do
  let _ ← advance
  if (← eat "+") || (← eat "-") then return ← isAt "readonly"
  if ← isAt "readonly" then let _ ← advance
  unless ← isAt "[" do return false
  let _ ← advance
  unless ← isAtToken Token.isName do return false
  let _ ← advance
  isAt "in"

/-- A type behind a mark or word that has to stand here. -/
def typeAfter (text : String) : Parse Node := inType do
  unless ← eat text do
    let token := (← look)
    let shown := if token == .finish then "None" else "Some(" ++ token.shown ++ ")"
    fail (.unexpected shown text)
  call .type

def mappedType : Parse Node := do
  let start ← here
  expect "\x7b"
  if ← isAtAny ["+", "-"] then
    let _ ← advance
    expect "readonly"
  else let _ ← eat "readonly"
  expect "["
  let name ← wordName
  let bound ← typeAfter "in"
  let renamed ← if ← eat "as" then pure [← call .type] else pure []
  expect "]"
  if ← isAtAny ["+", "-"] then
    let _ ← advance
    expect "?"
  else let _ ← eat "?"
  let value ← typeBehind? ":"
  expectClose
  expect "\x7d"
  plainTypeFrom start (name :: bound :: (renamed ++ value))

/-- The end of a member of an object type. -/
def memberClose : Parse Unit := do
  unless ← eat "," do expectClose

/-- Does a bracket open an index signature? -/
def opensIndex : Parse Bool := do
  let _ ← advance
  unless ← isAtToken Token.isName do return false
  let _ ← advance
  isAtAny [":", ","]

def indexSignature? (start : Nat) : Parse (Option Node) := do
  unless ← isAt "[" do return none
  unless ← ahead opensIndex do return none
  expect "["
  let nameStart ← here
  let name ← wordName
  unless ← eat "," do expect ":"
  let keyType ← inType (call .type)
  let key := Node.binding (← spanFrom nameStart) (nameText name) [keyType]
  expect "]"
  let value ← annotation?
  memberClose
  return some (.other .plainType (← spanFrom start) (key :: value))

def memberKey : Parse Node := do
  if ← eat "[" then
    let key ← call .assignment
    expect "]"
    return key
  else
    match ← need with
    | .number _ | .string _ _ => call .construct
    | _ => memberName

def callSignature (constructor : Bool) : Parse Node := do
  let start ← here
  if constructor then expect "new"
  let types ← typeParameters?
  expect "("
  let params ← signatureParameters
  let result ← resultType?
  memberClose
  let span ← spanFrom start
  if constructor then return .other .plainType span (params ++ result ++ types)
  else return .callSignature span params (result ++ types)

/-- A getter or setter in an object type, if one stands here. -/
def accessorSignature? (start : Nat) (readOnly : Bool) : Parse (Option Node) := attempt do
  if readOnly then fail .readOnlyAccessor
  let isGetter ← eat "get"
  unless isGetter do expect "set"
  let key ← memberKey
  expect "("
  if isGetter then
    expect ")"
    let type ← annotation?
    memberClose
    return some (.other .accessor (← spanFrom start) (key :: type))
  else
    let params ← signatureParameters
    if params.isEmpty then fail .setterWithoutParameter
    memberClose
    return some (.other .accessor (← spanFrom start) (key :: params.take 1))

def propertySignature (start : Nat) (readOnly : Bool) : Parse Node := do
  let key ← memberKey
  let optional ← eat "?"
  if ← isAtAny ["(", "<"] then
    if readOnly then fail .readOnlyMethod
    let types ← typeParameters?
    expect "("
    let params ← signatureParameters
    let result ← resultType?
    memberClose
    return .methodSignature (← spanFrom start) key params (result ++ types)
  else
    let type ← annotation?
    memberClose
    return .property (← spanFrom start) key optional type

def typeMember : Parse Node := do
  if ← isAtAny ["(", "<"] then return ← callSignature false
  if ← isAt "new" then
    let constructs ← ahead do
      let _ ← advance
      isAtAny ["(", "<"]
    if constructs then return ← callSignature true
  let start ← here
  let readOnly := (← modifier? ["readonly"] false).isSome
  if let some node ← indexSignature? start then return node
  if let some node ← accessorSignature? start readOnly then return node
  propertySignature start readOnly

def typeMembers : Parse (List Node) := do
  expect "\x7b"
  let members ← whileAt (do return !(← isAt "\x7d")) typeMember
  expect "\x7d"
  return members

/-- The label of an element of a tuple type, if there is one. -/
def tupleLabel? : Parse (List Node) := do
  let label ← attempt do
    let _ ← eat "..."
    let name ← wordName
    let _ ← eat "?"
    expect ":"
    return some name
  return label.toList

def tupleElement : Parse Node := do
  let start ← here
  let label ← tupleLabel?
  if ← eat "..." then
    let type ← call .type
    return .other .restType (← spanFrom start) (label ++ [type])
  let type ← call .type
  if ← eat "?" then return .other .optionalType (← spanFrom start) (label ++ [type])
  if label.isEmpty then return type else plainTypeFrom start (label ++ [type])

/-- Does a required element follow an optional one? -/
def requiredAfterOptional : List Node → Bool
  | [] => false
  | node :: rest =>
    (node.isKind .optionalType &&
      rest.any fun later => !later.isKind .optionalType && !later.isKind .restType) ||
      requiredAfterOptional rest

def tupleType : Parse Node := do
  let start ← here
  expect "["
  let elements ← typeList (isAt "]") tupleElement
  expect "]"
  if requiredAfterOptional elements then fail .requiredAfterOptional
  plainTypeFrom start elements

/-- A type that is a name: a word of its own, or a reference. -/
def namedType (start : Nat) (text : String) : Parse Node := do
  if text == "asserts" && (← isNext "this") then
    let _ ← advance
    return ← thisType start true
  let qualified ← isNext "."
  if typeWords.contains text && !qualified then
    let _ ← advance
    plainTypeFrom start []
  else typeReference

/-- A type without operators and brackets behind it. -/
def simpleType : Parse Node := do
  let start ← here
  match ← need with
  | .word text =>
    if text == "true" || text == "false" then
      let _ ← advance
      plainTypeFrom start []
    else if isPlainName text || typeKeywords.contains text then namedType start text
    else if text == "import" then importType
    else if text == "this" then thisType start false
    else if text == "typeof" then queryType
    else noType
  | .string value _ =>
    let _ ← advance
    return .stringType (← spanFrom start) value
  | .number _ | .bigint _ =>
    let _ ← advance
    plainTypeFrom start []
  | .mark "-" =>
    let _ ← advance
    match ← need with
    | .number _ | .bigint _ =>
      let _ ← advance
      plainTypeFrom start []
    | _ => unexpected "numeric literal or bigint literal"
  | .mark "`" =>
    let types ← template false (call .type)
    plainTypeFrom start types
  | .mark "\x7b" =>
    if ← ahead startsMappedType then mappedType
    else
      let members ← typeMembers
      return .typeLiteral (← spanFrom start) members
  | .mark "[" => tupleType
  | .mark "(" =>
    let _ ← advance
    let type ← call .type
    expect ")"
    plainTypeFrom start [type]
  | _ => noType
where
  /-- No type starts here. -/
  noType : Parse Node :=
    unexpected ("an identifier, void, yield, null, await, break, a string literal, " ++
      "a numeric literal, true, false, `, -, import, this, typeof, \x7b, [, (")

/-- A type with the brackets behind it: arrays and indexed types. -/
def arrayType : Parse Node := do
  let start ← here
  let first ← simpleType
  repeating first fun type => do
    if (← afterBreak) then return (false, type)
    unless ← eat "[" do return (false, type)
    if ← eat "]" then return (true, ← plainTypeFrom start [type])
    let index ← call .type
    expect "]"
    return (true, ← plainTypeFrom start [type, index])

/-- A type inferred inside a conditional type. -/
def inferType : Parse Node := do
  let start ← here
  expect "infer"
  let name ← wordName
  let bound ← attempt do
    expect "extends"
    let type ← call .plainType
    if (← context).noConditionalType || !(← isAt "?") then return some type else return none
  plainTypeFrom start (name :: bound.toList)

def operatorType : Parse Node := do
  let start ← here
  if ← isAtAny ["keyof", "unique", "readonly"] then
    let _ ← advance
    let type ← call .operatorType
    plainTypeFrom start [type]
  else if ← isAt "infer" then inferType
  else within (fun ctx => { ctx with noConditionalType := false }) arrayType

def unconditionalType : Parse Node := do
  if ← startsFunctionType then return ← functionType false
  if (← isAt "new") || ((← isAt "abstract") && (← isNext "new")) then return ← functionType true
  joinedTypes "|" (joinedTypes "&" operatorType)

def typeExpr : Parse Node := do
  let start ← here
  let checked ← unconditionalType
  if (← context).noConditionalType || (← afterBreak) then return checked
  unless ← eat "extends" do return checked
  let bound ← within (fun ctx => { ctx with noConditionalType := true }) unconditionalType
  expect "?"
  let whenTrue ← within (fun ctx => { ctx with noConditionalType := false }) (call .type)
  expect ":"
  let whenFalse ← within (fun ctx => { ctx with noConditionalType := false }) (call .type)
  plainTypeFrom start [checked, bound, whenTrue, whenFalse]

/-- Type arguments behind an expression, unless what follows makes them a comparison. -/
def expressionTypeArguments? (startsExpression : Parse Bool) : Parse (Option (List Node)) :=
  attempt do
    let types ← typeArguments
    if ← isAtAny ["<", ">", "+", "-", "(", "`"] then return none
    if (← afterBreak) || (← look).isBinary || !(← startsExpression) then return some types
    return none

end ComponentCatalog.Script
