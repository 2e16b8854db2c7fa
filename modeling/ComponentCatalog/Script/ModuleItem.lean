import ComponentCatalog.Script.Statement

/-!
# Imports and exports

The items of a script that are no statements: what it takes from other scripts and what it gives
to them.
-/

namespace ComponentCatalog.Script

open Parse

/-- An item of which only the parts are kept. -/
def itemFrom (start : Nat) (parts : List Node) : Parse Node := do
  return .other .moduleItem (← spanFrom start) parts

/-- The attributes of an import behind its source, which only a typed script may have. -/
def attributes : Parse (List Node) := do
  let _ ← look
  if !(← typescript) || (← afterBreak) then return []
  if (← eat "assert") || (← eat "with") then return [← objectLiteral] else return []

/-- The source of an import or export, with its attributes and the end of the statement. -/
def fromSource : Parse (List Node) := do
  expect "from"
  unless (← need).isString do unexpected "a string literal"
  let source ← stringHere
  let more ← attributes
  expectClose
  return source :: more

def outerName : Parse Node := do
  let token ← look
  if token.isString then stringHere
  else if token.isAnyWord then wordName
  else unexpected "identifier or string"

/-- Stops at a name that strict code reserves. -/
def checkImported (name : Node) : Parse Unit := do
  if isReserved (nameText name) then fail .reservedImport

/-- The rest of `type as …` in the braces of an import: the word `type` may be the name itself. -/
def importTypeAs (as_ : Node) : Parse Unit := do
  unless ← isAtToken Token.isAnyWord do
    checkImported as_
    return ()
  let second ← boundName
  if nameText second == "as" && (← isAtToken Token.isAnyWord) then
    let _ ← boundName

def importedName : Parse Node := do
  let start ← here
  let outer ← outerName
  if let .string _ value := outer then
    if ← eat "as" then
      let _ ← boundName
      return ← itemFrom start []
    else fail (.textImport value)
  let isType ← if (← typescript) && nameText outer == "type" then isAtToken Token.isAnyWord
    else pure false
  let outer ← if isType then wordName else pure outer
  if isType && nameText outer == "as" then
    importTypeAs outer
    return ← itemFrom start []
  if ← eat "as" then
    let _ ← boundName
  else checkImported outer
  itemFrom start []

/-- The script that `import x = …` names. -/
def assignedSource (start : Nat) : Parse Node := do
  expect "="
  if (← isAt "require") && (← isNext "(") then
    let _ ← advance
    expect "("
    unless (← need).isString do unexpected "a string literal"
    let _ ← stringHere
    expect ")"
  else
    let _ ← entityName false
  expectClose
  itemFrom start []

/-- What an import binds before its braces. -/
inductive ImportHead where
  /-- All of the import, which has ended. -/
  | whole (node : Node)
  /-- The rest of the import follows. -/
  | open_

/-- Takes a second name when the first was a word about the import. -/
def secondName (first : Node) : Parse Node := do
  unless ← isAtToken Token.isName do return first
  if !(← isAt "from") || (← isNext "from") then boundName
  else if (← isNext "=") && nameText first == "type" then wordName
  else return first

/-- The name that an import binds first. -/
def importHead (start : Nat) : Parse ImportHead := do
  unless ← isAtToken Token.isName do return .open_
  let name ← boundName
  let typed ← typescript
  if typed && nameText name == "type" && (← isAtAny ["*", "\x7b"]) then return .open_
  let name ← if typed && nameText name == "type" then secondName name else pure name
  if typed && (← isAt "=") then return .whole (← assignedSource start)
  if ["source", "defer"].contains (nameText name) then
    if nameText name == "defer" && (← isAt "*") then return .open_
    let _ ← secondName name
  unless ← isAt "from" do expect ","
  return .open_

/-- Elements up to a closing brace, which is taken; a comma stands behind all but the last. -/
def bracedNames (p : Parse Node) : Parse Unit := do
  repeating () fun _ => do
    if (← atEnd) || (← isAt "\x7d") then return (false, ())
    let _ ← p
    if ← isAt "\x7d" then return (false, ())
    expect ","
    return (true, ())
  expect "\x7d"

def importItem (start : Nat) : Parse Node := do
  if (← isNext ".") || (← isNext "(") then
    let node ← call .expression
    let _ ← eatClose
    return ← statementFrom start [node]
  let _ ← advance
  if (← look).isString then
    let source ← stringHere
    let more ← attributes
    expectClose
    return ← itemFrom start (source :: more)
  match ← importHead start with
  | .whole node => return node
  | .open_ =>
    if ← eat "*" then
      expect "as"
      let _ ← boundName
    else if ← eat "\x7b" then bracedNames importedName
    itemFrom start (← fromSource)

/-- The rest of `type as …` in the braces of an export. -/
def exportTypeAs : Parse Unit := do
  unless ← isAtToken Token.isAnyWord do return ()
  let second ← wordName
  if nameText second == "as" && (← isAtToken Token.isAnyWord) then
    let _ ← wordName

def exportedName : Parse Node := do
  let start ← here
  let outer ← outerName
  let isType ← if (← typescript) && outer.isName && nameText outer == "type" then
      isAtToken Token.isAnyWord
    else pure false
  let outer ← if isType then wordName else pure outer
  if isType && nameText outer == "as" then
    exportTypeAs
    return ← itemFrom start []
  if ← eat "as" then
    let _ ← outerName
  itemFrom start []

/-- Does `async function` stand here on one line? -/
def startsAsyncFunction : Parse Bool := do
  return (← isAt "async") && (← isNext "function") && !(← beforeBreak)

/-- Decorators behind `export`, unless there were some before it. -/
def lateDecorators (marks : List Node) : Parse (List Node) := do
  unless ← isAt "@" do return marks
  let late ← decorators
  if !marks.isEmpty then fail .decoratedExport
  return late

/-- What is exported by default, from behind `default`. -/
def defaultExport (marks : List Node) (start : Nat) : Parse Node := do
  let marks ← lateDecorators marks
  if ← typescript then
    if (← isAt "abstract") && (← isNext "class") && !(← beforeBreak) then
      let _ ← advance
      return ← itemFrom start [← classDeclaration marks start false]
    if (← isAt "abstract") && (← isNext "interface") then
      let _ ← advance
    if ← isAt "interface" then
      let place ← here
      let _ ← advance
      return ← itemFrom start [← interfaceFrom place]
  if ← isAt "class" then return ← itemFrom start [← classDeclaration marks start false]
  if (← startsAsyncFunction) || (← isAt "function") then
    return ← itemFrom start [← functionDeclaration marks false]
  let value ← allowingIn true (call .assignment)
  expectClose
  itemFrom start [value]

/-- Names that are exported, of this script or of another one. -/
def namedExport (start : Nat) : Parse Node := do
  if ← isAt "*" then
    let renamed ← isNext "as"
    let _ ← advance
    if renamed then
      let _ ← advance
      let _ ← outerName
    return ← itemFrom start (← fromSource)
  expect "\x7b"
  bracedNames exportedName
  if ← isAt "from" then return ← itemFrom start (← fromSource)
  let _ ← eatClose
  itemFrom start []

/-- What only a typed script exports, if it stands here. -/
def typedExport? (marks : List Node) (start : Nat) : Parse (Option Node) := do
  unless ← typescript do return none
  if ← eat "declare" then
    if let some node ← declared? marks start then return some (← itemFrom start [node])
  if let .word word := (← current).token then
    let place ← here
    if let some node ← attempt (wordDeclaration? marks place word true) then
      return some (← itemFrom start [node])
  if ← eat "import" then
    if (← isAt "type") && (← isNextToken Token.isName) then let _ ← advance
    let _ ← wordName
    return some (← assignedSource start)
  if ← eat "=" then
    let value ← call .expression
    expectClose
    return some (← itemFrom start [value])
  if ← eat "as" then
    expect "namespace"
    let _ ← plainName false false
    expectClose
    return some (← itemFrom start [])
  return none

def exportItem (marks : List Node) (start : Nat) : Parse Node := do
  let _ ← advance
  let _ ← need
  if let some node ← typedExport? marks start then return node
  if (← typescript) && (← eat "type") then return ← namedExport start
  if ← eat "default" then return ← defaultExport marks start
  let marks ← lateDecorators marks
  if ← isAt "class" then return ← itemFrom start [← classDeclaration marks start true]
  if (← startsAsyncFunction) || (← isAt "function") then
    return ← itemFrom start [← functionDeclaration marks true]
  if (← typescript) && (← isAt "const") && (← isNext "enum") then
    let place ← here
    let _ ← advance
    let _ ← advance
    return ← itemFrom start [← enumFrom place]
  if ← startsVariables then return ← itemFrom start [← variableList false]
  namedExport start

/-- An item of a script: an import, an export or a statement. -/
def item : Parse Node := do
  let start ← here
  let marks ← decorators
  if ← isAt "import" then return ← importItem start
  if ← isAt "export" then return ← exportItem marks start
  plainStatement marks start true true

end ComponentCatalog.Script
