import ComponentCatalog.Script.Declaration

/-!
# Statements

All statements of a script but its imports and exports. A statement that is no declaration may be
the body of a loop or a branch.
-/

namespace ComponentCatalog.Script

open Parse

def statementFrom (start : Nat) (parts : List Node) : Parse Node := do
  return .other .statement (← spanFrom start) parts

/-- A block in braces; the end of the script closes it too. -/
def block : Parse Node := do
  let start ← here
  expect "\x7b"
  let nodes ← blockBody (call (.statement true))
  statementFrom start nodes

def innerStatement : Parse Node := call (.statement false)

/-- An expression between parentheses, behind a word. -/
def parenthesizedTest : Parse Node := do
  expect "("
  let test ← allowingIn true (call .expression)
  expect ")"
  return test

/-- `break` or `continue`, with the label it is about. -/
def jump (start : Nat) : Parse Node := do
  let _ ← advance
  unless ← eatClose do
    let _ ← plainName false false
    expectClose
  statementFrom start []

/-- A statement with two branches; an `else if` of an outer branch is left to that branch. -/
def branch : Parse Node := do
  let start ← here
  let _ ← advance
  let ignoresElse := (← context).ignoreElse
  within (fun ctx => { ctx with ignoreElse := false }) do
    let test ← parenthesizedTest
    let body ← innerStatement
    let others ← repeating ([] : List Node) fun others => do
      if ignoresElse then return (false, others)
      unless ← eat "else" do return (false, others)
      if ← isAt "if" then
        let other ← within (fun ctx => { ctx with ignoreElse := true }) (call .branch)
        return (true, other :: others)
      else return (false, (← innerStatement) :: others)
    statementFrom start (test :: body :: others.reverse)

def returnStatement (start : Nat) : Parse Node := do
  let _ ← advance
  let value ← if ← isAtClose then pure [] else pure [← allowingIn true (call .expression)]
  expectClose
  statementFrom start value

def switchCase (hadDefault : Bool) : Parse (Bool × Node) := do
  let start ← here
  let isCase ← isAt "case"
  let _ ← advance
  if !isCase && hadDefault then fail .severalDefaults
  let test ← if isCase then pure [← allowingIn true (call .expression)] else pure []
  expect ":"
  let body ← whileAt (do
      return !(← atEnd) && !(← isAtAny ["case", "default", "\x7d"]))
    (call (.statement true))
  return (!isCase, ← statementFrom start (test ++ body))

def switchStatement (start : Nat) : Parse Node := do
  let _ ← advance
  let subject ← parenthesizedTest
  expect "\x7b"
  let (_, cases_) ← repeating (false, ([] : List Node)) fun (hadDefault, cases_) => do
    unless ← isAtAny ["case", "default"] do return (false, (hadDefault, cases_))
    let (isDefault, node) ← switchCase hadDefault
    return (true, (hadDefault || isDefault, node :: cases_))
  expect "\x7d"
  statementFrom start (subject :: cases_.reverse)

/-- `throw` with its value, which has to start on the same line. -/
def throwStatement (start : Nat) : Parse Node := do
  let _ ← advance
  if ← afterBreak then fail .breakAfterThrow
  let value ← allowingIn true (call .expression)
  expectClose
  statementFrom start [value]

/-- The handler of a `try`, if one stands here. -/
def handler? : Parse (List Node) := do
  unless ← eat "catch" do return []
  let caught ← if ← eat "(" then do
      let target ← call .target
      let type ← if ← typescript then annotation? else pure []
      expect ")"
      pure (target :: type)
    else pure []
  let body ← call .block
  return caught ++ [body]

/-- What is done at the end of a `try` in any case, if it stands here. -/
def finalizer? : Parse (List Node) := do
  if ← eat "finally" then return [← call .block] else return []

def tryStatement (start : Nat) : Parse Node := do
  let _ ← advance
  let body ← call .block
  let handler ← handler?
  let finalizer ← finalizer?
  statementFrom start (body :: (handler ++ finalizer))

/-- A handler or a last block without its `try`, which is passed over. -/
def strayHandler (start : Nat) : Parse Node := do
  let place ← spanFrom start
  let skip (p : Parse (List Node)) : Parse Unit := do
    let _ ← recover (do return .other .statement place (← p)) fun _ => return invalidAt place
  if ← isAt "catch" then skip handler?
  skip finalizer?
  return invalidAt place

/-- The head of a loop. -/
inductive ForHead where
  | counted (parts : List Node)
  | over (isOf : Bool) (target value : Node)

/-- The rest of the head of a counting loop, from behind its first semicolon. -/
def countedHead (init : List Node) : Parse ForHead := do
  let test ← if ← eat ";" then pure []
    else do
      let test ← allowingIn true (call .expression)
      expect ";"
      pure [test]
  let update ← if ← isAt ")" then pure [] else pure [← allowingIn true (call .expression)]
  return .counted (init ++ test ++ update)

/-- The rest of the head of a loop over a value, from `in` or `of` on. -/
def overHead (target : Node) : Parse ForHead := do
  let word ← advance
  let isOf := word.isWord "of"
  let value ← allowingIn true (call (if isOf then .assignment else .expression))
  return .over isOf target value

def forHead : Parse ForHead := do
  if ← startsVariables then
    let node ← variableList true
    if ← isAtAny ["of", "in"] then return ← overHead node
    expect ";"
    return ← countedHead [node]
  if ← eat ";" then return ← countedHead []
  let first ← allowingIn false (call .expression)
  if ← isAtAny ["of", "in"] then return ← overHead (← lift (asPattern .assigned first))
  expect ";"
  countedHead [first]

def forStatement (start : Nat) : Parse Node := do
  let _ ← advance
  let awaits ← eat "await"
  expect "("
  let head ← within (fun ctx => { ctx with inForHead := true }) forHead
  expect ")"
  let body ← innerStatement
  match head with
  | .counted parts =>
    if awaits then fail .awaitLoop
    statementFrom start (parts ++ [body])
  | .over isOf target value =>
    if awaits && !isOf then fail .awaitLoop
    statementFrom start [target, value, body]

def whileStatement (start : Nat) : Parse Node := do
  let _ ← advance
  let test ← parenthesizedTest
  let body ← innerStatement
  statementFrom start [test, body]

def doStatement (start : Nat) : Parse Node := do
  let _ ← advance
  let body ← innerStatement
  expect "while"
  let test ← parenthesizedTest
  let _ ← eatClose
  statementFrom start [test, body]

/-- A statement behind its label. -/
def labelled (start : Nat) (label : Node) : Parse Node := do
  let body ← if ← isAt "function" then functionDeclaration [] true else innerStatement
  statementFrom start [label, body]

def awaitStatement (start : Nat) : Parse Node := do
  let _ ← advance
  let value ← awaitFrom start
  let value ← allowingIn true (joinAll value)
  let _ ← eatClose
  statementFrom start [value]

/-- A declaration of a typed script that has a name on the same line. -/
def startsNamed (word : String) : Parse Bool := do
  return (← isAt word) && (← isNextToken Token.isAnyWord) && !(← beforeBreak)

/-- What an expression at the start of a statement turns out to begin. -/
def behindExpression (marks : List Node) (start : Nat) (node : Node) : Parse Node := do
  let word := if node.isName then nameText node else ""
  if node.isName then
    if word == "interface" && (← afterBreak) then
      let _ ← eatClose
      return ← statementFrom start [node]
    if ← eat ":" then return ← labelled start node
    if ← typescript then
      let found ← match word with
        | "declare" => declared? marks start
        | "global" => if ← isAt "\x7b" then do pure (some (← spaceBlock)) else pure none
        | _ => wordDeclaration? marks start word false
      if let some declaration := found then return declaration
      if ["public", "static", "abstract"].contains word && (← eat "interface") then
        return ← interfaceFrom start
  if ← eatClose then return ← statementFrom start [node]
  if (← look).isBinary then return ← statementFrom start [← joinAll node]
  fail .noStatementEnd

/-- A statement that starts with a word of its own, if the word is one of these. -/
def wordStatement? (marks : List Node) (start : Nat) (declarations : Bool) (word : String) :
    Parse (Option Node) := do
  match word with
  | "break" | "continue" => return some (← jump start)
  | "debugger" =>
    let _ ← advance
    expectClose
    return some (← statementFrom start [])
  | "do" => return some (← doStatement start)
  | "for" => return some (← forStatement start)
  | "function" => return some (← functionDeclaration marks true)
  | "class" => return some (← classDeclaration marks start true)
  | "if" => return some (← call .branch)
  | "return" => return some (← returnStatement start)
  | "switch" => return some (← switchStatement start)
  | "throw" => return some (← throwStatement start)
  | "catch" | "finally" => return some (← strayHandler start)
  | "try" => return some (← tryStatement start)
  | "with" | "while" => return some (← whileStatement start)
  | "var" => return some (← variableList false)
  | "const" => if declarations then return some (← variableList false) else return none
  | "let" =>
    if declarations && (← isNextToken followsLet) then return some (← variableList false)
    else return none
  | "using" => if declarations then resources? start else return none
  | _ => return none

/-- A typed script's declaration whose word and name stand on one line, if one starts here. -/
def namedDeclaration? (word : String) : Parse (Option Node) := do
  unless ["interface", "type", "enum"].contains word do return none
  unless (← typescript) && (← startsNamed word) do return none
  let start ← here
  let _ ← advance
  match word with
  | "interface" => return some (← interfaceFrom start)
  | "type" => return some (← aliasFrom start)
  | _ => return some (← enumFrom start)

/-- A statement behind its decorators. -/
def statementBehind (marks : List Node) (start : Nat) (declarations top : Bool) :
    Parse Node := do
  if (← typescript) && (← isAt "const") && (← isNext "enum") then
    let _ ← advance
    let _ ← advance
    return ← enumFrom start
  let token ← needStart
  if let .word word := token then
    if word == "await" then
      if declarations && (← isNext "using") then
        let _ ← advance
        if let some node ← resources? start then return node
        let value ← allowingIn true (joinAll (← awaitFrom start))
        let _ ← eatClose
        return ← statementFrom start [value]
      if top then return ← awaitStatement start
    if let some node ← wordStatement? marks start declarations word then return node
    if let some node ← namedDeclaration? word then return node
  if token.isMark "\x7b" then return ← call .block
  if ← eat ";" then return ← statementFrom start []
  if (← isAt "async") && (← isNext "function") && !(← beforeBreak) then
    return ← functionDeclaration marks true
  let node ← allowingIn true (call .expression)
  behindExpression marks start node

/-- A statement in its surroundings. -/
def plainStatement (marks : List Node) (start : Nat) (declarations top : Bool) : Parse Node :=
  within (fun ctx => { ctx with awaitsColon := false }) (statementBehind marks start declarations top)

/-- A statement inside another one. An import there can only be an expression. -/
def statement (declarations : Bool) : Parse Node := do
  let start ← here
  let marks ← decorators
  if ← isAt "import" then
    let node ← call .expression
    let _ ← eatClose
    return ← statementFrom start [node]
  if ← isAt "export" then fail .importInStatement
  plainStatement marks start declarations false

end ComponentCatalog.Script
