import ComponentCatalog.Script.Lexer
import ComponentCatalog.Script.Node

/-!
# The state of a reader of scripts

A reader sees the current token and may peek at the one behind it. Tokens are read only when they
are asked for, so that a reader that knows better (inside a type, at a slash, in a template) can say
how the next text is to be read. The grammar's recursion goes through `Rule`s: a parsing function
calls a rule, and `Grammar` ties the rules to their functions with a bound on the nesting.
-/

namespace ComponentCatalog.Script

/-- What surrounds the text being read. -/
structure Context where
  typescript : Bool
  /-- `in` is an operator here. -/
  allowIn : Bool := false
  /-- Angle brackets are read one by one. -/
  inType : Bool := false
  inGenerator : Bool := false
  inAsync : Bool := false
  inFunction : Bool := false
  inParameters : Bool := false
  inDeclare : Bool := false
  /-- Inside the arms of a conditional expression. -/
  inConditional : Bool := false
  /-- The next colon belongs to a conditional expression. -/
  awaitsColon : Bool := false
  /-- `extends` starts no conditional type here. -/
  noConditionalType : Bool := false
  /-- An `else` belongs to an outer statement. -/
  ignoreElse : Bool := false
  /-- Methods may use `super`. -/
  allowSuper : Bool := false
  inForHead : Bool := false
  deriving Repr, Inhabited

/-- How far a reader has come. -/
structure State where
  cursor : Cursor
  /-- No token has been read yet. -/
  first : Bool := true
  current : Option Lexeme := none
  following : Option Lexeme := none
  /-- The end of the last token taken. -/
  taken : Nat := 0
  /-- Where an arrow function may start. -/
  arrowStart : Option Nat := none
  deriving Inhabited

/-- The entry points of the grammar. -/
inductive Rule where
  | expression
  | assignment
  | binary
  | unary
  | leftHand
  | construct
  | type
  | plainType
  | operatorType
  | target
  | decorator
  | heritage
  | block
  | statement (declarations : Bool)
  | branch
  | item
  | space
  deriving Repr, DecidableEq

/-- A reading step: it may fail, and keeps the place it has come to when it fails. -/
abbrev Step (α : Type) := ExceptT Fault (StateM State) α

/-- What a reading step may use. -/
structure Env where
  context : Context
  rule : Rule → Context → Step Node

/-- A parsing function. -/
abbrev Parse (α : Type) := ReaderT Env (ExceptT Fault (StateM State)) α

namespace Parse

/-- Reads by a rule of the grammar. -/
def call (rule : Rule) : Parse Node := fun env => env.rule rule env.context

def context : Parse Context := do return (← read).context

def within {α : Type} (change : Context → Context) (p : Parse α) : Parse α :=
  fun env => p { env with context := change env.context }

/-- Reads with or without `in` as an operator. -/
def allowingIn {α : Type} (allowed : Bool) (p : Parse α) : Parse α :=
  within (fun ctx => { ctx with allowIn := allowed }) p

def inType {α : Type} (p : Parse α) : Parse α := within (fun ctx => { ctx with inType := true }) p

def typescript : Parse Bool := do return (← context).typescript

/-- Reads the next token of the source. -/
def readLexeme : Parse Lexeme := do
  let state ← get
  let (lexeme, cursor) := Lexer.next (← context).inType state.first state.cursor
  set { state with cursor, first := false }
  return lexeme

/-- The current token in its place. -/
def current : Parse Lexeme := do
  let state ← get
  match state.current with
  | some lexeme => return lexeme
  | none =>
    match state.following with
    | some lexeme =>
      set { state with current := some lexeme, following := none }
      return lexeme
    | none =>
      let lexeme ← readLexeme
      modify fun state => { state with current := some lexeme }
      return lexeme

/-- The token behind the current one, in its place. -/
def following : Parse Lexeme := do
  let _ ← current
  let state ← get
  match state.following with
  | some lexeme => return lexeme
  | none =>
    let lexeme ← readLexeme
    modify fun state => { state with following := some lexeme }
    return lexeme

def advance : Parse Token := do
  let lexeme ← current
  -- The end of the script is never passed.
  if lexeme.token == .finish then return .finish
  modify fun state => { state with current := none, taken := lexeme.span.hi }
  return lexeme.token

/-- The current token; a text that is no token is reported. -/
def look : Parse Token := do
  match (← current).token with
  | .bad fault =>
    let _ ← advance
    throw fault
  | token => return token

/-- The current token; the end of the script is reported. -/
def need : Parse Token := do
  let token ← look
  if token == .finish then throw .ended else return token

/-- Stops with a fault, behind a text that is no token. -/
def fail {α : Type} (fault : Fault) : Parse α := do
  if let .bad _ := (← current).token then let _ ← advance
  throw fault

/-- Does a token spell a mark or a word? -/
def spells (text : String) (token : Token) : Bool := token.isMark text || token.isWord text

def isAt (text : String) : Parse Bool := do return spells text (← current).token

def isAtAny (texts : List String) : Parse Bool := do
  let token := (← current).token
  return texts.any (spells · token)

def isAtToken (test : Token → Bool) : Parse Bool := do return test (← current).token

def isNext (text : String) : Parse Bool := do return spells text (← following).token

def isNextToken (test : Token → Bool) : Parse Bool := do return test (← following).token

def atEnd : Parse Bool := do return (← current).token == .finish

/-- Did a line end before the current token? The end of the script counts as one. -/
def afterBreak : Parse Bool := do
  let lexeme ← current
  return lexeme.afterBreak || lexeme.token == .finish

/-- Does a line end behind the current token? The end of the script counts as one. -/
def beforeBreak : Parse Bool := do
  let lexeme ← following
  return lexeme.afterBreak || lexeme.token == .finish

def eat (text : String) : Parse Bool := do
  if ← isAt text then
    let _ ← advance
    return true
  else return false

/-- Takes a mark or word that has to stand here. -/
def expect (text : String) : Parse Unit := do
  unless ← eat text do fail (.expected text (← current).token.shown)

/-- Stops because the current token is not what was wanted. -/
def unexpected {α : Type} (wanted : String) : Parse α := do
  fail (.unexpected (← current).token.shown wanted)

/-- May a statement end here? -/
def isAtClose : Parse Bool := do
  let lexeme ← current
  return spells ";" lexeme.token || spells "\x7d" lexeme.token || lexeme.token == .finish ||
    lexeme.afterBreak

/-- Takes a semicolon, or accepts a place where one is understood. -/
def eatClose : Parse Bool := do
  if ← eat ";" then return true else isAtClose

/-- The end of a statement has to stand here. -/
def expectClose : Parse Unit := do
  unless ← eatClose do fail (.expected ";" (← current).token.shown)

def here : Parse Nat := do
  let lexeme ← current
  if lexeme.token == .finish then return (← get).taken else return lexeme.span.lo

/-- The stretch from a start to the end of the last token taken. -/
def spanFrom (start : Nat) : Parse Span := do return ⟨start, (← get).taken⟩

/-- What a reading comes to from a state. -/
def outcome {α : Type} (p : Parse α) (env : Env) (state : State) : Except Fault α × State :=
  Id.run (StateT.run (ExceptT.run (p env)) state)

/-- Tries to read; a failure or nothing leaves the place as it was. -/
def attempt {α : Type} (p : Parse (Option α)) : Parse (Option α) := fun env =>
  ExceptT.mk fun before =>
    match outcome p env before with
    | (.ok (some value), after) => pure (.ok (some value), after)
    | _ => pure (.ok none, before)

/-- Looks ahead: the place stays as it was whatever comes. -/
def ahead {α : Type} (p : Parse α) : Parse α := fun env =>
  ExceptT.mk fun before => pure ((outcome p env before).1, before)

/-- Reads, and hands a failure to another reading, which goes on where the first stopped. -/
def recover {α : Type} (p : Parse α) (handle : Fault → Parse α) : Parse α := fun env =>
  ExceptT.mk fun before =>
    match outcome p env before with
    | (.ok value, after) => pure (.ok value, after)
    | (.error fault, after) => pure (outcome (handle fault) env after)

/-- Repeats a step while it asks for more, at most as often as the source has characters left. -/
def iterate {σ : Type} (step : σ → Parse (Bool × σ)) : Nat → σ → Parse σ
  | 0, _ => throw .tooDeep
  | fuel + 1, state => do
    let (more, state) ← step state
    if more then iterate step fuel state else return state

/-- Repeats a step while it asks for more. -/
def repeating {σ : Type} (start : σ) (step : σ → Parse (Bool × σ)) : Parse σ := do
  iterate step ((← get).cursor.rest.length + 4) start

/-- Reads nodes while a test holds. -/
def whileAt (test : Parse Bool) (p : Parse Node) : Parse (List Node) := do
  let nodes ← repeating ([] : List Node) fun nodes => do
    if ← test then return (true, (← p) :: nodes) else return (false, nodes)
  return nodes.reverse

/-- Reads elements up to a closing mark, with a comma behind all but the last. -/
def commaList (close : String) (p : Parse Node) : Parse (List Node) := do
  let nodes ← repeating ([] : List Node) fun nodes => do
    if (← atEnd) || (← isAt close) then return (false, nodes)
    let node ← p
    unless ← isAt close do expect ","
    return (true, node :: nodes)
  return nodes.reverse

end Parse

end ComponentCatalog.Script
