import ComponentCatalog.Script.ModuleItem

/-!
# Scripts

The rules of the grammar are tied to their parsing functions here. A rule uses up one unit of fuel
each time it is entered; a script has far fewer rules nested in each other than `depthOf` allows.
-/

namespace ComponentCatalog.Script

open Parse

/-- The parsing function of a rule. -/
def ruleBody : Rule → Parse Node
  | .expression => expression
  | .assignment => assignmentExpression
  | .binary => binaryExpression
  | .unary => unaryExpression
  | .leftHand => leftHand
  | .construct => construct
  | .type => typeExpr
  | .plainType => unconditionalType
  | .operatorType => operatorType
  | .target => bindingTarget
  | .decorator => decorator
  | .heritage => heritage
  | .block => block
  | .statement declarations => statement declarations
  | .branch => branch
  | .item => item
  | .space => spaceFrom

/-- Reads by a rule, with a bound on how deeply rules are nested. -/
def readRule : Nat → Rule → Context → Step Node
  | 0, _, _ => throw .tooDeep
  | fuel + 1, rule, context => ruleBody rule ⟨context, readRule fuel⟩

/-- How deeply the rules of a script may be nested: a few for each of its characters. -/
def depthOf (source : List Char) : Nat := 12 * source.length + 64

def items : Parse (List Node) := whileAt (do return (← look) != .finish) (call .item)

/-- Does a text start with the mark that tells the order of its bytes? -/
def startsWithMark (text : List Char) : Bool := text.head? == some '\uFEFF'

/-- A text without the mark that tells the order of its bytes. -/
def withoutMark (text : List Char) : List Char :=
  if startsWithMark text then text.drop 1 else text

/-- The items of a script, or why it does not parse. -/
def parse (typescript : Bool) (text : List Char) : Except Fault (List Node) :=
  let source := withoutMark text
  let context : Context := { typescript }
  let start : State := { cursor := Lexer.skipInterpreter (.ofList source) }
  (outcome items ⟨context, readRule (depthOf source)⟩ start).1

end ComponentCatalog.Script
