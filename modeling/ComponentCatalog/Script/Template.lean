import ComponentCatalog.Script.Parse

/-!
# Templates and regular expressions

Two literals whose text is no sequence of tokens. When one of them starts at the current token, the
tokens read ahead are given up and the source is read from there.
-/

namespace ComponentCatalog.Script

open Parse

/-- Gives up the tokens read ahead and goes on at a place of the source. -/
def resumeAt (c : Cursor) : Parse Unit :=
  modify fun state =>
    { state with cursor := c, current := none, following := none, taken := c.pos }

/-- The text of a template from a place on; tells whether the template ends with it. -/
def templateText (tagged : Bool) (c : Cursor) : Parse Bool := do
  match Lexer.readChunk c with
  | (none, after) =>
    resumeAt after
    throw .openTemplate
  | (some chunk, after) =>
    resumeAt after
    match chunk.fault with
    | some fault => if tagged then return chunk.isTail else throw fault
    | none => return chunk.isTail

/-- A template, from its backquote; what stands in its braces is read by `p`. -/
def template (tagged : Bool) (p : Parse Node) : Parse (List Node) := do
  let tail ← templateText tagged (← current).source.next
  let (nodes, _) ← repeating (([] : List Node), tail) fun (nodes, tail) => do
    if tail then return (false, (nodes, tail))
    let node ← p
    unless ← isAt "\x7d" do expect "\x7d"
    let tail ← templateText tagged (← current).source.next
    return (true, (node :: nodes, tail))
  return nodes.reverse

def regexLiteral : Parse Node := do
  let start ← here
  let (lexeme, after) := Lexer.readRegex (← current).source
  resumeAt after
  match lexeme.token with
  | .bad _ => throw .noExpression
  | _ => return .other .regex (← spanFrom start) []

/-- The token where an expression or a statement starts. A slash has to open a regular expression
that is closed. -/
def needStart : Parse Token := do
  let token ← need
  if token.isMark "/" || token.isMark "/=" then
    let (lexeme, after) := Lexer.readRegex (← current).source
    if let .bad fault := lexeme.token then
      resumeAt after
      throw fault
  return token

end ComponentCatalog.Script
