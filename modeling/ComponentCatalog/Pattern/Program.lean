import ComponentCatalog.Pattern.Parse

/-!
# Automata for patterns

An expression becomes a list of instructions, of which some take a character and others say where to
go on. A fork goes on in two places and prefers the first, so the order of the alternatives of a
pattern and the greed of its repetitions are in the order of the forks.

A repetition of something that can match the empty text is an optional repetition of at least one:
its body is then tried before the way around it, whatever the body matched.
-/

namespace ComponentCatalog.Pattern

/-- An instruction of an automaton. Targets are places in the list of instructions. -/
inductive Instr where
  | take (set : CharSet) (next : Nat)
  | check (look : Look) (next : Nat)
  /-- Notes the place in the text. -/
  | mark (slot : Nat) (next : Nat)
  | fork (first second : Nat)
  | accept
  deriving Repr

abbrev Code := Array Instr

namespace Code

/-- Puts one more instruction at the end and gives its place. -/
def emit (code : Code) (instr : Instr) : Code × Nat :=
  let place := code.size
  (code.push instr, place)

/-- A fork that prefers going on, if the repetition is greedy. -/
def choice (greedy : Bool) (on out : Nat) : Instr :=
  if greedy then .fork on out else .fork out on

/-- Repeats a fragment a number of times. The fragment is given by how it is put in front of a
place. -/
def times (fragment : Code → Nat → Code × Nat) : Nat → Code → Nat → Code × Nat
  | 0, code, next => (code, next)
  | count + 1, code, next =>
    let (code, start) := times fragment count code next
    fragment code start

/-- Puts a fragment in front of a place up to a number of times. Each time is one more choice. -/
def upTo (fragment : Code → Nat → Code × Nat) (greedy : Bool) (out : Nat) :
    Nat → Code → Nat → Code × Nat
  | 0, code, next => (code, next)
  | count + 1, code, next =>
    let (code, start) := upTo fragment greedy out count code next
    let (code, body) := fragment code start
    code.emit (choice greedy body out)

/-- Puts a fragment in front of a place at least once. -/
def plus (fragment : Code → Nat → Code × Nat) (greedy : Bool) (code : Code) (next : Nat) :
    Code × Nat :=
  -- Any instruction will do until the body, to which the fork leads, has its place.
  let (code, fork) := code.emit .accept
  let (code, body) := fragment code fork
  (code.set! fork (choice greedy body next), body)

/-- Puts a fragment in front of a place any number of times. -/
def star (fragment : Code → Nat → Code × Nat) (nullable greedy : Bool) (code : Code) (next : Nat) :
    Code × Nat :=
  if nullable then
    let (code, body) := plus fragment greedy code next
    code.emit (choice greedy body next)
  else
    let (code, fork) := code.emit .accept
    let (code, body) := fragment code fork
    (code.set! fork (choice greedy body next), fork)

end Code

/-- Puts the instructions of an expression in front of a place. -/
def Expr.compile : Expr → Code → Nat → Code × Nat
  | .empty, code, next => (code, next)
  | .char set, code, next => code.emit (.take set next)
  | .look asked, code, next => code.emit (.check asked next)
  | .group index body, code, next =>
    let (code, ending) := code.emit (.mark (2 * index + 1) next)
    let (code, start) := body.compile code ending
    code.emit (.mark (2 * index) start)
  | .seq first second, code, next =>
    let (code, middle) := second.compile code next
    first.compile code middle
  | .either first second, code, next =>
    let (code, right) := second.compile code next
    let (code, left) := first.compile code next
    code.emit (.fork left right)
  | .repeated least most? greedy body, code, next =>
    match most?, least with
    | none, 0 => code.star body.compile body.nullable greedy next
    | none, least + 1 =>
      let (code, last) := code.plus body.compile greedy next
      Code.times body.compile least code last
    | some most, least =>
      let (code, start) := Code.upTo body.compile greedy next (most - least) code next
      Code.times body.compile least code start

structure Program where
  code : Array Instr
  start : Nat
  groups : Nat
  names : List (String × Nat)

/-- The automaton of a pattern. It marks where the match starts and ends. -/
def Parsed.program (parsed : Parsed) : Program :=
  let (code, start) := (Expr.group 0 parsed.expr).compile #[.accept] 0
  ⟨code, start, parsed.groups, parsed.names⟩

end ComponentCatalog.Pattern
