import ComponentCatalog.Pattern.Expr

/-!
# Reading a pattern

What a reader of a pattern keeps: the characters to come, the flags in force and the groups seen.
In verbose patterns blanks and comments between signs mean nothing.
-/

namespace ComponentCatalog.Pattern

open Unicode

/-- The flags that a pattern can switch. -/
structure Flags where
  ignoreCase : Bool := false
  multiLine : Bool := false
  dotAll : Bool := false
  swapGreed : Bool := false
  carriageReturn : Bool := false
  unicode : Bool := true
  verbose : Bool := false
  deriving Repr, DecidableEq

/-- The state of a reader. -/
structure Reader where
  rest : List Char
  flags : Flags := {}
  /-- The number of groups opened. -/
  groups : Nat := 0
  /-- The names of groups, each with its number. -/
  names : List (String × Nat) := []

/-- A step of a reader, which refuses what is no pattern. -/
abbrev Reading := StateT Reader Option

/-- The characters behind blanks and comments. The first argument tells whether a comment is open. -/
def behindBlanks : Bool → List Char → List Char
  | _, [] => []
  | true, c :: rest => behindBlanks (c != '\n') rest
  | false, c :: rest =>
    if isSpace c then behindBlanks false rest
    else if c == '#' then behindBlanks true rest
    else c :: rest

namespace Reading

def peek? : Reading (Option Char) := return (← get).rest.head?

/-- The character to come, which has to be there. -/
def peek : Reading Char := do
  match ← peek? with
  | some c => return c
  | none => failure

def flags : Reading Flags := return (← get).flags

def setFlags (flags : Flags) : Reading Unit := modify ({ · with flags })

def bump : Reading Unit := modify fun r => { r with rest := r.rest.tail }

/-- Passes over blanks and comments of a verbose pattern. -/
def skipBlanks : Reading Unit := do
  if (← flags).verbose then modify fun r => { r with rest := behindBlanks false r.rest }

/-- Passes over one character and the blanks behind it. -/
def step : Reading Unit := do
  bump
  skipBlanks

/-- Passes over one character and the blanks behind it, and wants more to come. -/
def advance : Reading Unit := do
  step
  let _ ← peek

/-- Passes over a text that has to come. -/
def expect (text : String) : Reading Unit := do
  if text.toList.isPrefixOf (← get).rest then
    modify fun r => { r with rest := r.rest.drop text.length }
  else failure

/-- Passes over a text if it comes. -/
def accept (text : String) : Reading Bool := do
  if text.toList.isPrefixOf (← get).rest then
    modify fun r => { r with rest := r.rest.drop text.length }
    return true
  else return false

/-- The character behind the one to come, and behind blanks of a verbose pattern. -/
def peekBehind? : Reading (Option Char) := do
  let tail := (← get).rest.tail
  if (← flags).verbose then
    match tail.dropWhile isSpace with
    | '#' :: comment => return (comment.dropWhile isSpace).head?
    | rest => return rest.head?
  else return tail.head?

/-- The characters up to a closing brace, which becomes the character to come. -/
def untilBrace : Nat → Reading (List Char)
  | 0 => failure
  | fuel + 1 => do
    advance
    let c ← peek
    if c == '\x7d' then return [] else return c :: (← untilBrace fuel)

/-- The characters between braces, of which the opening one is to come. -/
def braced : Reading (List Char) := do untilBrace (← get).rest.length

end Reading

def hexValue? (c : Char) : Option Nat :=
  if c.isDigit then some (c.toNat - '0'.toNat)
  else if 'a' ≤ c ∧ c ≤ 'f' then some (c.toNat - 'a'.toNat + 10)
  else if 'A' ≤ c ∧ c ≤ 'F' then some (c.toNat - 'A'.toNat + 10)
  else none

def hexNumber? (digits : List Char) : Option Nat :=
  digits.foldlM (fun value digit => (hexValue? digit).map (16 * value + ·)) 0

def charOfCode? (code : Nat) : Option Char :=
  if code.isValidChar then some (Char.ofNat code) else none

end ComponentCatalog.Pattern
