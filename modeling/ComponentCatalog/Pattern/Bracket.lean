import ComponentCatalog.Pattern.Escape

/-!
# Bracketed classes

A class in brackets joins characters, ranges, named sets and further classes. Between the joined
parts stand the operations `&&`, `--` and `~~`, which all bind alike and to the left.
-/

namespace ComponentCatalog.Pattern

open Unicode Reading

/-- An operation between the parts of a class. -/
inductive SetOp where
  | inter
  | diff
  | symmDiff
  deriving Repr, DecidableEq

/-- The set that an operation makes of two. -/
def SetOp.apply : SetOp → CharSet → CharSet → CharSet
  | inter => .inter
  | diff => .diff
  | symmDiff => .symmDiff

/-- The parts of a class read so far. Next to each set stands how deep classes nest in it. -/
structure Bracket where
  negated : Bool
  /-- What stands before the last operation, and the operation. -/
  pending? : Option (SetOp × CharSet × Nat) := none
  items : List (CharSet × Nat) := []

namespace Bracket

/-- Puts one more set into a class. -/
def add (bracket : Bracket) (set : CharSet) (depth : Nat) : Bracket :=
  { bracket with items := bracket.items ++ [(set, depth)] }

/-- The join of the sets behind the last operation. -/
def joined (bracket : Bracket) : CharSet × Nat :=
  let depth := (bracket.items.map Prod.snd).foldl max 0
  (.unions (bracket.items.map Prod.fst), depth + if bracket.items.length > 1 then 1 else 0)

/-- The sets so far under the operations so far. -/
def combined (flags : Flags) (bracket : Bracket) : CharSet × Nat :=
  match bracket.pending? with
  | none => bracket.joined
  | some (op, left, depth) =>
    let (right, other) := bracket.joined
    (op.apply (flags.withCase left) (flags.withCase right), max depth other + 1)

/-- Goes on behind an operation. -/
def behind (flags : Flags) (bracket : Bracket) (op : SetOp) : Bracket :=
  { bracket with pending? := some (op, bracket.combined flags), items := [] }

end Bracket

/-- The sets that go by a name between `[:` and `:]`. -/
def namedClass? : String → Option CharSet
  | "alnum" => some (.unions [.asciiDigits, .range 'A' 'Z', .range 'a' 'z'])
  | "alpha" => some (.union (.range 'A' 'Z') (.range 'a' 'z'))
  | "ascii" => some (.range '\x00' '\x7f')
  | "blank" => some (.union (.single '\t') (.single ' '))
  | "cntrl" => some (.union (.range '\x00' '\x1f') (.single '\x7f'))
  | "digit" => some .asciiDigits
  | "graph" => some (.range '!' '~')
  | "lower" => some (.range 'a' 'z')
  | "print" => some (.range ' ' '~')
  | "punct" => some (.unions [.range '!' '/', .range ':' '@', .range '[' '\x60', .range '\x7b' '~'])
  | "space" => some .asciiBlanks
  | "upper" => some (.range 'A' 'Z')
  | "word" => some .asciiWord
  | "xdigit" => some (.unions [.asciiDigits, .range 'A' 'F', .range 'a' 'f'])
  | _ => none

/-- A class that goes by its name, at the start of a text: the class, whether it is negated, and the
text behind it. -/
def namedClassAt? (text : List Char) : Option (CharSet × Bool × List Char) := do
  guard ("[:".toList.isPrefixOf text)
  let text := text.drop 2
  let negated := text.head? == some '^'
  let text := if negated then text.tail else text
  let name := text.takeWhile (· != ':')
  let rest := text.dropWhile (· != ':')
  guard (":]".toList.isPrefixOf rest)
  let set ← namedClass? (String.ofList name)
  return (set, negated, rest.drop 2)

/-- A character or an escape of a class, which is to come. -/
def readClassItem : Reading Escaped := do
  let c ← peek
  if c == '\\' then readEscape
  else
    bump
    return .char c false

def rangeEnd : Escaped → Reading Char
  | .char c _ => do
    if !(← flags).unicode && c.toNat ≥ 128 then failure
    return c
  | _ => failure

/-- A member of a class or a range of them, of which the first is to come. -/
def readRange : Reading CharSet := do
  let first ← readClassItem
  skipBlanks
  let c ← peek
  let behind ← peekBehind?
  -- A hyphen that closes the class, or is half an operation, makes no range.
  if c != '-' || behind == some ']' || behind == some '-' then
    match first with
    | .char .. => return .single (← rangeEnd first)
    | .set set => return set
    | .look _ => failure
  advance
  let last ← rangeEnd (← readClassItem)
  let first ← rangeEnd first
  if last < first then failure
  return .range first last

/-- The hyphens that open a class, which stand for themselves. -/
def readHyphens : Nat → Bracket → Reading Bracket
  | 0, _ => failure
  | fuel + 1, bracket => do
    if (← peek) == '-' then
      advance
      readHyphens fuel (bracket.add (.single '-') 0)
    else return bracket

/-- What opens a class, of which the bracket is to come. -/
def readBracketStart : Reading Bracket := do
  advance
  let negated := (← peek) == '^'
  if negated then advance
  let bracket ← readHyphens (← get).rest.length.succ ⟨negated, none, []⟩
  if bracket.items.isEmpty && (← peek) == ']' then
    advance
    return bracket.add (.single ']') 0
  return bracket

/-- An operation between parts of a class, if one is to come. -/
def acceptSetOp : Reading (Option SetOp) := do
  if ← accept "&&" then return some .inter
  if ← accept "--" then return some .diff
  if ← accept "~~" then return some .symmDiff
  return none

mutual

def readBracket : Nat → Reading (CharSet × Nat)
  | 0 => failure
  | fuel + 1 => do readBracketItems fuel (← readBracketStart)

/-- The parts of a class up to its closing bracket. -/
def readBracketItems : Nat → Bracket → Reading (CharSet × Nat)
  | 0, _ => failure
  | fuel + 1, bracket => do
    skipBlanks
    let flags ← flags
    match ← peek with
    | '[' =>
      match namedClassAt? (← get).rest with
      | some (set, negated, rest) =>
        modify ({ · with rest })
        readBracketItems fuel (bracket.add (← flags.negate negated (flags.withCase set)) 0)
      | none =>
        let (set, depth) ← readBracket fuel
        readBracketItems fuel (bracket.add set depth)
    | ']' =>
      bump
      let (set, depth) := bracket.combined flags
      return (← flags.negate bracket.negated (flags.withCase set), depth + 1)
    | _ =>
      match ← acceptSetOp with
      | some op => readBracketItems fuel (bracket.behind flags op)
      | none => readBracketItems fuel (bracket.add (← readRange) 0)

end

end ComponentCatalog.Pattern
