import ComponentCatalog.Pattern.Search

/-!
# Replacing what a pattern matches

The matches of a text are taken from left to right without overlap. A match of the empty text counts
unless it stands right behind the match before it. The replacement can refer to groups of the match,
by number or by name.
-/

namespace ComponentCatalog.Pattern

/-- A part of a replacement. -/
inductive Piece where
  | text (chars : List Char)
  /-- The text of a group. -/
  | group (name : String)
  deriving Repr, DecidableEq

/-- Can a name of a group without braces hold a character? -/
def isReferenceChar (c : Char) : Bool := c.isAlphanum || c == '_'

/-- The group that a dollar sign refers to, given what follows the sign, and what is behind the
reference. -/
def reference? : List Char → Option (String × List Char)
  | '\x7b' :: rest =>
    let name := rest.takeWhile (· != '\x7d')
    match rest.dropWhile (· != '\x7d') with
    | _ :: rest => some (String.ofList name, rest)
    | [] => none
  | rest =>
    let name := rest.takeWhile isReferenceChar
    if name.isEmpty then none else some (String.ofList name, rest.dropWhile isReferenceChar)

/-- The parts of a replacement. A dollar sign that refers to nothing stands for itself, and so does
a double one. -/
def piecesFrom : Nat → List Char → List Piece
  | 0, _ => []
  | _, [] => []
  | fuel + 1, '$' :: '$' :: rest => .text ['$'] :: piecesFrom fuel rest
  | fuel + 1, '$' :: rest =>
    match reference? rest with
    | some (name, rest) => .group name :: piecesFrom fuel rest
    | none => .text ['$'] :: piecesFrom fuel rest
  | fuel + 1, c :: rest => .text [c] :: piecesFrom fuel rest

def pieces (replacement : String) : List Piece :=
  piecesFrom replacement.length replacement.toList

/-- The number that a text writes in decimal, with or without a plus sign. -/
def groupNumber? (name : String) : Option Nat :=
  let digits := match name.toList with
    | '+' :: digits => digits
    | digits => digits
  if !digits.isEmpty && digits.all Char.isDigit then
    let value := digits.foldl (fun value digit => 10 * value + (digit.toNat - '0'.toNat)) 0
    if value < Nat.pow 2 64 then some value else none
  else none

/-- A match: where it starts and ends, and the places of its groups. -/
structure Match where
  first : Nat
  last : Nat
  marks : Marks

/-- The match that marks stand for. -/
def Match.ofMarks? (marks : Marks) : Option Match := do
  let first ← (marks[0]?).join
  let last ← (marks[1]?).join
  return ⟨first, last, marks⟩

/-- The text of a group, nothing where the group took no part. -/
def Match.groupText (found : Match) (text : Array Char) (index : Nat) : List Char :=
  match (found.marks[2 * index]?).join, (found.marks[2 * index + 1]?).join with
  | some first, some last => (text.extract first last).toList
  | _, _ => []

/-- What a part of a replacement stands for. -/
def Match.fill (found : Match) (names : List (String × Nat)) (text : Array Char) :
    Piece → List Char
  | .text chars => chars
  | .group name =>
    match groupNumber? name with
    | some index => found.groupText text index
    | none => match names.lookup name with
      | some index => found.groupText text index
      | none => []

/-- A place in a text: its number, the character before it and the text behind it. -/
structure Spot where
  index : Nat
  before? : Option Char
  rest : List Char

def Spot.start (text : List Char) : Spot := ⟨0, none, text⟩

/-- The place a number of characters further on, if the text is that long. -/
def Spot.forward? : Nat → Spot → Option Spot
  | 0, spot => some spot
  | count + 1, ⟨index, _, c :: rest⟩ => Spot.forward? count ⟨index + 1, some c, rest⟩
  | _ + 1, ⟨_, _, []⟩ => none

/-- The first match at a place or behind it, and the place where it ends. -/
def Program.matchAt? (program : Program) (spot : Spot) : Option (Match × Spot) := do
  let found ← Match.ofMarks? (← program.matchFrom? spot.index spot.before? spot.rest)
  return (found, ← spot.forward? (found.last - spot.index))

/-- The matches at a place or behind it. The first argument bounds their number. The last one is the
end of the match before, where no empty match counts. -/
def Program.matchesFrom (program : Program) : Nat → Spot → Option Nat → List Match
  | 0, _, _ => []
  | fuel + 1, spot, last? =>
    match program.matchAt? spot with
    | none => []
    | some (found, behind) =>
      -- Such an empty match does not count, and the search goes on one character further.
      if found.first = found.last ∧ last? = some found.last then
        match (spot.forward? 1).bind program.matchAt? with
        | none => []
        | some (found, behind) => found :: program.matchesFrom fuel behind (some found.last)
      else found :: program.matchesFrom fuel behind (some found.last)

def Program.allMatches (program : Program) (text : List Char) : List Match :=
  program.matchesFrom (text.length + 2) (.start text) none

/-- The parts of a text between matches and what takes the place of the matches. -/
def splice (text : Array Char) (fill : Match → List Char) : Nat → List Match → List Char
  | start, [] => (text.extract start text.size).toList
  | start, found :: rest =>
    (text.extract start found.first).toList ++ fill found ++ splice text fill found.last rest

/-- Puts a replacement in the place of every match. -/
def Program.replaceAll (program : Program) (replacement : String) (text : String) : String :=
  let chars := text.toList.toArray
  let parts := pieces replacement
  String.ofList <| splice chars
    (fun found => parts.flatMap (found.fill program.names chars)) 0 (program.allMatches text.toList)

end ComponentCatalog.Pattern
