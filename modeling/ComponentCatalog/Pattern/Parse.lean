import ComponentCatalog.Pattern.Bracket

/-!
# From text to expression

The grammar of patterns: alternatives of sequences of items, an item being a character, a set, a
place or a group, with any number of repetitions behind it. A pattern that nests too deep or that
would take too much room is refused.
-/

namespace ComponentCatalog.Pattern

open Unicode Reading

/-- An expression, and how deep signs nest in it. -/
structure Measured where
  expr : Expr
  depth : Nat

/-- The part of a pattern between two parentheses, as far as it was read. -/
structure Level where
  /-- The finished alternatives, the last one first. -/
  branches : List Measured := []
  /-- The items of the open alternative, the last one first. A switch of flags stands as `none`. -/
  items : List (Option Measured) := []

namespace Level

/-- Puts one more item into the open alternative. -/
def add (level : Level) (item : Option Measured) : Level :=
  { level with items := item :: level.items }

/-- The open alternative as one expression. -/
def sequence (level : Level) : Measured :=
  let items := (level.items.filterMap id).reverse
  let depth := (items.map Measured.depth).foldl max 0
  ⟨.inSequence (items.map Measured.expr), if level.items.length > 1 then depth + 1 else depth⟩

/-- Opens one more alternative. -/
def nextBranch (level : Level) : Level := ⟨level.sequence :: level.branches, []⟩

/-- All alternatives as one expression. -/
def close (level : Level) : Measured :=
  let branches := level.nextBranch.branches.reverse
  let depth := (branches.map Measured.depth).foldl max 0
  ⟨.firstOf (branches.map Measured.expr), if branches.length > 1 then depth + 1 else depth⟩

end Level

def literal (flags : Flags) (c : Char) (byte : Bool) : Reading Expr := do
  if byte && !flags.unicode && c.toNat ≥ 128 then failure
  if !flags.ignoreCase then return .char (.single c)
  if flags.unicode then
    return .char (if (caseVariants c.toNat).all (· == c.toNat) then .single c else .anyCase (.single c))
  return .char (if c.isAlpha then .anyLatinCase (.single c) else .single c)

def dot (flags : Flags) : Reading Expr := do
  if !flags.unicode then failure
  if flags.dotAll then return .char (.range '\x00' (Char.ofNat 0x10FFFF))
  let ends : CharSet :=
    if flags.carriageReturn then .union (.single '\n') (.single '\r') else .single '\n'
  return .char (.complement ends)

def caret (flags : Flags) : Look :=
  if !flags.multiLine then .textStart
  else if flags.carriageReturn then .anyLineStart else .lineStart

def dollar (flags : Flags) : Look :=
  if !flags.multiLine then .textEnd
  else if flags.carriageReturn then .anyLineEnd else .lineEnd

/-- A count of repetitions, of which the first digit is to come. -/
def readCount : Reading (Option Nat) := do
  modify fun r => { r with rest := r.rest.dropWhile isSpace }
  let digits ← digitsFrom (← get).rest.length
  blanksFrom (← get).rest.length
  if digits.isEmpty then return none
  let value := digits.foldl (fun value digit => 10 * value + (digit.toNat - '0'.toNat)) 0
  if value < Nat.pow 2 32 then return some value else failure
where
  /-- The digits to come. -/
  digitsFrom : Nat → Reading (List Char)
    | 0 => return []
    | fuel + 1 => do
      match ← peek? with
      | some c =>
        if c.isDigit then
          step
          return c :: (← digitsFrom fuel)
        else return []
      | none => return []
  /-- Passes over the blanks to come. -/
  blanksFrom : Nat → Reading Unit
    | 0 => return
    | fuel + 1 => do
      if (← peek?).any isSpace then
        step
        blanksFrom fuel

/-- The bounds of a counted repetition, of which the brace is to come. -/
def readBounds : Reading (Nat × Option Nat) := do
  advance
  let least? ← readCount
  let _ ← peek
  let bounds ← do
    if (← peek) == ',' then
      advance
      if (← peek) == '\x7d' then pure (least?, none)
      else
        match ← readCount with
        | some most => pure (least?, some most)
        | none => failure
    else pure (least?, least?)
  if (← peek) != '\x7d' then failure
  match bounds with
  | (some least, some most) => if most < least then failure else return (least, some most)
  | (some least, none) => return (least, none)
  | (none, _) => failure

/-- Repeats the last item of a level. -/
def repeatLast (level : Level) (least : Nat) (most? : Option Nat) : Reading Level := do
  match level.items with
  | some item :: rest =>
    let lazily := (← peek?) == some '?'
    if lazily then bump
    let greedy := lazily == (← flags).swapGreed
    return { level with
      items := some ⟨.repeated least most? greedy item.expr, item.depth + 1⟩ :: rest }
  | _ => failure

/-- Flags with one of them switched. -/
def Flags.switch (flags : Flags) (sign : Char) (value : Bool) : Option Flags :=
  match sign with
  | 'i' => some { flags with ignoreCase := value }
  | 'm' => some { flags with multiLine := value }
  | 's' => some { flags with dotAll := value }
  | 'U' => some { flags with swapGreed := value }
  | 'u' => some { flags with unicode := value }
  | 'R' => some { flags with carriageReturn := value }
  | 'x' => some { flags with verbose := value }
  | _ => none

/-- The flags that signs switch on, and off behind a hyphen. No sign may come twice, and something
has to follow the hyphen. -/
def switchFlags (signs : List Char) (flags : Flags) : Option Flags := do
  guard (signs.eraseDups.length == signs.length && signs.getLast? != some '-')
  let (flags, _) ← signs.foldlM
    (fun (flags, value) sign =>
      if sign == '-' then some (flags, false)
      else (flags.switch sign value).map (·, value))
    (flags, true)
  return flags

/-- What stands behind an opening parenthesis. -/
inductive Opening where
  /-- Flags for the rest of the enclosing group. -/
  | switch (flags : Flags)
  /-- A group with its number, if it captures, and its flags. -/
  | group (index? : Option Nat) (flags : Flags)

/-- Counts one more group. -/
def nextGroup : Reading Nat := do
  modify fun r => { r with groups := r.groups + 1 }
  return (← get).groups

/-- Can a name hold a character at its start, or further on? -/
def isNameChar (first : Bool) (c : Char) : Bool :=
  c == '_' || within alphabetic c.toNat || (!first &&
    (c == '.' || c == '[' || c == ']' || within (categoryNd ++ categoryNl ++ categoryNo) c.toNat))

/-- The name of a group, up to the closing angle. -/
def readGroupName : Reading String := do
  let rest := (← get).rest
  let name := rest.takeWhile (· != '>')
  match name with
  | [] => failure
  | first :: others =>
    if !(isNameChar true first && others.all (isNameChar false)) then failure
    if name.length == rest.length then failure
    modify ({ · with rest := rest.drop (name.length + 1) })
    return String.ofList name

/-- What stands behind an opening parenthesis, which is to come. -/
def readOpening : Reading Opening := do
  step
  let rest := (← get).rest
  let flags ← flags
  -- An automaton cannot look around.
  if ["?=", "?!", "?<=", "?<!"].any (·.toList.isPrefixOf rest) then failure
  if (← accept "?P<") || (← accept "?<") then
    let index ← nextGroup
    let name ← readGroupName
    if (← get).names.any (·.1 == name) then failure
    modify fun r => { r with names := r.names ++ [(name, index)] }
    return .group (some index) flags
  if ← accept "?" then
    let signs := (← get).rest.takeWhile fun c => c != ':' && c != ')'
    modify fun r => { r with rest := r.rest.drop signs.length }
    let ending ← peek
    bump
    match switchFlags signs flags with
    | none => failure
    | some switched =>
      if ending == ':' then return .group none switched
      if signs.isEmpty then failure
      return .switch switched
  return .group (some (← nextGroup)) flags

/-- A character, a set or a place, which is to come. -/
def readAtom (fuel : Nat) : Reading Measured := do
  let flags ← flags
  match ← peek with
  | '[' =>
    let (set, depth) ← readBracket fuel
    return ⟨.char set, depth⟩
  | '\\' =>
    match ← readEscape with
    | .char c byte => return ⟨← literal flags c byte, 0⟩
    | .set set => return ⟨.char set, 0⟩
    | .look look => return ⟨.look look, 0⟩
  | '.' =>
    bump
    return ⟨← dot flags, 0⟩
  | '^' =>
    bump
    return ⟨.look (caret flags), 0⟩
  | '$' =>
    bump
    return ⟨.look (dollar flags), 0⟩
  | c =>
    bump
    return ⟨← literal flags c false, 0⟩

/-- The rest of a level. -/
def readLevel : Nat → Bool → Level → Reading Measured
  | 0, _, _ => failure
  | fuel + 1, nested, level => do
    skipBlanks
    match ← peek? with
    | none => if nested then failure else return level.close
    | some ')' =>
      if !nested then failure
      bump
      return level.close
    | some '(' =>
      let outer ← flags
      match ← readOpening with
      | .switch flags =>
        setFlags flags
        readLevel fuel nested (level.add none)
      | .group index? flags =>
        setFlags flags
        let body ← readLevel fuel true {}
        -- Flags that were switched within the group end with it.
        setFlags outer
        let expr := match index? with
          | some index => .group index body.expr
          | none => body.expr
        readLevel fuel nested (level.add (some ⟨expr, body.depth + 1⟩))
    | some '|' =>
      bump
      readLevel fuel nested level.nextBranch
    | some '?' =>
      bump
      readLevel fuel nested (← repeatLast level 0 (some 1))
    | some '*' =>
      bump
      readLevel fuel nested (← repeatLast level 0 none)
    | some '+' =>
      bump
      readLevel fuel nested (← repeatLast level 1 none)
    | some '\x7b' =>
      let (least, most?) ← readBounds
      step
      readLevel fuel nested (← repeatLast level least most?)
    | some _ => readLevel fuel nested (level.add (some (← readAtom fuel)))

/-- What a pattern says: its expression, the number of its groups and their names. -/
structure Parsed where
  expr : Expr
  groups : Nat
  names : List (String × Nat)

/-- The deepest nesting that a pattern may have. -/
def deepestNesting : Nat := 250

/-- The most room that the automaton of a pattern may take, in bytes. -/
def mostRoom : Nat := 10 * Nat.pow 2 20

/-- What a text says as a pattern, if it is one. -/
def parse? (text : String) : Option Parsed := do
  let chars := text.toList
  let (measured, reader) ← (readLevel (chars.length + 1) false {}).run { rest := chars }
  guard (measured.depth ≤ deepestNesting && measured.expr.weight ≤ mostRoom)
  return ⟨measured.expr, reader.groups, reader.names⟩

end ComponentCatalog.Pattern
