import ComponentCatalog.Pattern.Reader
import ComponentCatalog.Text.Scan
import ComponentCatalog.Unicode.Category
import ComponentCatalog.Unicode.Property
import ComponentCatalog.Unicode.Script

/-!
# Escapes

A backslash gives a sign of the pattern language its plain meaning, writes a character by its code,
or names a set of characters or a place. Letters and digits that mean nothing behind a backslash are
refused.
-/

namespace ComponentCatalog.Pattern

open Unicode Reading

/-- What an escape stands for. -/
inductive Escaped where
  /-- A character, written as a byte or not. -/
  | char (char : Char) (byte : Bool)
  | set (set : CharSet)
  | look (look : Look)

/-- A set with the variants in case that the flags ask for. -/
def Flags.withCase (flags : Flags) (set : CharSet) : CharSet :=
  if !flags.ignoreCase then set else if flags.unicode then .anyCase set else .anyLatinCase set

/-- The complement of a set. Without Unicode it would hold parts of characters. -/
def Flags.negate (flags : Flags) (negated : Bool) (set : CharSet) : Reading CharSet :=
  if !negated then return set
  else if flags.unicode then return .complement set
  else failure

/-- A name of a property as tables list it: without case, blanks and a leading `is`. -/
def plainName (name : List Char) : String :=
  let lower := name.map Char.toLower
  let stem := if "is".toList.isPrefixOf lower then lower.drop 2 else lower
  let kept := stem.filter fun c => c.toNat < 128 && c != ' ' && c != '_' && c != '-'
  if kept == ['c'] && stem.length < lower.length then "isc" else String.ofList kept

/-- The table that a list of named tables has under a name. -/
def tableNamed? (tables : List (List String × List Stride)) (name : String) :
    Option (List Stride) :=
  (tables.find? fun table => table.1.contains name).map Prod.snd

def category? (name : String) : Option CharSet :=
  if name == "c" || name == "other" then
    let unassigned := CharSet.complement (.listed assigned)
    some (.unions [unassigned, .listed categoryCc, .listed categoryCf, .listed categoryCo])
  else if name == "cn" || name == "unassigned" then some (.complement (.listed assigned))
  else (tableNamed? categories name).map .listed

/-- The set that a property without a value names. -/
def property? (name : String) : Option CharSet :=
  let byProperty :=
    if name == "cf" || name == "sc" || name == "lc" then none
    else (tableNamed? properties name).map .listed
  (byProperty.or (category? name)).or ((tableNamed? scripts name).map .listed)

/-- The set of the characters for which a property has a value. -/
def propertyValue? (property value : String) : Option CharSet :=
  match property with
  | "gc" | "generalcategory" => category? value
  | "sc" | "script" | "scx" | "scriptextensions" => (tableNamed? scripts value).map .listed
  | _ => none

/-- The set that the text between the braces of a property names, and whether it is negated. -/
def propertySet? (text : List Char) : Option (CharSet × Bool) :=
  let valued (sign : String) := Text.cutAt sign.toList text
  match valued "!=", (valued ":").or (valued "=") with
  | some (name, value), _ => (propertyValue? (plainName name) (plainName value)).map (·, true)
  | none, some (name, value) => (propertyValue? (plainName name) (plainName value)).map (·, false)
  | none, none => (property? (plainName text)).map (·, false)

/-- A property, of which the letter is to come. -/
def readProperty : Reading CharSet := do
  let negated := (← peek) == 'P'
  advance
  let text ← do
    if (← peek) == '\x7b' then
      let text ← braced
      bump
      pure text
    else
      let c ← peek
      if c == '\\' then failure
      step
      pure [c]
  let flags ← flags
  if !flags.unicode then failure
  match propertySet? text with
  | some (set, unlike) => flags.negate (negated != unlike) (flags.withCase set)
  | none => failure

/-- A fixed number of digits of base sixteen, of which the first is to come. -/
def readDigits : Nat → Reading (List Char)
  | 0 => return []
  | 1 => do
    let c ← peek
    step
    return [c]
  | count + 2 => do
    let c ← peek
    advance
    return c :: (← readDigits (count + 1))

/-- A character written by its code, of which the letter is to come. -/
def readCode : Reading Escaped := do
  let kind ← peek
  advance
  let (digits, byte) ← do
    if (← peek) == '\x7b' then
      let digits ← braced
      step
      pure (digits, false)
    else
      let width := if kind == 'x' then 2 else if kind == 'u' then 4 else 8
      pure (← readDigits width, kind == 'x')
  if digits.isEmpty then failure
  match (hexNumber? digits).bind charOfCode? with
  | some c => return .char c byte
  | none => failure

/-- The place that a word edge with a name stands for. -/
def namedEdge? (ascii : Bool) : String → Option Look
  | "start" => some (.wordStart ascii)
  | "end" => some (.wordEnd ascii)
  | "start-half" => some (.wordStartHalf ascii)
  | "end-half" => some (.wordEndHalf ascii)
  | _ => none

/-- Letters and hyphens, the blanks of a verbose pattern passed over. -/
def readEdgeName : Nat → Reading (List Char)
  | 0 => failure
  | fuel + 1 => do
    match ← peek? with
    | some c =>
      if c.isAlpha || c == '-' then
        step
        return c :: (← readEdgeName fuel)
      else return []
    | none => return []

/-- A word edge, behind its letter. A name in braces may follow; a count in braces is no name. -/
def readEdge : Reading Look := do
  let ascii := !(← flags).unicode
  if (← peek?) != some '\x7b' then return .wordEdge ascii
  let start ← get
  advance
  let c ← peek
  if !(c.isAlpha || c == '-') then
    set start
    return .wordEdge ascii
  let name ← readEdgeName start.rest.length
  expect "\x7d"
  match namedEdge? ascii (String.ofList name) with
  | some look => return look
  | none => failure

/-- The set of a letter that stands for digits, blanks or word characters. -/
def letterSet (flags : Flags) (letter : Char) : Reading CharSet := do
  let set : CharSet := match letter.toLower, flags.unicode with
    | 'd', true => .listed categoryNd
    | 'd', false => .asciiDigits
    | 's', true => .listed whiteSpace
    | 's', false => .asciiBlanks
    | _, true => .listed wordStrides
    | _, false => .asciiWord
  flags.negate letter.isUpper set

def readEscape : Reading Escaped := do
  bump
  let c ← peek
  if c.isDigit then failure
  if c == 'x' || c == 'u' || c == 'U' then return ← readCode
  if c == 'p' || c == 'P' then return .set (← readProperty)
  bump
  let flags ← flags
  if "dDsSwW".toList.contains c then return .set (← letterSet flags c)
  match c with
  | 'a' => return .char '\x07' false
  | 'f' => return .char '\x0c' false
  | 't' => return .char '\t' false
  | 'n' => return .char '\n' false
  | 'r' => return .char '\r' false
  | 'v' => return .char '\x0b' false
  | 'A' => return .look .textStart
  | 'z' => return .look .textEnd
  | 'b' => return .look (← readEdge)
  | 'B' => return .look (.noWordEdge !flags.unicode)
  | '<' => return .look (.wordStart !flags.unicode)
  | '>' => return .look (.wordEnd !flags.unicode)
  | _ => if c.isAlpha || c.toNat ≥ 128 then failure else return .char c false

end ComponentCatalog.Pattern
