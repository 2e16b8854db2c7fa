import ComponentCatalog.Json.Value

/-!
# Writing JSON

The compact text of a value has no blanks at all; the indented text puts each item on a line of its
own. Whole numbers are written with all their digits, other numbers with the fewest digits that read
back, and always so that they do not look whole.
-/

namespace ComponentCatalog.Json

def hexDigit (n : Nat) : Char := (Nat.toDigits 16 (n % 16)).headD '0'

/-- A character in a string: quotes, backslashes and control characters are escaped. -/
def escapeChar (c : Char) : List Char :=
  if c == '"' then ['\\', '"']
  else if c == '\\' then ['\\', '\\']
  else if c == '\n' then ['\\', 'n']
  else if c == '\r' then ['\\', 'r']
  else if c == '\t' then ['\\', 't']
  else if c.toNat == 8 then ['\\', 'b']
  else if c.toNat == 12 then ['\\', 'f']
  else if c.toNat < 32 then ['\\', 'u', '0', '0', hexDigit (c.toNat / 16), hexDigit c.toNat]
  else [c]

def quoteText (text : String) : List Char :=
  '"' :: (text.toList.flatMap escapeChar ++ ['"'])

/-- A number with a fraction: positional between a hundred-thousandth and ten quadrillions, with an
exponent otherwise. -/
def realText (x : Binary64) : List Char :=
  let sign := if x.negative then ['-'] else []
  let (digits, place) := x.decimal
  let point : Int := digits.length + place
  let exponent : List Char := (toString (point - 1)).toList
  let body :=
    if x.mantissa == 0 then ['0', '.', '0']
    else if 0 ≤ place && point ≤ 16 then
      digits ++ List.replicate place.toNat '0' ++ ['.', '0']
    else if 0 < point && point ≤ 16 then
      digits.take point.toNat ++ '.' :: digits.drop point.toNat
    else if -5 < point && point ≤ 0 then
      '0' :: '.' :: (List.replicate (-point).toNat '0' ++ digits)
    else match digits with
      | [d] => d :: 'e' :: exponent
      | d :: rest => d :: '.' :: (rest ++ 'e' :: exponent)
      | [] => []
  sign ++ body

def numberText : JsonNumber → List Char
  | .whole n => (toString n).toList
  | .real x => realText x

mutual

/-- The text of a value without blanks. -/
def compactText : Json → List Char
  | .null => "null".toList
  | .bool true => "true".toList
  | .bool false => "false".toList
  | .number n => numberText n
  | .string text => quoteText text
  | .array items => '[' :: (compactItems items ++ [']'])
  | .object entries => '{' :: (compactEntries entries ++ ['}'])

def compactItems : List Json → List Char
  | [] => []
  | [item] => compactText item
  | item :: rest => compactText item ++ ',' :: compactItems rest

def compactEntries : List (String × Json) → List Char
  | [] => []
  | [(key, value)] => quoteText key ++ ':' :: compactText value
  | (key, value) :: rest =>
    quoteText key ++ ':' :: (compactText value ++ ',' :: compactEntries rest)

end

def compact (value : Json) : String := String.ofList (compactText value)

/-- A line end and the blanks before an item at a depth. -/
def newLine (depth : Nat) : List Char := '\n' :: List.replicate (2 * depth) ' '

mutual

/-- The text of a value with each item on a line of its own, from a depth on. -/
def indentedText (depth : Nat) : Json → List Char
  | .array [] => ['[', ']']
  | .object [] => ['{', '}']
  | .array items => '[' :: (indentedItems (depth + 1) items ++ newLine depth ++ [']'])
  | .object entries => '{' :: (indentedEntries (depth + 1) entries ++ newLine depth ++ ['}'])
  | other => compactText other

def indentedItems (depth : Nat) : List Json → List Char
  | [] => []
  | [item] => newLine depth ++ indentedText depth item
  | item :: rest =>
    newLine depth ++ indentedText depth item ++ ',' :: indentedItems depth rest

def indentedEntries (depth : Nat) : List (String × Json) → List Char
  | [] => []
  | [(key, value)] => newLine depth ++ quoteText key ++ ':' :: ' ' :: indentedText depth value
  | (key, value) :: rest =>
    newLine depth ++ quoteText key ++ ':' :: ' ' :: (indentedText depth value ++
      ',' :: indentedEntries depth rest)

end

def indented (value : Json) : String := String.ofList (indentedText 0 value)

end ComponentCatalog.Json
