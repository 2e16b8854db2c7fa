import ComponentCatalog.Unicode.Printing

/-!
# Quoted texts

A text as a report quotes it: what does not print is written as an escape.
-/

namespace ComponentCatalog.Text

/-- A character between two marks of a kind. -/
def quotedPiece (mark c : Char) : List Char :=
  if c == mark || c == '\\' then ['\\', c]
  else if c == '\t' then ['\\', 't']
  else if c == '\r' then ['\\', 'r']
  else if c == '\n' then ['\\', 'n']
  else if c.toNat == 0 then ['\\', '0']
  else if Unicode.isPrinting c then [c]
  else '\\' :: 'u' :: '{' :: (Nat.toDigits 16 c.toNat ++ ['}'])

def quoted (text : String) : String :=
  String.ofList ('"' :: (text.toList.flatMap (quotedPiece '"') ++ ['"']))

def quotedChar (c : Char) : String :=
  String.ofList ('\'' :: (quotedPiece '\'' c ++ ['\'']))

end ComponentCatalog.Text
