import ComponentCatalog.Text.Scan

/-!
# Names of components

A component is shown under a name of capitalised words. Elements of templates spell it in lower case
with hyphens, files in many ways; all of them lead back to the one name.
-/

namespace ComponentCatalog.Component

open Unicode

/-- Is a name a capital letter with Latin letters and digits behind it? -/
def isDisplayName (name : String) : Bool :=
  match name.toList with
  | c :: rest => c.isUpper && rest.all Char.isAlphanum
  | [] => false

/-- A name in lower case, with a hyphen before each capital letter but the first character. -/
def kebabCase (name : String) : String :=
  let lower (c : Char) : List Char := if c.isUpper then ['-', c.toLower] else [c]
  match name.toList with
  | c :: rest => String.ofList (c.toLower :: rest.flatMap lower)
  | [] => ""

/-- Does a character stand between the words of a name? -/
def separatesWords (c : Char) : Bool := c == '-' || c == '_' || c == '.' || isSpace c

def capitalised : List Char → List Char
  | c :: rest => c.toUpper :: rest
  | [] => []

/-- The words of a name, each with a capital letter in front, run together. -/
def pascalCase (name : String) : String :=
  String.ofList ((Text.splitWhere separatesWords name.toList).flatMap capitalised)

/-- The name that a query asks for: it may have slashes in front and an extension behind. -/
def queriedName (query : String) : String :=
  let text := (Text.trimmed query.toList).dropWhile (· == '/')
  let ending := ".json".toList
  let text := if ending.isSuffixOf text then text.take (text.length - ending.length) else text
  pascalCase (String.ofList text)

end ComponentCatalog.Component
