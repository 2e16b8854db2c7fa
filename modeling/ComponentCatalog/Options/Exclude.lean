import ComponentCatalog.Pattern.Search
import ComponentCatalog.Path
import ComponentCatalog.Text.Scan

/-!
# Leaving components out

A component is left out if its path contains a text or matches a pattern. A pattern stands between
slashes. Backslashes of a path count as slashes.
-/

namespace ComponentCatalog

/-- What a path of a component that is left out contains or matches. -/
inductive Exclude where
  | substring (text : String)
  | pattern (program : Pattern.Program)

namespace Exclude

/-- Reads an entry of the options. There is none if the pattern is malformed. -/
def ofText? (text : String) : Option Exclude :=
  match text.toList with
  | '/' :: c :: rest =>
    -- There is something between the slashes: two of them alone are a text.
    if rest.getLast? == some '/' then
      (Pattern.parse? (String.ofList (c :: rest.dropLast))).map fun parsed =>
        .pattern parsed.program
    else some (.substring text)
  | _ => some (.substring text)

def slashes (path : Path) : List Char := path.text.toList.map fun c => if c == '\\' then '/' else c

/-- Is a component with a path left out? -/
def holds (exclude : Exclude) (path : Path) : Bool :=
  match exclude with
  | substring text => Text.occursIn text.toList (slashes path)
  | pattern program => program.matches (String.ofList (slashes path))

end Exclude

end ComponentCatalog
