import ComponentCatalog.Component.Discovery
import ComponentCatalog.Component.Registry
import ComponentCatalog.Store.Basic
import ComponentCatalog.Transform.Pipeline
import ComponentCatalog.Analyzer.Request

/-!
# Notices

What happens on the way is told to whoever drives the work: as a warning if something was lost, else
for information.
-/

namespace ComponentCatalog

/-- Something that is told on the way. -/
inductive Notice where
  | dropped (report : Component.Dropped)
  | skippedDir (report : Component.SkippedDir)
  | unreadable (component : String) (path : Path) (fault : Files.Fault)
  | transformFailed (component : String) (fault : Transform.Fault)
  | timedOut (component : String) (fault : Analyzer.Fault)
  | notParsed (component : String) (reason : String)
  | panicked (component : String) (reason : String)
  | notStored (component : String) (fault : Store.Fault)
  /-- The directory of the store cannot be used. -/
  | noStore (fault : Store.Fault)
  /-- What the analyzer or a step makes cannot be told from what another one makes. -/
  | noCacheKey
  | discovered (dirs components : Nat)
  | parsed (components analyzed failed : Nat)
  deriving Repr, DecidableEq

namespace Notice

/-- Is something lost? -/
def isWarning : Notice → Bool
  | discovered .. | parsed .. => false
  | _ => true

def message : Notice → String
  | dropped _ => "dropping discovered component"
  | skippedDir _ => "skipping component directory"
  | unreadable .. => "cannot read component source"
  | transformFailed .. => "transform failed"
  | timedOut .. | notParsed .. => "analysis failed"
  | panicked .. => "analyzer panicked"
  | notStored .. => "cannot persist metadata"
  | noStore _ => "persistent store disabled"
  | noCacheKey => "persistent store disabled: analyzer or transform step has no cache key"
  | discovered .. => "discovered components"
  | parsed .. => "parsed components"

/-- The particulars of what is told. -/
def fields : Notice → List (String × Json)
  | dropped report =>
    [("error", .string report.fault.message)] ++
      (report.path?.map fun path => ("path", Json.string path.text)).toList
  | skippedDir report =>
    [("dir", .string report.dir.text), ("error", .string report.fault.message)]
  | unreadable component path fault =>
    [("component", .string component), ("path", .string path.text),
      ("error", .string fault.message)]
  | transformFailed component fault =>
    [("component", .string component), ("error", .string fault.message)]
  | timedOut component fault =>
    [("component", .string component), ("error", .string fault.message)]
  | notParsed component reason | panicked component reason =>
    [("component", .string component), ("reason", .string reason)]
  | notStored component fault =>
    [("component", .string component), ("error", .string fault.message)]
  | noStore fault => [("error", .string fault.message)]
  | noCacheKey => []
  | discovered dirs components => [("dirs", .int dirs), ("components", .int components)]
  | parsed components analyzed failed =>
    [("components", .int components), ("analyzed", .int analyzed), ("failed", .int failed)]

end Notice

end ComponentCatalog
