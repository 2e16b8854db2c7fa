import ComponentCatalog.Catalog.Record
import ComponentCatalog.Files.Tree
import ComponentCatalog.Options.Basic

/-!
# Why an engine does not answer

Failures of single components are part of what an engine publishes. What is left is reported here.
-/

namespace ComponentCatalog.Engine

/-- Why an engine does not give what it was asked for. -/
inductive Fault where
  /-- There is no analyzer to ask. -/
  | unavailable (reason : String)
  | component (name : String) (failure : Failure)
  /-- No component of the name was discovered. -/
  | unknown (name : String)
  /-- No component of the name was published. -/
  | notFound (name : String)
  | options (fault : Options.Fault)
  | io (path : Path) (cause : Files.Fault)
  deriving Repr, DecidableEq

def Fault.message : Fault → String
  | unavailable reason => "analyzer unavailable: " ++ reason
  | component name failure =>
    "component \x60" ++ name ++ "\x60 failed (" ++ failure.kind.name ++ "): " ++ failure.reason
  | unknown name => "unknown component \x60" ++ name ++ "\x60"
  | notFound name => RecordSet.notFoundMessage name
  | options fault => "invalid options: " ++ fault.message
  | io path cause => "i/o error at " ++ path.text ++ ": " ++ cause.message

end ComponentCatalog.Engine
