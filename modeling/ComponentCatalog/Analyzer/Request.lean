import ComponentCatalog.Metadata.Basic
import ComponentCatalog.Options.Json

/-!
# Requests to an analyzer

An analyzer is asked for one component at a time. The request says what the analyzer has to know, and
is one JSON text for an analyzer that runs as a program of its own.
-/

namespace ComponentCatalog.Analyzer

/-- What an analyzer is asked. -/
structure Request where
  path : Path
  source : String
  fields : Metadata.Fields
  /-- The types that are not expanded. -/
  ignore : List String := []
  forceUseTs : Bool := false
  strict : Bool := false
  deriving Repr, DecidableEq

namespace Request

def toJson (request : Request) : Json :=
  .object [("path", .string request.path.text), ("source", .string request.source),
    ("fields", request.fields.toJson), ("ignore", .strings request.ignore),
    ("forceUseTs", .bool request.forceUseTs), ("strict", .bool request.strict)]

def decoder : Decoder Request :=
  Doc.record "struct AnalyzeRequest"
    [Doc.field "path" true Options.pathDecoder fun path r => { r with path },
     Doc.field "source" true Doc.asString fun source r => { r with source },
     Doc.field "fields" true Metadata.Fields.decoder fun fields r => { r with fields },
     Doc.field "ignore" false (Doc.list Doc.asString) fun ignore r => { r with ignore },
     Doc.field "forceUseTs" false Doc.asBool fun forceUseTs r => { r with forceUseTs },
     Doc.field "strict" false Doc.asBool fun strict r => { r with strict }]
    ⟨⟨""⟩, "", {}, [], false, false⟩

end Request

/-- Why an analyzer gave no description. -/
inductive Fault where
  /-- There is no analyzer to ask. -/
  | unavailable (reason : String)
  | timeout (micros : Nat)
  | parse (reason : String)
  deriving Repr, DecidableEq

def Fault.message : Fault → String
  | unavailable reason => "analyzer unavailable: " ++ reason
  | timeout micros => "analysis timed out after " ++ toString (micros / 1000) ++ "ms"
  | parse reason => "failed to parse component: " ++ reason

end ComponentCatalog.Analyzer
