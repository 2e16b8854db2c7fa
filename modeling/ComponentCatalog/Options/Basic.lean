import ComponentCatalog.Json.Fault
import ComponentCatalog.Metadata.Basic
import ComponentCatalog.Path

/-!
# Options of an engine

Every option has a default, so that no option at all is a valid choice. Options may be malformed, hold a pattern
that is none, or allow no time.
-/

namespace ComponentCatalog

namespace Options

/-- Why options are not taken. -/
inductive Fault where
  | unreadable (path : Path) (reason : String)
  | malformed (fault : JsonFault)
  | pattern (text : String)
  | nonPositive (option : String)
  deriving Repr, DecidableEq

def Fault.message : Fault → String
  | unreadable path reason => "cannot read options file " ++ path.text ++ ": " ++ reason
  | malformed fault => "malformed options: " ++ fault.message
  | pattern text => "invalid pattern \x60" ++ text ++ "\x60"
  | nonPositive option => "\x60" ++ option ++ "\x60 must be greater than zero"

/-- A step that changes sources before they are analyzed, as options write it. -/
inductive StepConfig where
  /-- Content slots become native slots. -/
  | contentSlot
  | replace (name? : Option String) (pattern replacement : String)
  deriving Repr, DecidableEq

/-- Which analyzer describes components. -/
inductive AnalyzerConfig where
  | builtin
  /-- A program that reads requests and prints descriptions. -/
  | command (program : String) (args : List String)
  deriving Repr, DecidableEq

/-- The types that are not expanded unless options say otherwise. -/
def defaultIgnore : List String :=
  ["NuxtComponentMetaNames", "RouteLocationRaw", "RouteLocationPathRaw", "RouteLocationNamedRaw",
    "ComputedStyleProp", "VariantProp"]

/-- The components that are left out unless options say otherwise. -/
def defaultExclude : List String :=
  ["nuxt/dist/app/components/client-only", "nuxt/dist/app/components/dev-only"]

/-- How components are analyzed. -/
structure Checker where
  /-- Reads every script as one with types. -/
  forceUseTs : Bool := true
  strict : Bool := false
  /-- The types that are not expanded. -/
  ignore : List String := defaultIgnore
  deriving Repr, DecidableEq

end Options

open Options in
/-- The options of an engine. -/
structure Options where
  /-- What the short paths of published records start from. -/
  rootDir : Path := ⟨"."⟩
  /-- Where artifacts are written. -/
  outputDir? : Option Path := none
  /-- Where metadata are stored. -/
  cacheDir? : Option Path := none
  /-- Where components are looked for. -/
  componentDirs : List Path := []
  silent : Bool := true
  exclude : List String := defaultExclude
  metaFields : Metadata.Fields := {}
  transformers : List StepConfig := [.contentSlot]
  checkerOptions : Checker := {}
  globalsOnly : Bool := false
  /-- How long an analysis may take, in thousandths of a second. -/
  analyzerTimeoutMs : Nat := 30000
  analyzer : AnalyzerConfig := .builtin
  deriving Repr, DecidableEq

end ComponentCatalog
