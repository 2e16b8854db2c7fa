import ComponentCatalog.Component.Identity
import ComponentCatalog.Options.Basic
import ComponentCatalog.Pattern.Replacement
import ComponentCatalog.Transform.ContentSlot

/-!
# Changing sources before they are analyzed

Steps run in the order in which they are given, each on what the step before it made. A step sees
which component it works on. Steps of the host may fail; the others do not.
-/

namespace ComponentCatalog

namespace Transform

open Component Options

/-- A step of the host: it makes a new text or says why not. -/
abbrev HostStep := Identity → String → Except String String

/-- What a step does. -/
inductive Action where
  | contentSlot
  /-- Puts a replacement in the place of what a pattern matches. -/
  | replace (pattern : String) (program : Pattern.Program) (replacement : String)
  | host (run : HostStep)

structure Step where
  name : String
  action : Action

/-- Why a step failed. -/
structure Fault where
  step : String
  reason : String
  deriving Repr, DecidableEq

def Fault.message (fault : Fault) : String :=
  "transform \x60" ++ fault.step ++ "\x60 failed: " ++ fault.reason

def Step.ofConfig : StepConfig → Except Options.Fault Step
  | .contentSlot => .ok ⟨"contentSlot", .contentSlot⟩
  | .replace name? pattern replacement =>
    match Pattern.parse? pattern with
    | some parsed => .ok ⟨name?.getD "replace", .replace pattern parsed.program replacement⟩
    | none => .error (.pattern pattern)

/-- What a step makes of a text. -/
def Step.run (step : Step) (identity : Identity) (text : String) : Except Fault String :=
  match step.action with
  | .contentSlot => .ok (String.ofList (contentSlots text.toList))
  | .replace _ program replacement => .ok (program.replaceAll replacement text)
  | .host run => (run identity text).mapError (⟨step.name, ·⟩)

/-- What tells a step apart from others; nothing for a step of the host. -/
def Step.key? (step : Step) : Option String :=
  match step.action with
  | .contentSlot => some "contentSlot;"
  | .replace pattern _ replacement => some ("replace:" ++ pattern ++ "=>" ++ replacement ++ ";")
  | .host _ => none

end Transform

/-- Steps in the order in which they run. -/
abbrev Pipeline := List Transform.Step

namespace Pipeline

open Component Options Transform

def ofConfig (configs : List StepConfig) : Except Options.Fault Pipeline :=
  configs.mapM Step.ofConfig

/-- The text that tells pipelines apart. There is none if the host takes part. -/
def cacheKey? (pipeline : Pipeline) : Option String :=
  (pipeline.mapM Step.key?).map String.join

/-- What the steps make of a source. -/
def apply (pipeline : Pipeline) (identity : Identity) (source : String) :
    Except Transform.Fault String :=
  pipeline.foldlM (fun text step => step.run identity text) source

end Pipeline

end ComponentCatalog
