import ComponentCatalog.Json.Decode

/-!
# Failures of components

A component that cannot be analyzed is recorded with the kind of its failure and a reason.
-/

namespace ComponentCatalog

inductive FailureKind where
  | source
  | transform
  | timeout
  | parse
  | panic
  deriving Repr, DecidableEq, Inhabited

def FailureKind.name : FailureKind → String
  | source => "source"
  | transform => "transform"
  | timeout => "timeout"
  | parse => "parse"
  | panic => "panic"

/-- A failure that is recorded in the place of metadata. -/
structure Failure where
  kind : FailureKind
  reason : String
  deriving Repr, DecidableEq, Inhabited

namespace Failure

def toJson (failure : Failure) : Json :=
  .object [("kind", .string failure.kind.name), ("reason", .string failure.reason)]

end Failure

/-- How a component stands. -/
inductive Status where
  | unknown
  | pending
  | resolved
  | error
  | stale
  deriving Repr, DecidableEq, Inhabited

def Status.name : Status → String
  | unknown => "unknown"
  | pending => "pending"
  | resolved => "resolved"
  | error => "error"
  | stale => "stale"

end ComponentCatalog
