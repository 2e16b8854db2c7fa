import ComponentCatalog.Cli.Arguments
import ComponentCatalog.Host.Basic

/-!
# Running a command

A command works on a host and comes to a status and a text that is printed. Whatever goes wrong is
printed as an object with an error. Arguments that are refused print nothing.
-/

namespace ComponentCatalog.Cli

variable {m : Type → Type} [Monad m]

/-- What a command comes to. -/
structure Output where
  status : Nat
  printed : String
  deriving Repr, DecidableEq

def Output.line (text : String) : Output := ⟨0, text ++ "\n"⟩

def Output.error (message : String) : Output :=
  ⟨1, (Json.object [("error", .string message)]).compact ++ "\n"⟩

/-- The options of a file, or the default ones. -/
def loadOptions (host : Host m) : Option Path → m (Except Options.Fault Options)
  | none => return .ok {}
  | some path => do
    match ← host.files (.readText path) with
    | some (.text (.ok source)) => return Options.ofText source
    | some (.text (.error cause)) => return .error (.unreadable path cause.message)
    | _ => return .error (.unreadable path "no reply")

/-- Makes one call after the other, up to one that fails. -/
def callAll (host : Host m) (config : Options.AnalyzerConfig) :
    Engine → List Engine.Job → m (Except Engine.Fault Engine)
  | engine, [] => return .ok engine
  | engine, job :: rest => do
    let (engine, result?) ← engine.call (host.replier config) job
    let engine ← host.tellNotices engine
    match result? with
    | some (.ok _) => callAll host config engine rest
    | some (.error fault) => return .error fault
    | none => return .error (.unavailable "no reply")

/-- An engine that analyzed the components of directories. -/
def scan (host : Host m) (options : Options) (dirs : List Path) :
    m (Except Engine.Fault Engine) := do
  let dirs := if dirs.isEmpty then options.componentDirs else dirs
  let (descriptors, skipped) ← host.discover dirs
  skipped.forM fun report => host.tell (.skippedDir report)
  host.tell (.discovered dirs.length descriptors.length)
  match ← host.create options (some (Analyzer.key options.analyzer)) with
  | .error fault => return .error fault
  | .ok engine => callAll host options.analyzer engine [.stub, .sync descriptors, .parseAll]

/-- The description that answers a request. -/
def analyze (input : String) : Output :=
  match Doc.decode Analyzer.Request.decoder input with
  | .error fault => .error ("invalid analyze request: " ++ fault.message)
  | .ok request =>
    match Analyzer.builtin request with
    | .ok raw => .line raw.compact
    | .error (.parse reason) => .error reason
    | .error fault => .error fault.message

/-- What a command prints of an engine that analyzed the components. -/
def output (invocation : Invocation) (engine : Engine) : Output :=
  match invocation.kind with
  | .query =>
    match engine.query invocation.name? with
    | .ok text => .line text
    | .error fault => .error fault.message
  | .module => ⟨0, engine.records.moduleText⟩
  | _ => .line engine.records.text

/-- Runs what arguments ask for. The input is read only by a command that works on it. -/
def run (host : Host m) (input : m (Option String)) (arguments : List String) : m Output := do
  match Invocation.ofArguments arguments with
  | .error (.shown text) => return ⟨0, text⟩
  | .error .refused => return ⟨2, ""⟩
  | .ok invocation =>
    match ← loadOptions host invocation.options? with
    | .error fault => return .error (Engine.Fault.options fault).message
    | .ok options =>
      match invocation.kind with
      | .analyze =>
        match ← input with
        | some text => return analyze text
        | none => return ⟨2, ""⟩
      | _ =>
        match ← scan host options invocation.dirs with
        | .ok engine => return output invocation engine
        | .error fault => return .error fault.message

end ComponentCatalog.Cli
