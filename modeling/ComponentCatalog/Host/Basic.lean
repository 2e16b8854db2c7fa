import ComponentCatalog.Analyzer.Builtin
import ComponentCatalog.Analyzer.Command
import ComponentCatalog.Engine.Settle

/-!
# The host

A host lets an engine have what is outside: files, programs and someone to tell notices to. It works
in any monad, so that one and the same program can run on real files and on a tree of files.
-/

namespace ComponentCatalog

open Component

/-- Who lets an engine have what is outside. -/
structure Host (m : Type → Type) where
  /-- Replies to needs for files. -/
  files : Need → m (Option Reply)
  /-- Finds the components below directories. -/
  discover : List Path → m (List Descriptor × List SkippedDir)
  /-- Runs a program with arguments on a text. -/
  execute : String → List String → String → m Analyzer.Command.Run
  /-- The number of seconds on the clock. -/
  now : m Nat
  tell : Notice → m Unit

namespace Host

variable {m : Type → Type} [Monad m]

/-- What the analyzer that the options ask for answers. -/
def describe (host : Host m) (config : Options.AnalyzerConfig) (request : Analyzer.Request) :
    m Analyzer.Answer :=
  match config with
  | .builtin => pure <| match Analyzer.builtin request with
    | .ok raw => .described raw
    | .error fault => .failed fault
  | .command program args => do
    return Analyzer.Command.answer program (← host.execute program args request.toJson.compact)

/-- Replies to all needs of an engine. -/
def replier (host : Host m) (config : Options.AnalyzerConfig) : Engine.Replier m
  | .describe _ request => do
    let answer ← host.describe config request
    return some (.answered answer (← host.now))
  | need => host.files need

/-- Makes the directory of a store, if there is to be one. -/
def makeStore (host : Host m) (plan : Engine.StorePlan) : m (Except Files.Fault Unit) := do
  match plan.dir? with
  | none => return .ok ()
  | some dir =>
    match ← host.files (.makeDirs dir) with
    | some (.done made) => return made
    | _ => return .error (.other "no reply")

/-- Makes an engine with given steps; `key?` tells its analyzer from others. -/
def createWith (host : Host m) (options : Options) (key? : Option String) (pipeline : Pipeline) :
    m (Except Engine.Fault Engine) := do
  match options.validate, options.excludes with
  | .ok (), .ok exclude =>
    let plan := Engine.storePlan options key? pipeline
    return .ok (.create options exclude pipeline plan (← host.makeStore plan))
  | .error fault, _ | _, .error fault => return .error (.options fault)

/-- Makes an engine with the steps of the options. -/
def create (host : Host m) (options : Options) (key? : Option String) :
    m (Except Engine.Fault Engine) :=
  match Pipeline.ofConfig options.transformers with
  | .ok pipeline => host.createWith options key? pipeline
  | .error fault => pure (.error (.options fault))

/-- Tells what an engine has to tell. -/
def tellNotices (host : Host m) (engine : Engine) : m Engine := do
  let (engine, notices) := engine.takeNotices
  notices.forM host.tell
  return engine

end Host

end ComponentCatalog
