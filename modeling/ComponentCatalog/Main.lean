import ComponentCatalog.Cli.Run
import Std.Time.DateTime.Timestamp

/-!
# The program

The program runs a command on the files of the system. What is told goes to the error stream; news is
told only if it was asked for. Analyzers that are programs of their own are not run from here.
-/

namespace ComponentCatalog.Program

open Component

/-- The fault that an error of the system stands for. -/
def faultOf : IO.Error → Files.Fault
  | .noFileOrDirectory .. => .missing
  | .permissionDenied .. => .notPermitted
  | .alreadyExists .. => .present
  | .inappropriateType _ code _ => if code == 21 then .isDirectory else .notDirectory
  | .resourceExhausted .. => .other "Too many open files (os error 24)"
  | error => .other (toString error)

/-- Does something, and says why it cannot be done. -/
def attempt {α : Type} (action : IO α) : IO (Except Files.Fault α) := do
  try
    return .ok (← action)
  catch error =>
    return .error (faultOf error)

/-- Does something that changes files. -/
def change (action : IO Unit) : IO (Option Reply) := return some (.done (← attempt action))

/-- Replies to needs for files. -/
def files : Need → IO (Option Reply)
  | .nothing => return some .nothing
  | .readText path => do
    let bytes ← attempt (IO.FS.readBinFile path.text)
    return some (.text (bytes >>= Files.textOf))
  | .readBytes path => return some (.bytes (← attempt (IO.FS.readBinFile path.text)))
  | .look path => return some (.there ((← attempt (IO.FS.realPath path.text)) matches .ok _))
  | .makeDirs path => change (if path.text.isEmpty then pure () else IO.FS.createDirAll path.text)
  | .write path text => change (IO.FS.writeFile path.text text)
  | .remove path => change (IO.FS.removeFile path.text)
  | .describe .. => return none

/-- The names below a directory as a tree, without what the files hold. -/
partial def load (path : String) : IO (List (String × Files.Node)) := do
  let mut entries := #[]
  let dir ← IO.FS.realPath path
  for entry in ← dir.readDir do
    unless skippedNames.contains entry.fileName do
      let below := path ++ "/" ++ entry.fileName
      match (← entry.path.symlinkMetadata).type with
      | .dir => entries := entries.push (entry.fileName, .dir (← load below))
      | .symlink =>
        if let .ok found ← attempt entry.path.metadata then
          if found.type matches .file then
            entries := entries.push (entry.fileName, .file ByteArray.empty)
      | _ => entries := entries.push (entry.fileName, .file ByteArray.empty)
  return entries.toList

/-- What a directory, or a file in its place, holds. -/
def loadRoot (path : String) : IO Files.Node := do
  match ← attempt (load path) with
  | .ok entries => return .dir entries
  | .error _ => return .file ByteArray.empty

/-- Finds the components below directories. -/
def discover (dirs : List Path) : IO (List Descriptor × List SkippedDir) := do
  let mut tree : Files := {}
  let mut roots := #[]
  let mut skipped := #[]
  for dir in dirs do
    match ← attempt (IO.FS.realPath dir.text) with
    | .ok real =>
      let root : Path := ⟨real.toString⟩
      let names := root.parts.filterMap fun
        | .name text => some text
        | _ => none
      let node ← loadRoot root.text
      tree := { tree with root := tree.root.put names node }
      roots := roots.push root
    | .error fault => skipped := skipped.push ⟨dir, fault⟩
  return ((Component.discover tree roots.toList).1, skipped.toList)

def noticeLine (notice : Notice) : String :=
  let fields := notice.fields.map fun (name, value) => " " ++ name ++ "=" ++ value.compact
  (if notice.isWarning then " WARN " else " INFO ") ++ notice.message ++ String.join fields

def host (verbose : Bool) : Host IO where
  files := files
  discover := discover
  execute _ _ _ := return .notStarted (.other "programs are not run")
  now := return (← Std.Time.Timestamp.now).toSecondsSinceUnixEpoch.val.toNat
  tell notice := if verbose || notice.isWarning then IO.eprintln (noticeLine notice) else pure ()

/-- All that a stream holds. -/
partial def readAll (stream : IO.FS.Stream) (read : ByteArray) : IO ByteArray := do
  let more ← stream.read 65536
  if more.isEmpty then return read else readAll stream (read ++ more)

/-- The text of the input, if it is one. -/
def input : IO (Option String) := do
  let bytes ← readAll (← IO.getStdin) ByteArray.empty
  match Files.textOf bytes with
  | .ok text => return some text
  | .error _ =>
    IO.eprintln (Cli.program ++ ": failed to read from STDIN")
    return none

end ComponentCatalog.Program

open ComponentCatalog in
/-- Runs the command that the arguments name. -/
def main (arguments : List String) : IO UInt32 := do
  let verbose := match Cli.Invocation.ofArguments arguments with
    | .ok invocation => invocation.verbose
    | .error _ => false
  let output ← Cli.run (Program.host verbose) Program.input arguments
  IO.print output.printed
  if Cli.Invocation.ofArguments arguments matches .error .refused then IO.eprint Cli.help
  return output.status.toUInt32
