import ComponentCatalog.Analyzer.Request
import ComponentCatalog.Files.Tree

/-!
# What work wants from outside

Work that cannot go on by itself says what it needs: a file, or a description by the analyzer. Whoever
drives it answers, at once or later, and the work goes on with the reply.
-/

namespace ComponentCatalog

/-- What a step of the work needs from outside. -/
inductive Need where
  /-- The step can be taken at once. -/
  | nothing
  | readText (path : Path)
  | readBytes (path : Path)
  /-- Whether a path leads to something. -/
  | look (path : Path)
  /-- A directory with all directories on the way. -/
  | makeDirs (path : Path)
  | write (path : Path) (text : String)
  | remove (path : Path)
  /-- The answer of the analyzer to the request of a task. -/
  | describe (task : Nat) (request : Analyzer.Request)
  deriving Repr, DecidableEq

/-- What an analyzer answered. -/
inductive Analyzer.Answer where
  | described (raw : Json)
  | failed (fault : Analyzer.Fault)
  /-- It did not answer in time. -/
  | late
  | panicked (reason : String)

/-- What work goes on with. -/
inductive Reply where
  | nothing
  | text (result : Except Files.Fault String)
  | bytes (result : Except Files.Fault ByteArray)
  | there (yes : Bool)
  | done (result : Except Files.Fault Unit)
  /-- The answer of the analyzer, and the second in which it came. -/
  | answered (answer : Analyzer.Answer) (time : Nat)

namespace Files

/-- Keeps what was changed, and tells whether it was. -/
def outcome (files : Files) : Except Fault Files → Reply × Files
  | .ok changed => (.done (.ok ()), changed)
  | .error fault => (.done (.error fault), files)

/-- What files reply to a need, and the files afterwards. A description is none of their business. -/
def answer? (files : Files) : Need → Option (Reply × Files)
  | .nothing => some (.nothing, files)
  | .readText path => some (.text (files.readText path), files)
  | .readBytes path => some (.bytes (files.read path), files)
  | .look path => some (.there (files.has path), files)
  | .makeDirs path =>
    let (changed, made) := files.makeDirs path
    some (.done made, changed)
  | .write path text => some (files.outcome (files.write path text.toUTF8))
  | .remove path => some (files.outcome (files.removeFile path))
  | .describe .. => none

end Files

end ComponentCatalog
