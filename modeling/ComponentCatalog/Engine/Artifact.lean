import ComponentCatalog.Catalog.Record
import ComponentCatalog.Engine.Fault
import ComponentCatalog.Host.Exchange

/-!
# Published files

What is published is written as a module and as JSON. A file that holds the same already is left as
it is; else its directory is made and the file is written.
-/

namespace ComponentCatalog.Engine

def moduleFile : String := "component-meta.mjs"

def jsonFile : String := "component-meta.json"

/-- How far the writing of a file is. -/
inductive Artifact.Stage where
  | reading
  | makingDirs (dir : Path)
  | writing
  deriving Repr, DecidableEq

/-- A file that is being written. -/
structure Artifact where
  file : Path
  text : String
  stage : Artifact.Stage := .reading
  deriving Repr, DecidableEq

namespace Artifact

/-- The files of a set of records in a directory. -/
def ofRecords (dir : Path) (records : RecordSet) : List Artifact :=
  [{ file := dir.join moduleFile, text := records.moduleText },
    { file := dir.join jsonFile, text := records.text }]

/-- The module of no records, which stands in until there are some. -/
def stub (dir : Path) : Artifact :=
  { file := dir.join moduleFile, text := RecordSet.moduleText [] }

def need (artifact : Artifact) : Need :=
  match artifact.stage with
  | .reading => .readBytes artifact.file
  | .makingDirs dir => .makeDirs dir
  | .writing => .write artifact.file artifact.text

/-- Where the writing of a file is after a step. -/
inductive Progress where
  | going (artifact : Artifact)
  | written
  | failed (fault : Fault)

/-- What has to be done for a file that holds something else. -/
def replace (artifact : Artifact) : Artifact :=
  match artifact.file.parent? with
  | some dir => { artifact with stage := .makingDirs dir }
  | none => { artifact with stage := .writing }

/-- One step, with the reply to what it needed. -/
def step (artifact : Artifact) (reply : Reply) : Progress :=
  match artifact.stage, reply with
  | .reading, .bytes (.ok bytes) =>
    if bytes == artifact.text.toUTF8 then .written else .going artifact.replace
  -- Why there is nothing to compare with does not matter: the writing will tell.
  | .reading, .bytes (.error _) => .going artifact.replace
  | .makingDirs _, .done (.ok ()) => .going { artifact with stage := .writing }
  | .writing, .done (.ok ()) => .written
  | _, .done (.error cause) => .failed (.io artifact.file cause)
  | _, _ => .going artifact

end Artifact

end ComponentCatalog.Engine
