import ComponentCatalog.Catalog.Snapshot
import ComponentCatalog.Json.Print

/-!
# Published records

A snapshot is published as a set of records, one for each component under its name: as JSON, and as
a module that exports the JSON. A query asks for one record by any spelling of the name, or for all.
-/

namespace ComponentCatalog

open Component

/-- A component as it is published. -/
structure Record where
  pascalName : String
  kebabName : String
  filePath : String
  shortPath : String
  isGlobal : Bool
  status : Status
  outcome : Outcome
  deriving Repr, DecidableEq, Inhabited

/-- The path of a component below the root directory, with slashes alone. -/
def shortPath (rootDir path : Path) : String :=
  let text := (Path.below? rootDir path).getD path.text
  String.ofList (text.toList.map fun c => if c == '\\' then '/' else c)

def Record.ofEntry (rootDir : Path) (name : String) (entry : SnapshotEntry) : Record where
  pascalName := name
  kebabName := kebabCase name
  filePath := entry.identity.path.text
  shortPath := ComponentCatalog.shortPath rootDir entry.identity.path
  isGlobal := entry.identity.isGlobal
  status := entry.status
  outcome := entry.outcome

/-- What an analysis came to, as an entry of a record. -/
def Outcome.entry : Outcome → String × Json
  | resolved metadata => ("meta", metadata.toJson)
  | failed failure => ("error", failure.toJson)

def Record.toJson (record : Record) : Json :=
  .object [("pascalName", .string record.pascalName), ("kebabName", .string record.kebabName),
    ("filePath", .string record.filePath), ("shortPath", .string record.shortPath),
    ("global", .bool record.isGlobal), ("status", .string record.status.name),
    record.outcome.entry]

abbrev RecordSet := Table String Record

namespace RecordSet

/-- The records of a snapshot. -/
def ofSnapshot (rootDir : Path) (snapshot : Snapshot) : RecordSet :=
  snapshot.components.map fun (name, entry) => (name, Record.ofEntry rootDir name entry)

def toJson (records : RecordSet) : Json :=
  .object (records.map fun (name, record) => (name, record.toJson))

/-- What a query answers with. -/
inductive Answer where
  | all (records : RecordSet)
  | one (record : Record)
  /-- There is no component of the name. -/
  | notFound (name : String)

/-- Looks up what a query asks for: all records if it is absent or blank. -/
def lookup (records : RecordSet) (query? : Option String) : Answer :=
  match query?.filter fun query => !(Text.trimmed query.toList).isEmpty with
  | none => .all records
  | some query =>
    let name := queriedName query
    match Table.get? records name with
    | some record => .one record
    | none => .notFound name

/-- The sentence that reports that there is no component of a name. -/
def notFoundMessage (name : String) : String := "component \x60" ++ name ++ "\x60 not found"

/-- The text that answers a query, or the name that was not found. -/
def queryText (records : RecordSet) (query? : Option String) : Except String String :=
  match records.lookup query? with
  | .all records => .ok (toJson records).compact
  | .one record => .ok record.toJson.compact
  | .notFound name => .error name

def text (records : RecordSet) : String := (toJson records).indented

/-- The text of a module that exports the set. -/
def moduleText (records : RecordSet) : String := "export default " ++ records.text ++ "\n"

end RecordSet

end ComponentCatalog
