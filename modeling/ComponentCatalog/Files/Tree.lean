import ComponentCatalog.Path
import ComponentCatalog.Table

/-!
# Trees of files

A tree holds files, links and directories. A path leads through it part by part; a link on the way
stands for the path that it holds, and at most forty of them are followed. Every operation on files either
succeeds or says why not, in one sentence with a number.
-/

namespace ComponentCatalog

namespace Files

/-- Why a file or a directory cannot be used. -/
inductive Fault where
  | missing
  | notPermitted
  | present
  /-- Something below a file was asked for. -/
  | notDirectory
  | isDirectory
  | nameTooLong
  /-- Links lead on and on. -/
  | linkLoop
  | notText
  /-- A name has a character that no name may have. -/
  | nulInName
  | other (reason : String)
  deriving Repr, DecidableEq, Inhabited

def Fault.message : Fault → String
  | missing => "No such file or directory (os error 2)"
  | notPermitted => "Permission denied (os error 13)"
  | present => "File exists (os error 17)"
  | notDirectory => "Not a directory (os error 20)"
  | isDirectory => "Is a directory (os error 21)"
  | nameTooLong => "File name too long (os error 36)"
  | linkLoop => "Too many levels of symbolic links (os error 40)"
  | notText => "stream did not contain valid UTF-8"
  | nulInName => "file name contained an unexpected NUL byte"
  | other reason => reason

/-- A file, a link or a directory. -/
inductive Node where
  | file (bytes : ByteArray)
  | link (target : String)
  | dir (entries : List (String × Node))
  deriving Inhabited

namespace Node

def isDir : Node → Bool
  | dir _ => true
  | _ => false

def entries : Node → List (String × Node)
  | dir entries => entries
  | _ => []

/-- What names lead to. -/
def get? (node : Node) : List String → Option Node
  | [] => some node
  | name :: names => (Table.get? node.entries name).bind (get? · names)

/-- Changes what names lead to; directories on the way are made where there is nothing. -/
def update (change : Node → Node) (node : Node) : List String → Node
  | [] => change node
  | name :: names =>
    let below := (Table.get? node.entries name).getD (dir [])
    dir (Table.set node.entries name (below.update change names))

/-- Puts a node where names lead. -/
def put (node : Node) (names : List String) (new : Node) : Node := node.update (fun _ => new) names

/-- Takes an entry out of the directory that names lead to. -/
def remove (node : Node) (names : List String) (name : String) : Node :=
  node.update (fun found => dir (Table.erase found.entries name)) names

end Node

/-- Where a path leads: to something, or to a name that its directory does not have. -/
inductive Place where
  | found (names : List String) (node : Node)
  | free (dir : List String) (name : String)

/-- The greatest number of links that are followed on one path. -/
def linkLimit : Nat := 40

/-- The greatest length of a name in bytes. -/
def nameLimit : Nat := 255

/-- The greatest length of a path in bytes. -/
def pathLimit : Nat := 4095

/-- The parts of a path on its way through a tree: one that ends in a slash leads to a directory. -/
def steps (text : String) : List PathPart :=
  let last : List PathPart := match text.toList.reverse with
    | '/' :: _ | '.' :: '/' :: _ => [.here]
    | _ => []
  (Path.mk text).parts ++ last

/-- Follows parts through a tree from the directory that names lead to. A link that is the last part
is followed only if `through` says so. -/
def follow (root : Node) (through : Bool) :
    (links : Nat) → (base : List String) → (parts : List PathPart) → Except Fault Place
  | _, base, [] =>
    match root.get? base with
    | some node => .ok (.found base node)
    | none => .error .missing
  | links, _, .root :: rest => follow root through links [] rest
  | links, base, .here :: rest =>
    if ((root.get? base).map Node.isDir).getD false then follow root through links base rest
    else .error .notDirectory
  | links, base, .up :: rest =>
    if ((root.get? base).map Node.isDir).getD false then
      -- Names are those of directories here, never of links, so the last one leads up.
      follow root through links base.dropLast rest
    else .error .notDirectory
  | links, base, .name name :: rest =>
    match root.get? base with
    | some (.dir entries) =>
      if nameLimit < name.utf8ByteSize then .error .nameTooLong
      else match Table.get? entries name with
        | none => if rest.isEmpty then .ok (.free base name) else .error .missing
        | some (.link target) =>
          if rest.isEmpty && !through then .ok (.found (base ++ [name]) (.link target))
          else match links with
            | 0 => .error .linkLoop
            | links + 1 =>
              if target.isEmpty then .error .missing
              -- A link leads on from the directory that holds it.
              else follow root through links base (steps target ++ rest)
        | some _ => follow root through links (base ++ [name]) rest
    | some _ => .error .notDirectory
    | none => .error .missing
termination_by links _ parts => (links, parts.length)

end Files

/-- The files that there are, and the directory where relative paths start. -/
structure Files where
  root : Files.Node := .dir []
  here : List String := []
  deriving Inhabited

namespace Files

/-- Where a path leads. -/
def place (files : Files) (through : Bool) (path : Path) : Except Fault Place :=
  if path.text.isEmpty then .error .missing
  else if pathLimit < path.text.utf8ByteSize then .error .nameTooLong
  else if path.text.toList.contains '\x00' then .error .nulInName
  else follow files.root through linkLimit files.here (steps path.text)

/-- What a path leads to, through links. -/
def find? (files : Files) (path : Path) : Option (List String × Node) :=
  match files.place true path with
  | .ok (.found names node) => some (names, node)
  | _ => none

def has (files : Files) (path : Path) : Bool := (files.find? path).isSome

def hasDir (files : Files) (path : Path) : Bool :=
  match files.find? path with
  | some (_, node) => node.isDir
  | none => false

/-- The path of names from the root. -/
def pathOf (names : List String) : Path :=
  ⟨if names.isEmpty then "/" else String.join (names.map ("/" ++ ·))⟩

/-! ## Reading -/

def read (files : Files) (path : Path) : Except Fault ByteArray := do
  match ← files.place true path with
  | .found _ (.file bytes) => return bytes
  | .found _ _ => throw .isDirectory
  | .free .. => throw .missing

def textOf (bytes : ByteArray) : Except Fault String :=
  match String.fromUTF8? bytes with
  | some text => .ok text
  | none => .error .notText

def readText (files : Files) (path : Path) : Except Fault String := files.read path >>= textOf

def list (files : Files) (path : Path) : Except Fault (List String) := do
  match ← files.place true path with
  | .found _ (.dir entries) => return entries.map Prod.fst
  | .found _ _ => throw .notDirectory
  | .free .. => throw .missing

/-- What a path leads to, with its path from the root without links. -/
def canonical (files : Files) (path : Path) : Except Fault (Path × Node) := do
  match ← files.place true path with
  | .found names node => return (pathOf names, node)
  | .free .. => throw .missing

/-! ## Writing -/

/-- Writes a file, in the place of what it held. -/
def write (files : Files) (path : Path) (bytes : ByteArray) : Except Fault Files := do
  match ← files.place true path with
  | .found names (.file _) => return { files with root := files.root.put names (.file bytes) }
  | .found .. => throw .isDirectory
  | .free dir name => return { files with root := files.root.put (dir ++ [name]) (.file bytes) }

/-- Makes one directory. -/
def makeDir (files : Files) (path : Path) : Except Fault Files := do
  -- With a slash at its end a path would lead only to a directory that is there already.
  match ← files.place false ⟨trimSlashes path.text⟩ with
  | .found .. => throw .present
  | .free dir name => return { files with root := files.root.put (dir ++ [name]) (.dir []) }
where
  /-- A text without slashes at its end. -/
  trimSlashes (text : String) : String :=
    match (text.toList.reverse.dropWhile (· == '/')).reverse with
    | [] => if text.isEmpty then "" else "/"
    | chars => String.ofList chars

/-- Makes a directory. It is enough if there is one. -/
def ensureDir (files : Files) (path : Path) : Except Fault Files :=
  match files.makeDir path with
  | .ok files => .ok files
  | .error fault => if files.hasDir path then .ok files else .error fault

/-- Makes directories, the last one last, that are below one another. -/
def ensureDirs : Files → List Path → Files × Except Fault Unit
  | files, [] => (files, .ok ())
  | files, path :: rest =>
    match files.ensureDir path with
    | .ok files => ensureDirs files rest
    | .error fault => (files, .error fault)

/-- The directories that have to be made for one to be there, from the outermost on. -/
def lacking (files : Files) : Nat → Path → List Path
  | 0, path => [path]
  | depth + 1, path =>
    match files.makeDir path, path.parent? with
    -- Any other fault comes up again when the directory itself is made.
    | .error .missing, some parent =>
      if parent.text.isEmpty then [path] else files.lacking depth parent ++ [path]
    | _, _ => [path]

/-- Makes a directory with all directories on the way. -/
def makeDirs (files : Files) (path : Path) : Files × Except Fault Unit :=
  if path.text.isEmpty then (files, .ok ())
  else files.ensureDirs (files.lacking path.parts.length path)

/-- Removes a file or a link. -/
def removeFile (files : Files) (path : Path) : Except Fault Files := do
  match ← files.place false path with
  | .found names node =>
    if node.isDir then throw .isDirectory
    return { files with root := files.root.remove names.dropLast (names.getLastD "") }
  | .free .. => throw .missing

/-- Removes a directory with all that is in it. Of a link only the link is removed. -/
def removeDir (files : Files) (path : Path) : Except Fault Files := do
  match ← files.place false path with
  | .found _ (.file _) => throw .notDirectory
  | .found names _ =>
    return { files with root := files.root.remove names.dropLast (names.getLastD "") }
  | .free .. => throw .missing

end Files

end ComponentCatalog
