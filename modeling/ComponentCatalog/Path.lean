import ComponentCatalog.Text.Scan

/-!
# Paths

A path is kept as it was written. What it says is the list of its parts: runs of slashes count as
one, and so do dots that stand for the directory itself, but for one at the start of a relative path.
Paths are the same, and are ordered, by their parts.
-/

namespace ComponentCatalog

/-- A part of a path. -/
inductive PathPart where
  | root
  /-- The dot that a relative path starts with. -/
  | here
  | up
  | name (text : String)
  deriving Repr, DecidableEq, Inhabited

/-- A path of the file system. -/
structure Path where
  text : String
  deriving Repr, DecidableEq, Inhabited

/-- The order of parts: the root first and names last. -/
def PathPart.compare : PathPart → PathPart → Ordering
  | name a, name b => Ord.compare a b
  | a, b => Ord.compare (rank a) (rank b)
where
  /-- The place of a kind of parts among the kinds. -/
  rank : PathPart → Nat
    | root => 0
    | here => 1
    | up => 2
    | name _ => 3

namespace Path

/-- The texts between the slashes of a text. -/
def segments (text : List Char) : List (List Char) := Text.splitWhere (· == '/') text

/-- The part that a text between slashes stands for, if it stands for one. -/
def partOf? : List Char → Option PathPart
  | [] | ['.'] => none
  | ['.', '.'] => some .up
  | text => some (.name (String.ofList text))

/-- What opens a path, if it is the root or a dot, and the texts between the slashes behind it. -/
def opening (text : List Char) : Option PathPart × List (List Char) :=
  -- Before the first slash stands nothing if the path starts at the root.
  match segments text with
  | [] :: rest => (if rest.isEmpty then none else some .root, rest)
  | ['.'] :: rest => (some .here, rest)
  | all => (none, all)

def parts (path : Path) : List PathPart :=
  let (first?, rest) := opening path.text.toList
  first?.toList ++ rest.filterMap partOf?

def same (a b : Path) : Bool := a.parts == b.parts

/-- Compares lists of parts from left to right. -/
def compareParts : List PathPart → List PathPart → Ordering
  | [], [] => .eq
  | [], _ :: _ => .lt
  | _ :: _, [] => .gt
  | a :: as, b :: bs => (a.compare b).then (compareParts as bs)

/-- The order of paths, part by part. -/
def compare (a b : Path) : Ordering := compareParts a.parts b.parts

def isAbsolute (path : Path) : Bool := path.text.startsWith "/"

/-- A path below another one. An absolute path stands for itself. -/
def join (base : Path) (below : String) : Path :=
  if below.startsWith "/" || base.text.isEmpty then ⟨below⟩
  else if base.text.endsWith "/" then ⟨base.text ++ below⟩
  else ⟨base.text ++ "/" ++ below⟩

/-- The name of the file or directory that a path leads to. -/
def fileName? (path : Path) : Option String :=
  match path.parts.getLast? with
  | some (.name text) => some text
  | _ => none

/-- A file name before and behind its last dot. A dot at the start of a name separates nothing. -/
def splitName (name : String) : String × Option String :=
  let chars := name.toList.reverse
  let behind := chars.takeWhile (· != '.')
  match chars.dropWhile (· != '.') with
  | _ :: c :: before =>
    (String.ofList (c :: before).reverse, some (String.ofList behind.reverse))
  | _ => (name, none)

def stem? (path : Path) : Option String := path.fileName?.map fun name => (splitName name).1

def extension? (path : Path) : Option String := path.fileName?.bind fun name => (splitName name).2

/-- Drops the texts between slashes up to and with a number of parts. -/
def dropParts : Nat → List (List Char) → List (List Char)
  | count, text :: rest =>
    match partOf? text, count with
    | none, count => dropParts count rest
    | some _, count + 1 => dropParts count rest
    | some _, 0 => text :: rest
  | _, [] => []

/-- Texts between slashes without those at the end that stand for no part. -/
def trimEnd (texts : List (List Char)) : List (List Char) :=
  (texts.reverse.dropWhile fun text => (partOf? text).isNone).reverse

/-- Joins texts with slashes. -/
def slashed (texts : List (List Char)) : String :=
  String.ofList (['/'].intercalate texts)

/-- The text of a path from what opens it and the texts between its slashes. -/
def written : Option PathPart → List (List Char) → String
  | none, texts => slashed texts
  | some .root, texts => "/" ++ slashed texts
  | some _, texts => slashed (['.'] :: texts)

/-- The rest of a path below another one, as it was written but for slashes and dots at its ends. -/
def below? (base path : Path) : Option String :=
  let (first?, rest) := opening path.text.toList
  if !base.parts.isPrefixOf path.parts then none
  else if base.parts.isEmpty then some (written first? (trimEnd rest))
  else
    some (slashed (trimEnd (dropParts (base.parts.length - first?.toList.length) rest)))

/-- The directory that a path lies in, as it was written; there is none for the root. -/
def parent? (path : Path) : Option Path :=
  let (first?, rest) := opening path.text.toList
  match trimEnd rest, first? with
  | _ :: _, _ => some ⟨written first? (trimEnd (trimEnd rest).dropLast)⟩
  | [], some .here => some ⟨""⟩
  | [], _ => none

end Path

end ComponentCatalog
