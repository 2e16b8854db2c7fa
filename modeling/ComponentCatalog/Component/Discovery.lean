import ComponentCatalog.Component.Identity
import ComponentCatalog.Files.Tree
import ComponentCatalog.Unicode.Lowercase

/-!
# Discovering components

Components are found by walking through directories. The name of one is made of the names of the
directories on the way to it and of its file; directories that the name of the file repeats are left
out, and so are those whose name only says that the component is global.
-/

namespace ComponentCatalog.Component

open Files

/-- The names of files and directories that are passed over. -/
def skippedNames : List String := ["node_modules", "dist", ".git", ".nuxt", ".output", "target"]

/-- Does a path end in a name that is passed over? -/
def isSkipped (path : Path) : Bool :=
  match path.fileName? with
  | some name => skippedNames.contains name
  | none => false

def componentExtension : String := "vue"

def globalDir : String := "global"

/-- What the name of a global component's file ends in. -/
def globalSuffix : List Char := ".global".toList

/-- The name of a file that stands for its directory. -/
def indexStem : List Char := "index".toList

/-- The name made of the names of directories and a file. A directory that the rest repeats ends it. -/
def nameFrom (file : String) : List String → String
  | [] => file
  | dir :: dirs =>
    let part := pascalCase dir
    let repeated := !file.isEmpty &&
      (Unicode.lowerText part.toList).isPrefixOf (Unicode.lowerText file.toList)
    if repeated then file else part ++ nameFrom file dirs

/-- The component of a file below a directory, by the names on the way. -/
def describeFile (path : Path) (dirs : List String) (stem : String) : Option Descriptor :=
  let chars := stem.toList
  let suffixed := globalSuffix.isSuffixOf chars
  let base := if suffixed then chars.take (chars.length - globalSuffix.length) else chars
  let file := if base == indexStem then "" else pascalCase (String.ofList base)
  -- A directory of this name says that what is below it is global, and no more.
  let name := nameFrom file (dirs.filter (· != globalDir))
  if name.isEmpty then none else some ⟨name, path, suffixed || dirs.contains globalDir⟩

/-! ## Walking -/

/-- A file that was come to: its path and the directories on the way. -/
structure Visited where
  path : Path
  dirs : List String

mutual

/-- The files below a node that are not passed over. Links to directories are not followed. -/
def walk (isFile : Path → Bool) (path : Path) (dirs : List String) : Node → List Visited
  | .dir entries => if isSkipped path then [] else walkEntries isFile path dirs entries
  | .file _ => if isSkipped path then [] else [⟨path, dirs.dropLast⟩]
  | .link _ => if isSkipped path || !isFile path then [] else [⟨path, dirs.dropLast⟩]

/-- The files below the entries of a directory. -/
def walkEntries (isFile : Path → Bool) (path : Path) (dirs : List String) :
    List (String × Node) → List Visited
  | [] => []
  | (name, node) :: rest =>
    walk isFile (path.join name) (dirs ++ [name]) node ++ walkEntries isFile path dirs rest

end

def leadsToFile (files : Files) (path : Path) : Bool :=
  match files.find? path with
  | some (_, .file _) => true
  | _ => false

/-- The component of a file that was come to, if it is one. -/
def Visited.describe (visited : Visited) : Option Descriptor :=
  if visited.path.extension? == some componentExtension then
    visited.path.stem?.bind (describeFile visited.path visited.dirs)
  else none

/-- A directory that could not be walked through. -/
structure SkippedDir where
  dir : Path
  fault : Files.Fault
  deriving Repr, DecidableEq

/-- The components below directories, in the order of their paths, each path once; and the
directories that could not be walked through. -/
def discover (files : Files) (dirs : List Path) : List Descriptor × List SkippedDir :=
  let (found, skipped) := dirs.foldr (fun dir (found, skipped) =>
    match files.canonical dir with
    | .ok (root, node) => (walk (leadsToFile files) root [] node ++ found, skipped)
    | .error fault => (found, ⟨dir, fault⟩ :: skipped)) ([], [])
  (single ((found.filterMap Visited.describe).mergeSort inOrder), skipped)
where
  /-- Does a component come before another one, or have its path? -/
  inOrder (a b : Descriptor) : Bool := a.resolvedPath.compare b.resolvedPath != .gt
  /-- The first of the components that follow one another with the same path. -/
  single (found : List Descriptor) : List Descriptor :=
    found.foldr (fun first kept =>
      match kept with
      | next :: rest =>
        if first.resolvedPath.same next.resolvedPath then first :: rest else first :: kept
      | [] => [first]) []

end ComponentCatalog.Component
