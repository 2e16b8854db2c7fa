import ComponentCatalog.Files.Tree
import ComponentCatalog.Store.Entry
import ComponentCatalog.Version

/-!
# Stores of metadata

A store is a directory with one file for each component. The name of the file is a digest of the
component's path, the version of the format and a digest of the options, so that what was stored under
other options is not found.
-/

namespace ComponentCatalog

/-- A store: its directory and the digest of the options. -/
structure Store where
  dir : Path
  digest : UInt64
  deriving Repr, DecidableEq, Inhabited

namespace Store

def wordBytes (word : UInt64) : ByteArray :=
  ByteArray.mk (Array.ofFn fun i : Fin 8 => (word >>> (8 * i.val).toUInt64).toUInt8)

def fileName (store : Store) (component : Path) : String :=
  let bytes := component.text.toUTF8 ++ version.toUTF8 ++ wordBytes store.digest
  Digest.hexText 16 (Digest.digest64 bytes).toNat ++ ".json"

/-- The file of a component. -/
def file (store : Store) (component : Path) : Path := store.dir.join (store.fileName component)

/-- Why a store cannot be used. -/
structure Fault where
  path : Path
  cause : Files.Fault
  deriving Repr, DecidableEq

def Fault.message (fault : Fault) : String :=
  "store I/O error at " ++ fault.path.text ++ ": " ++ fault.cause.message

/-- Opens the store in a directory, which is made if it is not there. -/
def openIn (files : Files) (dir : Path) (digest : UInt64) : Files × Except Fault Store :=
  let (files, made) := files.makeDirs dir
  (files, match made with
    | .ok () => .ok ⟨dir, digest⟩
    | .error cause => .error ⟨dir, cause⟩)

/-- The metadata stored for a component, if its source had the fingerprint. -/
def load (store : Store) (files : Files) (component : Path) (fingerprint : Fingerprint) :
    Option Metadata :=
  match files.read (store.file component) with
  | .ok bytes => Entry.metadataFor? fingerprint bytes
  | .error _ => none

/-- Stores the metadata of a component. -/
def save (store : Store) (files : Files) (component : Path) (entry : Entry) : Except Fault Files :=
  let file := store.file component
  (files.write file entry.text.toUTF8).mapError (⟨file, ·⟩)

/-- Removes what is stored for a component, if anything is. -/
def remove (store : Store) (files : Files) (component : Path) : Files :=
  match files.removeFile (store.file component) with
  | .ok files => files
  | .error _ => files

def clear (store : Store) (files : Files) : Files × Except Fault Unit :=
  match files.removeDir store.dir with
  | .error cause => (files, .error ⟨store.dir, cause⟩)
  | .ok files =>
    let (files, made) := files.makeDirs store.dir
    (files, made.mapError (⟨store.dir, ·⟩))

/-- The number of files in the store. -/
def size (store : Store) (files : Files) : Nat :=
  match files.list store.dir with
  | .ok names => names.length
  | .error _ => 0

end Store

end ComponentCatalog
