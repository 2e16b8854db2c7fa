import ComponentCatalog.Number.Binary64

/-!
# JSON values

The entries of an object are kept in the order in which they are written out. Values that are read
have their keys in order, each once; values that are built may put them as they like.
-/

namespace ComponentCatalog

/-- A number of JSON: a whole number, or one with a fraction or an exponent. -/
inductive JsonNumber where
  | whole (n : Int)
  | real (x : Binary64)
  deriving Repr, DecidableEq, Inhabited

/-- A value of JSON. -/
inductive Json where
  | null
  | bool (b : Bool)
  | number (n : JsonNumber)
  | string (text : String)
  | array (items : List Json)
  | object (entries : List (String × Json))
  deriving Repr, Inhabited

namespace Json

def int (n : Int) : Json := .number (.whole n)

def optionalString : Option String → Json
  | some text => .string text
  | none => .null

def strings (texts : List String) : Json := .array (texts.map .string)

/-- The value of a key of an object. -/
def get? (key : String) : Json → Option Json
  | object entries => entries.lookup key
  | _ => none

/-- Puts an entry into an object whose keys are in order; it takes the place of one of its key. -/
def insertEntry (key : String) (value : Json) :
    List (String × Json) → List (String × Json)
  | [] => [(key, value)]
  | (other, kept) :: rest =>
    if key < other then (key, value) :: (other, kept) :: rest
    else if key == other then (key, value) :: rest
    else (other, kept) :: insertEntry key value rest

/-- Entries in the order of their keys; of two of one key the last counts. -/
def sortedEntries (entries : List (String × Json)) : List (String × Json) :=
  entries.foldl (fun kept entry => insertEntry entry.1 entry.2 kept) []

end Json

end ComponentCatalog
