import ComponentCatalog.Text.Scan

/-!
# The blocks of a component file

A single-file component holds scripts and a template between tags. The script that matters is the
first one marked `setup`, or else the first one. The template reaches from the first opening tag to
the last closing one.
-/

namespace ComponentCatalog.Sfc

open Unicode Text

/-- A script with what its tag says about it. -/
structure ScriptBlock where
  attributes : List Char
  content : List Char
  deriving Repr, DecidableEq

/-- Does the next character end a word? -/
def atWordEnd : List Char → Bool
  | [] => true
  | c :: _ => !isWord c

/-- A script that starts here, and its length with its tags. -/
def scriptBlock? (_ : Option Char) (text : List Char) : Option (ScriptBlock × Nat) := do
  guard ("<script".toList.isPrefixOf text)
  let tail := text.drop 7
  guard (atWordEnd tail)
  let (attributes, rest) ← cutAt ['>'] tail
  let (content, rest) ← cutAt "</script>".toList rest
  return (⟨attributes, content⟩, text.length - rest.length)

def scripts (source : List Char) : List ScriptBlock := occurrences scriptBlock? source

/-- The language named here, with the length of the attribute. -/
def languageHere? (before : Option Char) (text : List Char) : Option (List Char × Nat) := do
  guard (!(before.map isWord).getD false && "lang".toList.isPrefixOf text)
  let isQuote : Char → Bool := fun c => c == '"' || c == '\''
  match (text.drop 4).dropWhile isSpace with
  | '=' :: rest =>
    match rest.dropWhile isSpace with
    | quote :: rest =>
      guard (isQuote quote)
      let name := rest.takeWhile (!isQuote ·)
      guard (!name.isEmpty && name.length < rest.length)
      -- Only the first language counts, so all that is left of the tag is taken with it.
      return (name, text.length)
    | [] => none
  | _ => none

def ScriptBlock.language? (block : ScriptBlock) : Option (List Char) :=
  (occurrences languageHere? block.attributes).head?

/-- Does the word `setup` stand here, alone or before a value? -/
def setupHere? (before : Option Char) (text : List Char) : Option (Unit × Nat) := do
  guard ((before.map isSpace).getD true && "setup".toList.isPrefixOf text)
  match text.drop 5 with
  | [] => return ((), 5)
  | c :: _ =>
    guard (isSpace c || c == '=')
    return ((), 5)

/-- Is the script one that sets the component up? -/
def ScriptBlock.isSetup (block : ScriptBlock) : Bool :=
  !(occurrences setupHere? block.attributes).isEmpty

/-- Is the script one with types? -/
def ScriptBlock.isTyped (block : ScriptBlock) : Bool :=
  (block.language?.map ("ts".toList.isPrefixOf ·)).getD false

/-- The script that describes the component. -/
def script? (source : List Char) : Option ScriptBlock :=
  let all := scripts source
  (all.find? ScriptBlock.isSetup).or all.head?

/-- The template of the component, without its last closing tag. -/
def template? (source : List Char) : Option (List Char) := do
  let (before, _) ← cutAt "<template".toList source
  let (upToEnd, _) ← cutAtLast "</template>".toList source
  -- The closing tag has to come behind the opening one.
  guard (before.length < upToEnd.length)
  return upToEnd.drop before.length

end ComponentCatalog.Sfc
