import ComponentCatalog.Sfc.Block
import ComponentCatalog.Sfc.Member

/-!
# The slots of a template

A template declares a slot by a `<slot>` tag. The attribute `name` names it, and each bound attribute
is something that the slot passes on. Of two tags with one name the first counts.
-/

namespace ComponentCatalog.Sfc

open Unicode Text

structure Attribute where
  bound : Bool
  key : String
  value? : Option String
  deriving Repr, DecidableEq

/-- The name of an attribute at the start of a text, and the text behind it. -/
def attributeName? : List Char → Option (List Char × List Char)
  | [] => none
  | c :: rest =>
    if c.isAlpha || c == '_' then
      let goesOn : Char → Bool := fun d => isWord d || d == '-'
      some (c :: rest.takeWhile goesOn, rest.dropWhile goesOn)
    else none

/-- The quoted value behind the name of an attribute, and the text behind it. -/
def attributeValue? (text : List Char) : Option (List Char × List Char) :=
  match text.dropWhile isSpace with
  | '=' :: rest =>
    match rest.dropWhile isSpace with
    | '"' :: rest => cutAt ['"'] rest
    | _ => none
  | _ => none

/-- An attribute at the start of a text, and the text behind it. -/
def attribute? (text : List Char) : Option (Attribute × List Char) :=
  let named (bound : Bool) (text : List Char) : Option (Attribute × List Char) := do
    let (key, rest) ← attributeName? text
    match attributeValue? rest with
    | some (value, rest) =>
      return (⟨bound, String.ofList key, some (String.ofList value)⟩, rest)
    | none => return (⟨bound, String.ofList key, none⟩, rest)
  let behind (mark : String) : Option (Attribute × List Char) :=
    if mark.toList.isPrefixOf text then named true (text.drop mark.length) else none
  ((behind "v-bind:").or (behind ":")).or (named false text)

/-- An attribute at the start of a tag's attributes or behind a blank. -/
def attributeHere? (before : Option Char) (text : List Char) : Option (Attribute × Nat) := do
  let behindBlank : Option (Attribute × List Char) := match text with
    | c :: rest => if isSpace c then attribute? rest else none
    | [] => none
  let found := if before.isNone then (attribute? text).or behindBlank else behindBlank
  let (first, rest) ← found
  return (first, text.length - rest.length)

/-- The attributes of a slot tag that starts here, and the length of the tag. -/
def slotTag? (_ : Option Char) (text : List Char) : Option (List Char × Nat) := do
  guard ("<slot".toList.isPrefixOf text)
  let tail := text.drop 5
  guard (atWordEnd tail)
  let (attributes, rest) ← cutAt ['>'] tail
  -- The slash of a tag that closes itself is no attribute.
  let attributes := if attributes.getLast? == some '/' then attributes.dropLast else attributes
  return (attributes, text.length - rest.length)

/-- The slot that a tag with these attributes declares. -/
def slotOf (attributes : List Attribute) : Member :=
  -- A bound name is not known before the component runs.
  let names := attributes.filter fun a => !a.bound && a.key == "name" && a.value?.isSome
  let name := (names.getLast?.bind Attribute.value?).getD "default"
  let passed := attributes.filter fun a => a.bound && a.key != "name"
  let shape :=
    if passed.isEmpty then "\x7b\x7d"
    else "\x7b " ++ "; ".intercalate (passed.map (·.key ++ ": any")) ++ " \x7d"
  ⟨name, shape⟩

/-- The first members of each name. -/
def firstOfName (members : List Member) : List Member :=
  members.foldl
    (fun kept member => if kept.any (·.name == member.name) then kept else kept ++ [member]) []

def templateSlots (template : List Char) : List Member :=
  firstOfName <| (occurrences slotTag? template).map fun attributes =>
    slotOf (occurrences attributeHere? attributes)

end ComponentCatalog.Sfc
