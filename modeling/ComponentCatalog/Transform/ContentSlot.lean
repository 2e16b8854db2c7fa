import ComponentCatalog.Text.Scan

/-!
# Content slots

`<ContentSlot :use="$slots.name" … />` becomes a native `<slot>`. Lines are changed one by one. In a
line everything from the first `<ContentSlot` to the last `/>` is one tag, and the last slot that is
used in it counts.
-/

namespace ComponentCatalog.Transform

open Text

/-- What opens a content slot. -/
def contentSlotStart : List Char := "<ContentSlot".toList

/-- What precedes the name of the slot that a content slot uses. -/
def contentSlotUse : List Char := ":use=\"$slots.".toList

def tagEnd : List Char := "/>".toList

/-- Can a name of a used slot hold a character? -/
def isSlotLetter (c : Char) : Bool := c.isLower

/-- The slot that is used at the start of a text, and the text behind. -/
def useAt? (text : List Char) : Option (List Char × List Char) :=
  if !contentSlotUse.isPrefixOf text then none
  else
    let tail := text.drop contentSlotUse.length
    match tail.dropWhile isSlotLetter with
    | '"' :: rest =>
      let name := tail.takeWhile isSlotLetter
      if name.isEmpty then none else some (name, rest)
    | _ => none

/-- The last slot that is used in a text with an end of a tag behind it, and the text behind the last
such end. -/
def lastUse? : List Char → Option (List Char × List Char)
  | [] => none
  | c :: rest =>
    -- One further on is preferred to one that starts here.
    match lastUse? rest with
    | some found => some found
    | none => do
      let (name, tail) ← useAt? (c :: rest)
      let (_, behind) ← cutAtLast tagEnd tail
      return (name, behind)

def nativeSlot (name : List Char) : List Char :=
  if name == "default".toList then "<slot  />".toList
  else "<slot name=\"".toList ++ name ++ "\" />".toList

/-- A line with its content slot made native. -/
def contentSlotLine (line : List Char) : List Char :=
  match cutAt contentSlotStart line with
  | some (before, tail) =>
    match lastUse? tail with
    | some (name, behind) => before ++ nativeSlot name ++ behind
    | none => line
  | none => line

def contentSlots (text : List Char) : List Char :=
  ['\n'].intercalate ((splitWhere (· == '\n') text).map contentSlotLine)

end ComponentCatalog.Transform
