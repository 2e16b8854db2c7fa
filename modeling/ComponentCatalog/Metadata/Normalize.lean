import ComponentCatalog.Json.Print
import ComponentCatalog.Metadata.Basic

/-!
# Metadata from what an analyzer says

An analyzer describes each category by a list of objects that carry names, or by an object from
names to objects or bare types. Both are brought to one form. Props come with the required ones
first and by name; the other categories keep their order.
-/

namespace ComponentCatalog.Metadata

/-- Why a description is not understood. -/
inductive Malformed where
  | noObject (found : String)
  | noCategory (category found : String)
  | noMember (category found : String)
  | noName (category : String)
  deriving Repr, DecidableEq

def Malformed.message : Malformed → String
  | noObject found => "expected an object, got " ++ found
  | noCategory category found =>
    "\x60" ++ category ++ "\x60 must be a list or an object, got " ++ found
  | noMember category found => "\x60" ++ category ++ "\x60 entries must be objects, got " ++ found
  | noName category => "\x60" ++ category ++ "\x60 entry without a name"

/-- What a value is called in a report. -/
def kindOf : Json → String
  | .null => "null"
  | .bool _ => "a boolean"
  | .number _ => "a number"
  | .string _ => "a string"
  | .array _ => "a list"
  | .object _ => "an object"

/-- A described member: its name and what is said of it. -/
abbrev Described := String × Json

def text? : Json → Option String
  | .string text => some text
  | _ => none

/-- A member from an entry of a list. -/
def describedItem (category : String) (item : Json) : Except Malformed Described :=
  match item with
  | .object _ =>
    match (item.get? "name").bind text? with
    | some name => .ok (name, item)
    | none => .error (.noName category)
  | other => .error (.noMember category (kindOf other))

/-- A member from an entry of an object. A bare value is its type. -/
def describedEntry : String × Json → Described
  | (name, .object entries) => (name, .object entries)
  | (name, bare) => (name, .object [("type", bare)])

/-- The members of a category. -/
def described (category : String) (root : Json) : Except Malformed (List Described) :=
  match root.get? category with
  | none | some .null => .ok []
  | some (.array items) => items.mapM (describedItem category)
  | some (.object entries) => .ok (entries.map describedEntry)
  | some other => .error (.noCategory category (kindOf other))

def flag (key : String) (member : Json) : Bool :=
  match member.get? key with
  | some (.bool value) => value
  | _ => false

/-- A value as text, if there is one. -/
def valueText : Json → Option String
  | .null => none
  | .string text => some text
  | other => some other.compact

/-- The type of what is described without one. -/
def unknownType : String := "unknown"

/-- The type of a member: the first of several keys that has a value. -/
def typeText (keys : List String) (member : Json) : String :=
  (keys.findSome? fun key => (member.get? key).bind valueText).getD unknownType

def propOf : Described → PropInfo
  | (name, member) =>
    { name
      type := typeText ["type", "schema"] member
      required := flag "required" member
      default? := (member.get? "default").bind valueText
      description? := ((member.get? "description").bind text?).filter (!·.isEmpty) }

/-- A slot, an event or an exposed value from its description. -/
def memberOf (keys : List String) : Described → MemberInfo
  | (name, member) => ⟨name, typeText keys member⟩

/-- Required props come before optional ones, and then names are in order. -/
def propBefore (a b : PropInfo) : Bool :=
  if a.required == b.required then a.name ≤ b.name else a.required

/-- The props of a description. Global ones belong to every component and are left out. -/
def propsOf (members : List Described) : List PropInfo :=
  ((members.filter (!flag "global" ·.2)).map propOf).mergeSort propBefore

/-- What is found in a category, if the category is chosen. -/
def category {α : Type} (chosen : Bool) (name : String) (convert : List Described → List α)
    (root : Json) : Except Malformed (Option (List α)) :=
  if chosen then return some (convert (← described name root)) else return none

/-- Metadata from a description, with the chosen categories. -/
def normalize (fields : Fields) (raw : Json) : Except Malformed Metadata := do
  let .object _ := raw | throw (.noObject (kindOf raw))
  let props? ← category fields.props "props" propsOf raw
  let slots? ← category fields.slots "slots" (·.map (memberOf ["type", "schema"])) raw
  let events? ← category fields.events "events"
    (·.map (memberOf ["type", "signature", "schema"])) raw
  let exposed? ← category fields.exposed "exposed" (·.map (memberOf ["type", "schema"])) raw
  return { props?, slots?, events?, exposed? }

end ComponentCatalog.Metadata
