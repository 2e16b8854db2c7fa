import ComponentCatalog.Proofs.Json.Value
import ComponentCatalog.Proofs.Metadata.Members
import ComponentCatalog.Proofs.Order

/-! # Members under their names

A category that is an object from names to members can as well be written as a list, in which each member holds
its name itself. Nothing but its name tells a member of the one from the member of the other, and of what is said
of a member the name is never asked for. So both are understood alike, or refused alike for what is wrong with
another category.
-/

namespace ComponentCatalog.Metadata

open Text

/-- The item of a list that stands for an entry of an object: what is said of the member, with its key as its
name. A bare value is the type of the member. -/
def itemOf : String × Json → Json
  | (key, .object entries) => .object (Json.insertEntry "name" (.string key) entries)
  | (key, bare) => .object (Json.insertEntry "name" (.string key) [("type", bare)])

/-- Two members have one name, and the same is said of them but for their names. -/
structure AlikeButNamed (member other : Described) : Prop where
  name : member.1 = other.1
  said : ∀ key, key ≠ "name" → member.2.get? key = other.2.get? key

/-- Members that are read from the entries and from the items for them. -/
theorem alikeButNamed_itemOf (entry : String × Json) :
    AlikeButNamed (entry.1, itemOf entry) (describedEntry entry) := by
  obtain ⟨name, value⟩ := entry
  have said (entries : List (String × Json)) (key : String) (other : key ≠ "name") :
      (Json.object (Json.insertEntry "name" (.string name) entries)).get? key =
        (Json.object entries).get? key := by
    rw [Json.get?, Json.get?, Json.lookup_insertEntry, if_neg other]
  cases value with
  | object entries => exact ⟨rfl, said entries⟩
  | _ => exact ⟨rfl, said _⟩

/-- The item for an entry describes a member by the key. -/
theorem item_itemOf (entry : String × Json) : Item (itemOf entry) (entry.1, itemOf entry) := by
  obtain ⟨name, value⟩ := entry
  have named (entries : List (String × Json)) :
      (Json.insertEntry "name" (.string name) entries).lookup "name" = some (.string name) := by
    rw [Json.lookup_insertEntry, if_pos rfl]
  cases value with
  | object entries => exact .named (named entries)
  | _ => exact .named (named _)

/-! ## What is understood of a member -/

section

variable {member other : Described} {members others : List Described}

theorem flag_congr (key : String) (unnamed : key ≠ "name") (alike : AlikeButNamed member other) :
    flag key member.2 = flag key other.2 := by
  rw [flag, flag, alike.said key unnamed]

theorem typeText_congr (keys : List String) (unnamed : "name" ∉ keys) (alike : AlikeButNamed member other) :
    typeText keys member.2 = typeText keys other.2 := by
  refine congrArg (Option.getD · unknownType) ?_
  induction keys with
  | nil => rfl
  | cons key keys ih =>
    obtain ⟨first, later⟩ := List.ne_and_not_mem_of_not_mem_cons unnamed
    rw [List.findSome?_cons, List.findSome?_cons, alike.said key first.symm, ih later]

theorem propOf_congr (alike : AlikeButNamed member other) : propOf member = propOf other := by
  have type := typeText_congr ["type", "schema"] (by decide) alike
  have required := flag_congr "required" (by decide) alike
  have default := alike.said "default" (by decide)
  have description := alike.said "description" (by decide)
  rw [propOf, propOf, alike.name, type, required, default, description]

theorem memberOf_congr (keys : List String) (unnamed : "name" ∉ keys) (alike : AlikeButNamed member other) :
    memberOf keys member = memberOf keys other := by
  rw [memberOf, memberOf, alike.name, typeText_congr keys unnamed alike]

theorem map_memberOf_congr (keys : List String) (unnamed : "name" ∉ keys)
    (alike : List.Forall₂ AlikeButNamed members others) :
    members.map (memberOf keys) = others.map (memberOf keys) := by
  induction alike with
  | nil => rfl
  | cons first _ ih => rw [List.map_cons, List.map_cons, memberOf_congr keys unnamed first, ih]

theorem propsOf_congr (alike : List.Forall₂ AlikeButNamed members others) : propsOf members = propsOf others := by
  refine congrArg (List.mergeSort · propBefore) ?_
  induction alike with
  | nil => rfl
  | cons first _ ih =>
    rw [List.filter_cons, List.filter_cons, flag_congr "global" (by decide) first]
    split
    · rw [List.map_cons, List.map_cons, propOf_congr first, ih]
    · exact ih

end

/-! ## What is understood of a category -/

section

variable {entries members : List (String × Json)} {category : String}
  (there : (Json.object entries).get? category = some (.object members))
include there

/-- Only of the category itself other members are read, and these are alike but for their names. -/
theorem category_keyed {α : Type} {convert : List Described → List α}
    (blind : ∀ {members others}, List.Forall₂ AlikeButNamed members others → convert members = convert others)
    (chosen : Bool) (name : String) :
    Metadata.category chosen name convert
        (.object (Json.insertEntry category (.array (members.map itemOf)) entries)) =
      Metadata.category chosen name convert (.object entries) := by
  by_cases here : name = category
  · subst here
    have listed : described name (.object (Json.insertEntry name (.array (members.map itemOf)) entries)) =
        .ok (members.map fun entry => (entry.1, itemOf entry)) := by
      rw [described_eq_ok_iff, Json.get?, Json.lookup_insertEntry, if_pos rfl]
      refine .items (List.forall₂_map_left_iff.mpr (List.forall₂_map_right_iff.mpr ?_))
      exact List.forall₂_same.mpr fun entry _ => item_itemOf entry
    have keyed : described name (.object entries) = .ok (members.map describedEntry) := by
      rw [described, there]
    have alike : List.Forall₂ AlikeButNamed (members.map fun entry => (entry.1, itemOf entry))
        (members.map describedEntry) := by
      refine List.forall₂_map_left_iff.mpr (List.forall₂_map_right_iff.mpr ?_)
      exact List.forall₂_same.mpr fun entry _ => alikeButNamed_itemOf entry
    simp only [Metadata.category, listed, keyed, bind, Except.bind, blind alike]
  · have same : (Json.object (Json.insertEntry category (.array (members.map itemOf)) entries)).get? name =
        (Json.object entries).get? name := by
      rw [Json.get?, Json.get?, Json.lookup_insertEntry, if_neg here]
    simp only [Metadata.category, described, same]

/-- Any category that is an object from names to members may be replaced by the list of the members with their
names, in the order of the entries; and that is the order of the keys in whatever is read from a text. -/
theorem normalize_keyed (fields : Fields) :
    normalize fields (.object (Json.insertEntry category (.array (members.map itemOf)) entries)) =
      normalize fields (.object entries) ∧
    ∀ text, Json.parse text = .ok (.object entries) →
      members.Pairwise fun earlier later => bytes earlier.1 < bytes later.1 := by
  constructor
  · have props := category_keyed there propsOf_congr fields.props "props"
    have slots := category_keyed there (map_memberOf_congr ["type", "schema"] (by decide)) fields.slots "slots"
    have events := category_keyed there (map_memberOf_congr ["type", "signature", "schema"] (by decide))
      fields.events "events"
    have exposed := category_keyed there (map_memberOf_congr ["type", "schema"] (by decide))
      fields.exposed "exposed"
    simp only [normalize, props, slots, events, exposed]
  · intro text read
    exact (Json.ascending_of_parse read there).imp bytes_lt_bytes

end

/-- Props under their names: one is said to be null, and one has a name in what is said of it. -/
def keyedProps : List (String × Json) :=
  [("", .null), ("name", .string "string"),
    ("size", .object [("global", .bool false), ("name", .string "other"), ("required", .bool true)]),
    ("tags", .array [.string "a"])]

/-- The same props as a list. -/
def listedProps : List Json :=
  [.object [("name", .string ""), ("type", .null)],
    .object [("name", .string "name"), ("type", .string "string")],
    .object [("global", .bool false), ("name", .string "size"), ("required", .bool true)],
    .object [("name", .string "tags"), ("type", .array [.string "a"])]]

theorem normalize_keyed_props :
    (Json.object [("props", .object keyedProps), ("slots", .array [.null])]).get? "props" =
      some (.object keyedProps) ∧
    normalize { slots := false } (.object [("props", .array listedProps), ("slots", .array [.null])]) =
      normalize { slots := false } (.object [("props", .object keyedProps), ("slots", .array [.null])]) ∧
    ∀ text, Json.parse text = .ok (.object [("props", .object keyedProps), ("slots", .array [.null])]) →
      keyedProps.Pairwise fun earlier later => bytes earlier.1 < bytes later.1 := by
  have there : (Json.object [("props", .object keyedProps), ("slots", .array [.null])]).get? "props" =
      some (.object keyedProps) := rfl
  have listed : keyedProps.map itemOf = listedProps := by
    simp +decide [keyedProps, listedProps, itemOf, Json.insertEntry]
  obtain ⟨alike, ordered⟩ := normalize_keyed there { slots := false }
  refine ⟨there, ?_, ordered⟩
  simpa only [listed, Json.insertEntry, String.lt_irrefl, ↓reduceIte, beq_self_eq_true] using alike

end ComponentCatalog.Metadata
