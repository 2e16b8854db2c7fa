import ComponentCatalog.Metadata.Normalize
import Mathlib.Data.List.Forall2

/-! # The members of a category

What the value of a category has to be like, told apart from how it is read: nothing, an object, or a list of
objects with names. Whatever else it is, one thing is wrong with it, and in a list that is what is wrong with
the first item that is no such object.
-/

namespace ComponentCatalog

/-! ## Reading one thing after the other -/

section Reading

variable {ε α β : Type} {read : α → Except ε β}

theorem bind_eq_ok_iff {first : Except ε α} {value : β} :
    (first >>= read) = .ok value ↔ ∃ item, first = .ok item ∧ read item = .ok value := by
  cases first <;> simp [bind, Except.bind]

/-- Items are read if and only if each one is read on its own. -/
theorem mapM_eq_ok_iff {items : List α} {values : List β} :
    items.mapM read = .ok values ↔ List.Forall₂ (fun item value => read item = .ok value) items values := by
  induction items generalizing values with
  | nil =>
    rw [List.mapM_nil, List.forall₂_nil_left_iff]
    exact ⟨fun none => (Except.ok.inj none).symm, fun none => none ▸ rfl⟩
  | cons item rest ih =>
    rw [List.mapM_cons, bind_eq_ok_iff, List.forall₂_cons_left_iff]
    simp only [bind_eq_ok_iff, ih]
    constructor
    · rintro ⟨value, first, others, later, whole⟩
      exact ⟨value, others, first, later, (Except.ok.inj whole).symm⟩
    · rintro ⟨value, others, first, later, rfl⟩
      exact ⟨value, first, others, later, rfl⟩

/-- The first item that is not read stops the reading. -/
theorem mapM_eq_error_iff {items : List α} {fault : ε} :
    items.mapM read = .error fault ↔ ∃ before item after, items = before ++ item :: after ∧
      (∀ earlier ∈ before, ∃ value, read earlier = .ok value) ∧ read item = .error fault := by
  induction items with
  | nil => simp [pure, Except.pure]
  | cons item rest ih =>
    rw [List.mapM_cons]
    constructor
    · intro stopped
      cases first : read item with
      | error other =>
        rw [first] at stopped
        cases stopped
        exact ⟨[], item, rest, rfl, by simp, first⟩
      | ok value =>
        -- Only once the first item is read does it count what becomes of the others.
        have later : rest.mapM read = .error fault := by
          cases others : rest.mapM read with
          | error other => rw [first, others] at stopped; cases stopped; rfl
          | ok values => rw [first, others] at stopped; cases stopped
        obtain ⟨before, next, after, rfl, sound, broken⟩ := ih.mp later
        exact ⟨item :: before, next, after, rfl, List.forall_mem_cons.mpr ⟨⟨value, first⟩, sound⟩, broken⟩
    · rintro ⟨before, next, after, whole, sound, broken⟩
      cases before with
      | nil =>
        cases whole
        rw [broken]
        rfl
      | cons _ before =>
        cases whole
        obtain ⟨⟨value, first⟩, sound⟩ := List.forall_mem_cons.mp sound
        rw [first, ih.mpr ⟨before, next, after, rfl, sound, broken⟩]
        rfl

end Reading

namespace Metadata

/-! ## Members -/

/-- An item of a list describes a member if it is an object with a name. -/
inductive Item : Json → Described → Prop where
  | named {entries : List (String × Json)} {name : String}
      (found : entries.lookup "name" = some (.string name)) :
      Item (.object entries) (name, .object entries)

/-- An entry of an object describes a member by its key. What is no object is the type of the member. -/
inductive Entry : String × Json → Described → Prop where
  | object (name : String) (entries : List (String × Json)) :
      Entry (name, .object entries) (name, .object entries)
  | bare {name : String} {value : Json} (bare : ∀ entries, value ≠ .object entries) :
      Entry (name, value) (name, .object [("type", value)])

/-- The members that the value of a category lists. -/
inductive Lists : Option Json → List Described → Prop where
  | absent : Lists none []
  | null : Lists (some .null) []
  | items {items : List Json} {members : List Described} (each : List.Forall₂ Item items members) :
      Lists (some (.array items)) members
  | entries {entries : List (String × Json)} {members : List Described}
      (each : List.Forall₂ Entry entries members) : Lists (some (.object entries)) members

/-- A value is an object with a name. -/
def IsNamed (item : Json) : Prop :=
  ∃ entries name, item = .object entries ∧ entries.lookup "name" = some (.string name)

/-- The value of a category is as it should be. -/
def WellFormed : Option Json → Prop
  | none | some .null | some (.object _) => True
  | some (.array items) => ∀ item ∈ items, IsNamed item
  | some _ => False

/-- What is wrong with an item of a list. -/
inductive ItemFault (category : String) : Json → Malformed → Prop where
  | bare {item : Json} (bare : ∀ entries, item ≠ .object entries) :
      ItemFault category item (.noMember category (kindOf item))
  | nameless {entries : List (String × Json)}
      (nameless : ∀ name, entries.lookup "name" ≠ some (.string name)) :
      ItemFault category (.object entries) (.noName category)

/-- What is wrong with the value of a category. -/
inductive Breaks (category : String) : Option Json → Malformed → Prop where
  | bare {value : Json} (something : value ≠ .null) (list : ∀ items, value ≠ .array items)
      (object : ∀ entries, value ≠ .object entries) :
      Breaks category (some value) (.noCategory category (kindOf value))
  | item {before after : List Json} {item : Json} {fault : Malformed}
      (first : ∀ earlier ∈ before, IsNamed earlier) (broken : ItemFault category item fault) :
      Breaks category (some (.array (before ++ item :: after))) fault

section

variable {name : String} {raw : Json} {members : List Described} {fault : Malformed}

private theorem text?_eq_some_iff {value : Json} {text : String} :
    text? value = some text ↔ value = .string text := by
  cases value <;> simp [text?]

private theorem name_eq_some_iff {entries : List (String × Json)} {text : String} :
    ((Json.object entries).get? "name").bind text? = some text ↔
      entries.lookup "name" = some (.string text) := by
  rw [Option.bind_eq_some_iff]
  constructor
  · rintro ⟨value, found, read⟩
    exact found.trans (congrArg some (text?_eq_some_iff.mp read))
  · exact fun found => ⟨_, found, rfl⟩

theorem describedItem_eq_ok_iff {item : Json} {member : Described} :
    describedItem name item = .ok member ↔ Item item member := by
  constructor
  · intro read
    unfold describedItem at read
    split at read
    · split at read
      · next _ text found => cases read; exact .named (name_eq_some_iff.mp found)
      · cases read
    · cases read
  · rintro ⟨found⟩
    simp only [describedItem, name_eq_some_iff.mpr found]

theorem describedItem_eq_error_iff {item : Json} :
    describedItem name item = .error fault ↔ ItemFault name item fault := by
  constructor
  · intro read
    unfold describedItem at read
    split at read
    · next entries =>
      split at read
      · cases read
      · next absent =>
        cases read
        refine .nameless fun text found => ?_
        rw [name_eq_some_iff.mpr found] at absent
        cases absent
    · next other => cases read; exact .bare other
  · rintro (bare | nameless)
    · unfold describedItem
      split
      · next entries => exact absurd rfl (bare entries)
      · rfl
    · next entries =>
      have absent : ((Json.object entries).get? "name").bind text? = none :=
        Option.eq_none_iff_forall_ne_some.mpr fun text found => nameless text (name_eq_some_iff.mp found)
      simp only [describedItem, absent]

private theorem exists_item_iff {item : Json} : (∃ member, Item item member) ↔ IsNamed item := by
  constructor
  · rintro ⟨_, ⟨found⟩⟩
    exact ⟨_, _, rfl, found⟩
  · rintro ⟨entries, text, rfl, found⟩
    exact ⟨_, .named found⟩

private theorem describedEntry_eq_iff {entry : String × Json} {member : Described} :
    describedEntry entry = member ↔ Entry entry member := by
  constructor
  · rintro rfl
    unfold describedEntry
    split
    · exact .object _ _
    · next other => exact .bare other
  · rintro (⟨_, _⟩ | bare)
    · rfl
    · unfold describedEntry
      split
      · next same => cases same; exact absurd rfl (bare _)
      · next same => cases same; rfl

private theorem forall₂_entry (entries : List (String × Json)) :
    List.Forall₂ Entry entries (entries.map describedEntry) :=
  List.forall₂_map_right_iff.mpr (List.forall₂_same.mpr fun _ _ => describedEntry_eq_iff.mp rfl)

/-- Members are read if and only if the value lists them. -/
theorem described_eq_ok_iff : described name raw = .ok members ↔ Lists (raw.get? name) members := by
  unfold described
  constructor
  · intro read
    split at read
    · next absent => cases read; rw [absent]; exact .absent
    · next null => cases read; rw [null]; exact .null
    · next items list =>
      rw [list]
      exact .items ((mapM_eq_ok_iff.mp read).imp fun _ _ => describedItem_eq_ok_iff.mp)
    · next entries object =>
      cases read
      rw [object]
      exact .entries (forall₂_entry entries)
    · cases read
  · generalize raw.get? name = value
    rintro (_ | _ | each | each)
    · rfl
    · rfl
    · exact mapM_eq_ok_iff.mpr (each.imp fun _ _ => describedItem_eq_ok_iff.mpr)
    · refine congrArg Except.ok ?_
      induction each with
      | nil => rfl
      | cons first _ ih => rw [List.map_cons, describedEntry_eq_iff.mpr first, ih]

/-- Reading a category fails if and only if something is wrong with its value. -/
theorem described_eq_error_iff : described name raw = .error fault ↔ Breaks name (raw.get? name) fault := by
  have named {earlier : Json} : (∃ member, describedItem name earlier = .ok member) ↔ IsNamed earlier :=
    (exists_congr fun _ => describedItem_eq_ok_iff).trans exists_item_iff
  unfold described
  constructor
  · intro read
    split at read
    · cases read
    · cases read
    · next items list =>
      obtain ⟨before, item, after, rfl, first, broken⟩ := mapM_eq_error_iff.mp read
      rw [list]
      exact .item (fun earlier member => named.mp (first earlier member))
        (describedItem_eq_error_iff.mp broken)
    · cases read
    · next other null list object found =>
      cases read
      rw [found]
      exact .bare null list object
  · generalize raw.get? name = value
    rintro (⟨something, list, object⟩ | ⟨first, broken⟩)
    · split
      · next absent => cases absent
      · next null => cases null; exact absurd rfl something
      · next items found => cases found; exact absurd rfl (list items)
      · next entries found => cases found; exact absurd rfl (object entries)
      · next found => cases found; rfl
    · exact mapM_eq_error_iff.mpr ⟨_, _, _, rfl,
        fun earlier member => named.mpr (first earlier member), describedItem_eq_error_iff.mpr broken⟩

private theorem exists_items_iff {items : List Json} :
    (∃ members, List.Forall₂ Item items members) ↔ ∀ item ∈ items, IsNamed item := by
  induction items with
  | nil => simp
  | cons item rest ih =>
    rw [List.forall_mem_cons, ← ih, ← exists_item_iff]
    constructor
    · rintro ⟨_, _ | ⟨first, others⟩⟩
      exact ⟨⟨_, first⟩, ⟨_, others⟩⟩
    · rintro ⟨⟨_, first⟩, ⟨_, others⟩⟩
      exact ⟨_, .cons first others⟩

/-- The value of a category lists members if and only if it is as it should be. -/
theorem exists_lists_iff {value : Option Json} : (∃ members, Lists value members) ↔ WellFormed value := by
  constructor
  · rintro ⟨members, _ | _ | each | each⟩
    · trivial
    · trivial
    · exact exists_items_iff.mp ⟨members, each⟩
    · trivial
  · intro formed
    match value, formed with
    | none, _ => exact ⟨[], .absent⟩
    | some .null, _ => exact ⟨[], .null⟩
    | some (.object entries), _ =>
      exact ⟨_, .entries (forall₂_entry entries)⟩
    | some (.array items), named =>
      obtain ⟨members, each⟩ := exists_items_iff.mpr named
      exact ⟨members, .items each⟩

/-- Something is wrong with the value of a category if and only if it is not as it should be. -/
theorem exists_breaks_iff :
    (∃ fault, Breaks name (raw.get? name) fault) ↔ ¬ WellFormed (raw.get? name) := by
  rw [← exists_lists_iff]
  simp only [← described_eq_error_iff, ← described_eq_ok_iff]
  cases described name raw <;> simp

/-! ## Categories -/

variable {α β : Type} {chosen : Bool} {convert : List Described → List α}

/-- What is found of a category: nothing at all if it is not chosen, and else all of its members. -/
def Found (chosen : Bool) (convert : List Described → List α) (value : Option Json)
    (found? : Option (List α)) : Prop :=
  if chosen then ∃ members, Lists value members ∧ found? = some (convert members) else found? = none

theorem category_eq_ok_iff {found? : Option (List α)} :
    category chosen name convert raw = .ok found? ↔ Found chosen convert (raw.get? name) found? := by
  cases chosen with
  | false => simp [category, Found, pure, Except.pure, eq_comm]
  | true =>
    simp only [category, Found, ↓reduceIte, ← described_eq_ok_iff]
    cases described name raw <;> simp [bind, Except.bind, pure, Except.pure, eq_comm]

theorem category_eq_error_iff :
    category chosen name convert raw = .error fault ↔ chosen ∧ Breaks name (raw.get? name) fault := by
  cases chosen with
  | false => simp [category, pure, Except.pure]
  | true =>
    simp only [category, ↓reduceIte, ← described_eq_error_iff]
    cases described name raw <;> simp [bind, Except.bind, pure, Except.pure]

theorem exists_category_iff :
    (∃ found?, category chosen name convert raw = .ok found?) ↔ (chosen → WellFormed (raw.get? name)) := by
  simp only [category_eq_ok_iff, Found, ← exists_lists_iff]
  cases chosen <;> simp

/-- A category is read from a list in which its members are written as objects with names. -/
theorem category_of_written {title : β → String} {write : β → Json} {members : List β}
    (convert : List Described → List α)
    (there : raw.get? name = if chosen then some (.array (members.map write)) else none)
    (items : ∀ member, Item (write member) (title member, write member)) :
    category chosen name convert raw = .ok (if chosen then
      some (convert (members.map fun member => (title member, write member))) else none) := by
  rw [category_eq_ok_iff, there]
  cases chosen with
  | false => rfl
  | true =>
    refine ⟨_, .items ?_, rfl⟩
    rw [List.forall₂_map_left_iff, List.forall₂_map_right_iff, List.forall₂_same]
    exact fun member _ => items member

end

/-! ## Members that are written -/

section

variable {α : Type} {title : α → String} {write : α → Json} {members : List α}

/-- None of the props is left out if none is written as a global one. -/
theorem propsOf_of_own (own : ∀ member, flag "global" (write member) = false) :
    propsOf (members.map fun member => (title member, write member)) =
      (members.map fun member => propOf (title member, write member)).mergeSort propBefore := by
  have kept : (members.map fun member => (title member, write member)).filter (!flag "global" ·.2) =
      members.map fun member => (title member, write member) := by
    rw [List.filter_eq_self]
    intro described listed
    obtain ⟨member, -, rfl⟩ := List.mem_map.mp listed
    rw [own, Bool.not_false]
  rw [propsOf, kept, List.map_map]
  rfl

/-- A type that is written comes before whatever else could stand for one. -/
theorem map_memberOf {keys : List String} {type : α → String} (typed : keys.head? = some "type")
    (each : ∀ member, (write member).get? "type" = some (.string (type member))) :
    (members.map fun member => (title member, write member)).map (memberOf keys) =
      members.map fun member => ⟨title member, type member⟩ := by
  obtain ⟨others, rfl⟩ := List.head?_eq_some_iff.mp typed
  rw [List.map_map]
  refine List.map_congr_left fun member _ => ?_
  simp [memberOf, typeText, each, valueText]

end

end Metadata

end ComponentCatalog
