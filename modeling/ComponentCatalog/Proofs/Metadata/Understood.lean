import ComponentCatalog.Proofs.Metadata.Described
import ComponentCatalog.Proofs.Metadata.Members

/-! # Which descriptions are understood

A description is understood if and only if it is an object in which all chosen categories are as they should be;
the first one that is not is told. Nothing depends on the others.
-/

namespace ComponentCatalog.Metadata

variable {fields : Fields} {raw : Json} {metadata : Metadata} {fault : Malformed}

/-! ## The first broken category -/

section Category

variable {α β : Type} {chosen : Bool} {name : String} {names : List String}
variable {convert : List Described → List α}

/-- The name of a category, if it is chosen. -/
def nameIf (name : String) (chosen : Bool) : List String := if chosen then [name] else []

/-- The first of several categories that is not as it should be is broken in this way. -/
def FirstBroken (raw : Json) (names : List String) (fault : Malformed) : Prop :=
  ∃ before name after, names = before ++ name :: after ∧
    (∀ earlier ∈ before, WellFormed (raw.get? earlier)) ∧ Breaks name (raw.get? name) fault

theorem firstBroken_cons : FirstBroken raw (name :: names) fault ↔
    Breaks name (raw.get? name) fault ∨ WellFormed (raw.get? name) ∧ FirstBroken raw names fault := by
  constructor
  · rintro ⟨before, broken, after, whole, formed, breaks⟩
    cases before with
    | nil => cases whole; exact .inl breaks
    | cons _ before =>
      cases whole
      obtain ⟨first, formed⟩ := List.forall_mem_cons.mp formed
      exact .inr ⟨first, before, broken, after, rfl, formed, breaks⟩
  · rintro (breaks | ⟨first, before, broken, after, rfl, formed, breaks⟩)
    · exact ⟨[], name, names, rfl, by simp, breaks⟩
    · exact ⟨name :: before, broken, after, rfl, List.forall_mem_cons.mpr ⟨first, formed⟩, breaks⟩

theorem exists_firstBroken_iff :
    (∃ fault, FirstBroken raw names fault) ↔ ∃ name ∈ names, ¬ WellFormed (raw.get? name) := by
  induction names with
  | nil => simp [FirstBroken]
  | cons name rest ih =>
    simp only [firstBroken_cons, exists_or, exists_and_left, exists_breaks_iff, ih, List.exists_mem_cons_iff]
    tauto

/-- What is read behind a category is not reached if the category is broken. -/
private theorem category_bind_eq_error_iff {next : Option (List α) → Except Malformed β}
    (later : ∀ found?, next found? = .error fault ↔ FirstBroken raw names fault) :
    (category chosen name convert raw >>= next) = .error fault ↔
      FirstBroken raw (nameIf name chosen ++ names) fault := by
  have stages : (category chosen name convert raw >>= next) = .error fault ↔
      (chosen ∧ Breaks name (raw.get? name) fault) ∨
        (chosen → WellFormed (raw.get? name)) ∧ FirstBroken raw names fault := by
    have fails : category chosen name convert raw = .error fault ↔ _ := category_eq_error_iff
    have reads : (∃ found?, category chosen name convert raw = .ok found?) ↔ _ := exists_category_iff
    rw [← fails, ← reads]
    cases category chosen name convert raw with
    | error other => simp [bind, Except.bind]
    | ok found? => simp [bind, Except.bind, later]
  rw [stages]
  cases chosen <;> simp [nameIf, firstBroken_cons]

end Category

/-! ## All categories -/

/-- The names of the chosen categories, in the order in which they are read. -/
def Fields.chosen (fields : Fields) : List String :=
  nameIf "props" fields.props ++ (nameIf "slots" fields.slots ++
    (nameIf "events" fields.events ++ (nameIf "exposed" fields.exposed ++ [])))

/-- Why a description is not understood. -/
inductive Refused (fields : Fields) : Json → Malformed → Prop where
  | noObject {raw : Json} (noObject : ∀ entries, raw ≠ .object entries) :
      Refused fields raw (.noObject (kindOf raw))
  | category {entries : List (String × Json)} {fault : Malformed}
      (first : FirstBroken (.object entries) fields.chosen fault) :
      Refused fields (.object entries) fault

theorem normalize_eq_error_iff : normalize fields raw = .error fault ↔ Refused fields raw fault := by
  -- The stages follow one another as the names of the categories do, and behind the last one nothing fails.
  have object entries : normalize fields (.object entries) = .error fault ↔
      FirstBroken (.object entries) fields.chosen fault := by
    refine category_bind_eq_error_iff fun _ => category_bind_eq_error_iff fun _ =>
      category_bind_eq_error_iff fun _ => category_bind_eq_error_iff fun _ => ?_
    simp [FirstBroken, pure, Except.pure]
  constructor
  · intro refused
    cases raw with
    | object entries => exact .category ((object entries).mp refused)
    | _ => cases refused; exact .noObject nofun
  · rintro (noObject | first)
    · cases raw with
      | object entries => exact absurd rfl (noObject entries)
      | _ => rfl
    · exact (object _).mpr first

theorem normalize_eq_ok_iff : normalize fields raw = .ok metadata ↔
    (∃ entries, raw = .object entries) ∧
    category fields.props "props" propsOf raw = .ok metadata.props? ∧
    category fields.slots "slots" (·.map (memberOf ["type", "schema"])) raw = .ok metadata.slots? ∧
    category fields.events "events" (·.map (memberOf ["type", "signature", "schema"])) raw =
      .ok metadata.events? ∧
    category fields.exposed "exposed" (·.map (memberOf ["type", "schema"])) raw =
      .ok metadata.exposed? := by
  constructor
  · intro read
    cases raw with
    | object entries =>
      obtain ⟨props?, props, read⟩ := bind_eq_ok_iff.mp read
      obtain ⟨slots?, slots, read⟩ := bind_eq_ok_iff.mp read
      obtain ⟨events?, events, read⟩ := bind_eq_ok_iff.mp read
      obtain ⟨exposed?, exposed, read⟩ := bind_eq_ok_iff.mp read
      cases read
      exact ⟨⟨entries, rfl⟩, props, slots, events, exposed⟩
    | _ => cases read
  · rintro ⟨⟨entries, rfl⟩, props, slots, events, exposed⟩
    simp only [normalize, props, slots, events, exposed]
    rfl

/-- A category that is read if all are chosen is read as it is if it is chosen, and else left out. -/
private theorem category_selected {α : Type} {name : String} {convert : List Described → List α}
    {found? : Option (List α)} (read : category true name convert raw = .ok found?) (chosen : Bool) :
    category chosen name convert raw = .ok (if chosen then found? else none) := by
  cases chosen with
  | false => rfl
  | true => exact read

/-- A description is refused if and only if it is no object or one of the chosen categories is not as it should
be. What is told is then the kind of the value, or what is wrong with the first such category and in it with
the first such item. A description that is understood with all categories is understood with some of them,
and these are read alike. -/
theorem normalize_refused_iff (fields : Fields) (raw : Json) :
    ((∃ fault, normalize fields raw = .error fault) ↔
      (∀ entries, raw ≠ .object entries) ∨ ∃ name ∈ fields.chosen, ¬ WellFormed (raw.get? name)) ∧
    (∀ fault, normalize fields raw = .error fault ↔ Refused fields raw fault) ∧
    ∀ metadata, normalize {} raw = .ok metadata →
      normalize fields raw = .ok (metadata.selected fields) := by
  refine ⟨?_, fun _ => normalize_eq_error_iff, fun metadata read => ?_⟩
  · simp only [normalize_eq_error_iff]
    constructor
    · rintro ⟨fault, noObject | first⟩
      · exact .inl noObject
      · exact .inr (exists_firstBroken_iff.mp ⟨fault, first⟩)
    · rintro (noObject | broken)
      · exact ⟨_, .noObject noObject⟩
      · cases raw with
        | object entries =>
          obtain ⟨fault, first⟩ := exists_firstBroken_iff.mpr broken
          exact ⟨fault, .category first⟩
        | _ => exact ⟨_, .noObject nofun⟩
  · obtain ⟨object, props, slots, events, exposed⟩ := normalize_eq_ok_iff.mp read
    exact normalize_eq_ok_iff.mpr ⟨object, category_selected props _, category_selected slots _,
      category_selected events _, category_selected exposed _⟩

/-- A description with members of all kinds. -/
def mixedDescription : Json :=
  .object [
    ("events", .object [("change", .object [("signature", .string "[to: string]"), ("type", .null)]),
      ("close", .null)]),
    ("exposed", .array []),
    ("props", .array [
      .object [("default", .number (.whole 3)), ("description", .string ""), ("name", .string "size"),
        ("type", .array [.string "s", .number (.whole 2)])],
      .object [("global", .bool true), ("name", .string "key")],
      .object [("name", .string "étage"), ("required", .bool true), ("type", .string "number")],
      .object [("description", .string "How large."), ("name", .string "size"),
        ("required", .string "yes"), ("schema", .string "string"), ("type", .null)],
      .object [("default", .null), ("name", .string "zone"), ("required", .bool true)]]),
    ("slots", .object [("header", .string "any")])]

/-- What is understood of it. -/
def mixedMetadata : Metadata where
  props? := some [⟨"zone", "unknown", true, none, none⟩, ⟨"étage", "number", true, none, none⟩,
    ⟨"size", "[\"s\",2]", false, some "3", none⟩, ⟨"size", "string", false, none, some "How large."⟩]
  slots? := some [⟨"header", "any"⟩]
  events? := some [⟨"change", "[to: string]"⟩, ⟨"close", "unknown"⟩]
  exposed? := some []

theorem normalize_mixedDescription : normalize {} mixedDescription = .ok mixedMetadata := by
  have sorted : ([⟨"size", "[\"s\",2]", false, some "3", none⟩, ⟨"étage", "number", true, none, none⟩,
      ⟨"size", "string", false, none, some "How large."⟩, ⟨"zone", "unknown", true, none, none⟩] :
        List PropInfo).mergeSort propBefore = mixedMetadata.props?.getD [] := by
    simp [List.mergeSort, List.MergeSort.Internal.splitInTwo, propBefore, mixedMetadata]
  exact congrArg (fun props => Except.ok { mixedMetadata with props? := some props }) sorted

/-- A description in which all categories but the props are broken. -/
def brokenDescription : Json :=
  .object [("events", .array [.object [("name", .string "close")], .object [("type", .null)], .null]),
    ("exposed", .string "focus"), ("props", .object []), ("slots", .bool true)]

theorem normalize_refused_iff_mixed :
    normalize {} mixedDescription = .ok mixedMetadata ∧
    normalize ⟨true, false, true, false⟩ mixedDescription =
      .ok { mixedMetadata with slots? := none, exposed? := none } ∧
    normalize ⟨true, false, true, true⟩ brokenDescription = .error (.noName "events") := by
  refine ⟨normalize_mixedDescription,
    (normalize_refused_iff _ _).2.2 _ normalize_mixedDescription, ?_⟩
  refine ((normalize_refused_iff _ _).2.1 _).mpr (.category ⟨["props"], "events", ["exposed"], rfl, ?_, ?_⟩)
  · intro earlier member
    obtain rfl := List.mem_singleton.mp member
    trivial
  · have close : ∀ item ∈ [Json.object [("name", .string "close")]], IsNamed item := by
      intro item member
      obtain rfl := List.mem_singleton.mp member
      exact ⟨_, "close", rfl, rfl⟩
    exact .item close (.nameless nofun)

/-- What is understood of a description: the props that are not global, in order, and all members of the other
categories as they come. -/
structure Conveys (fields : Fields) (raw : Json) (metadata : Metadata) : Prop where
  props : fields.props → ∃ members props, Lists (raw.get? "props") members ∧ metadata.props? = some props ∧
    Arranged ((members.filter (!flag "global" ·.2)).map propOf) props
  slots : Found fields.slots (·.map (memberOf ["type", "schema"])) (raw.get? "slots") metadata.slots?
  events : Found fields.events (·.map (memberOf ["type", "signature", "schema"])) (raw.get? "events")
    metadata.events?
  exposed : Found fields.exposed (·.map (memberOf ["type", "schema"])) (raw.get? "exposed")
    metadata.exposed?

/-- The props of a description are those that are not global, required ones before optional ones and then by the
bytes of their names; those that are alike in both, and the members of the other categories, come as they do in
the description. -/
theorem conveys_of_normalize (read : normalize fields raw = .ok metadata) : Conveys fields raw metadata := by
  obtain ⟨-, props, slots, events, exposed⟩ := normalize_eq_ok_iff.mp read
  rw [category_eq_ok_iff] at props slots events exposed
  refine ⟨fun chosen => ?_, slots, events, exposed⟩
  rw [Found, if_pos chosen] at props
  obtain ⟨members, listed, found⟩ := props
  exact ⟨members, _, listed, found, arranged_mergeSort _⟩

theorem conveys_of_normalize_mixed :
    normalize {} mixedDescription = .ok mixedMetadata ∧ Conveys {} mixedDescription mixedMetadata :=
  ⟨normalize_mixedDescription, conveys_of_normalize normalize_mixedDescription⟩

end ComponentCatalog.Metadata
