import ComponentCatalog.Proofs.Json.Value
import ComponentCatalog.Proofs.Metadata.Json
import ComponentCatalog.Proofs.Metadata.Understood

/-! # Metadata that are read again

Metadata that come from a description are in a form that reading keeps: the props stand in their order, and none
has an empty description. So their own encoding is a description of them, both as the tree that is written
and as what is read from its text, in which the keys are in another order.
-/

namespace ComponentCatalog

namespace Metadata

variable {fields : Fields} {raw : Json} {metadata : Metadata}

/-! ## The form in which metadata are read -/

/-- Metadata are in the form in which they are read with some categories. -/
structure Settled (fields : Fields) (metadata : Metadata) : Prop where
  props : metadata.props?.isSome = fields.props
  slots : metadata.slots?.isSome = fields.slots
  events : metadata.events?.isSome = fields.events
  exposed : metadata.exposed?.isSome = fields.exposed
  sorted : ∀ props ∈ metadata.props?, props.Pairwise (propBefore · ·)
  described : ∀ props ∈ metadata.props?, ∀ prop ∈ props, prop.description? ≠ some ""

private theorem isSome_of_found {α : Type} {chosen : Bool} {convert : List Described → List α}
    {value : Option Json} {found? : Option (List α)} (found : Found chosen convert value found?) :
    found?.isSome = chosen := by
  cases chosen with
  | false => rw [show found? = none from found]; rfl
  | true => obtain ⟨members, -, rfl⟩ := found; rfl

private theorem description?_propOf (member : Described) : (propOf member).description? ≠ some "" := by
  intro empty
  obtain ⟨-, kept⟩ := Option.filter_eq_some_iff.mp empty
  simp at kept

theorem settled_of_normalize (read : normalize fields raw = .ok metadata) : Settled fields metadata := by
  obtain ⟨-, props, slots, events, exposed⟩ := normalize_eq_ok_iff.mp read
  rw [category_eq_ok_iff] at props slots events exposed
  have given : ∀ props ∈ metadata.props?, ∃ members, props = propsOf members := by
    intro found member
    rw [Option.mem_def] at member
    unfold Found at props
    split at props
    · obtain ⟨members, -, same⟩ := props
      exact ⟨members, Option.some.inj (member.symm.trans same)⟩
    · cases member.symm.trans props
  refine ⟨isSome_of_found props, isSome_of_found slots, isSome_of_found events,
    isSome_of_found exposed, fun found member => ?_, fun found member prop listed => ?_⟩
  · obtain ⟨members, rfl⟩ := given found member
    exact pairwise_mergeSort_props _
  · obtain ⟨members, rfl⟩ := given found member
    obtain ⟨described, -, rfl⟩ := List.mem_map.mp (List.mem_mergeSort.mp listed)
    exact description?_propOf described

/-! ## Encodings -/

/-- A prop is written as an object with these values. -/
structure PropInfo.WrittenAs (prop : PropInfo) (json : Json) : Prop where
  object : ∃ entries, json = .object entries
  name : json.get? "name" = some (.string prop.name)
  type : json.get? "type" = some (.string prop.type)
  required : json.get? "required" = some (.bool prop.required)
  default : json.get? "default" = prop.default?.map .string
  description : json.get? "description" = prop.description?.map .string
  global : json.get? "global" = none

/-- A slot, an event or an exposed value is written as an object with these values. -/
structure MemberInfo.WrittenAs (member : MemberInfo) (json : Json) : Prop where
  object : ∃ entries, json = .object entries
  name : json.get? "name" = some (.string member.name)
  type : json.get? "type" = some (.string member.type)

private theorem item_of_name {json : Json} {name : String} (object : ∃ entries, json = .object entries)
    (found : json.get? "name" = some (.string name)) : Item json (name, json) := by
  obtain ⟨entries, rfl⟩ := object
  exact .named found

theorem PropInfo.WrittenAs.propOf_eq {prop : PropInfo} {json : Json} (written : prop.WrittenAs json)
    (described : prop.description? ≠ some "") : propOf (prop.name, json) = prop := by
  obtain ⟨name, type, required, default?, description?⟩ := prop
  have spoken : (description?.map Json.string).bind text? = description? := by cases description? <;> rfl
  have given : (default?.map Json.string).bind valueText = default? := by cases default? <;> rfl
  have kept : description?.filter (!·.isEmpty) = description? := by
    cases description? with
    | none => rfl
    | some text => simpa using described
  simp [propOf, typeText, flag, written.type, written.required, written.default, written.description,
    valueText, spoken, given, kept]

/-- Metadata are written as an object with the categories that are present. -/
structure WrittenAs (writeProp : PropInfo → Json) (writeMember : MemberInfo → Json)
    (metadata : Metadata) (json : Json) : Prop where
  object : ∃ entries, json = .object entries
  props : json.get? "props" = metadata.props?.map fun props => .array (props.map writeProp)
  slots : json.get? "slots" = metadata.slots?.map fun slots => .array (slots.map writeMember)
  events : json.get? "events" = metadata.events?.map fun events => .array (events.map writeMember)
  exposed : json.get? "exposed" = metadata.exposed?.map fun exposed => .array (exposed.map writeMember)
  each_prop : ∀ prop : PropInfo, prop.WrittenAs (writeProp prop)
  each_member : ∀ member : MemberInfo, member.WrittenAs (writeMember member)

/-! ## Reading an encoding -/

section Reading

variable {writeProp : PropInfo → Json} {writeMember : MemberInfo → Json}

private theorem category_of_present {α : Type} {title : α → String} {write : α → Json} {chosen : Bool}
    {name : String} {convert : List Described → List α} {found? : Option (List α)}
    (present : found?.isSome = chosen)
    (there : raw.get? name = found?.map fun members => .array (members.map write))
    (items : ∀ member, Item (write member) (title member, write member))
    (converts : ∀ members ∈ found?,
      convert (members.map fun member => (title member, write member)) = members) :
    category chosen name convert raw = .ok found? := by
  subst present
  cases found? with
  | none => rfl
  | some members =>
    rw [category_of_written convert there items, converts members rfl]
    rfl

private theorem propsOf_written {props : List PropInfo}
    (each : ∀ prop : PropInfo, prop.WrittenAs (writeProp prop))
    (sorted : props.Pairwise (propBefore · ·)) (described : ∀ prop ∈ props, prop.description? ≠ some "") :
    propsOf (props.map fun prop => (prop.name, writeProp prop)) = props := by
  have own (prop : PropInfo) : flag "global" (writeProp prop) = false := by
    rw [flag, (each prop).global]
  have converted : (props.map fun prop => propOf (prop.name, writeProp prop)) = props := by
    refine (List.map_congr_left fun prop listed => ?_).trans (List.map_id props)
    exact (each prop).propOf_eq (described prop listed)
  rw [propsOf_of_own own, converted, List.mergeSort_of_pairwise sorted]

private theorem memberOf_written {keys : List String} (typed : keys.head? = some "type")
    (each : ∀ member : MemberInfo, member.WrittenAs (writeMember member)) (members : List MemberInfo) :
    (members.map fun member => (member.name, writeMember member)).map (memberOf keys) = members :=
  (map_memberOf typed fun member => (each member).type).trans (List.map_id members)

theorem Settled.normalize_written (settled : Settled fields metadata)
    (written : metadata.WrittenAs writeProp writeMember raw) : normalize fields raw = .ok metadata := by
  have props (prop : PropInfo) : Item (writeProp prop) (prop.name, writeProp prop) :=
    item_of_name (written.each_prop prop).object (written.each_prop prop).name
  have members (member : MemberInfo) : Item (writeMember member) (member.name, writeMember member) :=
    item_of_name (written.each_member member).object (written.each_member member).name
  exact normalize_eq_ok_iff.mpr ⟨written.object,
    category_of_present settled.props written.props props fun found listed =>
      propsOf_written written.each_prop (settled.sorted found listed) (settled.described found listed),
    category_of_present settled.slots written.slots members fun found _ =>
      memberOf_written rfl written.each_member found,
    category_of_present settled.events written.events members fun found _ =>
      memberOf_written rfl written.each_member found,
    category_of_present settled.exposed written.exposed members fun found _ =>
      memberOf_written rfl written.each_member found⟩

end Reading

/-! ## The tree and the text -/

theorem PropInfo.writtenAs_toJson (prop : PropInfo) : prop.WrittenAs prop.toJson := by
  obtain ⟨name, type, required, default?, description?⟩ := prop
  refine ⟨⟨_, rfl⟩, rfl, rfl, rfl, ?_, ?_, ?_⟩ <;> cases default? <;> cases description? <;> rfl

theorem MemberInfo.writtenAs_toJson (member : MemberInfo) : member.WrittenAs member.toJson :=
  ⟨⟨_, rfl⟩, rfl, rfl⟩

theorem writtenAs_toJson (metadata : Metadata) :
    metadata.WrittenAs PropInfo.toJson MemberInfo.toJson metadata.toJson := by
  obtain ⟨props?, slots?, events?, exposed?⟩ := metadata
  refine ⟨⟨_, rfl⟩, ?_, ?_, ?_, ?_, PropInfo.writtenAs_toJson, MemberInfo.writtenAs_toJson⟩ <;>
    cases props? <;> cases slots? <;> cases events? <;> cases exposed? <;> rfl

section Sorted

variable {entries : List (String × Json)} (distinct : (entries.map Prod.fst).Nodup)
include distinct

private theorem PropInfo.WrittenAs.sorted {prop : PropInfo} (written : prop.WrittenAs (.object entries)) :
    prop.WrittenAs (Json.object entries).sorted := by
  refine ⟨⟨_, rfl⟩, ?_, ?_, ?_, ?_, ?_, ?_⟩ <;> rw [Json.get?_sorted distinct]
  · rw [written.name]; rfl
  · rw [written.type]; rfl
  · rw [written.required]; rfl
  · rw [written.default]; cases prop.default? <;> rfl
  · rw [written.description]; cases prop.description? <;> rfl
  · rw [written.global]; rfl

private theorem MemberInfo.WrittenAs.sorted {member : MemberInfo}
    (written : member.WrittenAs (.object entries)) : member.WrittenAs (Json.object entries).sorted := by
  refine ⟨⟨_, rfl⟩, ?_, ?_⟩ <;> rw [Json.get?_sorted distinct]
  · rw [written.name]; rfl
  · rw [written.type]; rfl

end Sorted

theorem writtenAs_sorted (metadata : Metadata) :
    metadata.WrittenAs (·.toJson.sorted) (·.toJson.sorted) metadata.toJson.sorted := by
  -- The keys of all that is written are distinct, so sorting moves no value to another key.
  have each_prop (prop : PropInfo) : prop.WrittenAs prop.toJson.sorted := by
    refine prop.writtenAs_toJson.sorted ?_
    obtain ⟨name, type, required, default?, description?⟩ := prop
    cases default? <;> cases description? <;> simp [ entry?]
  have each_member (member : MemberInfo) : member.WrittenAs member.toJson.sorted :=
    member.writtenAs_toJson.sorted (by simp)
  have distinct : (List.map Prod.fst <|
      entry? "props" (fun props => .array (props.map PropInfo.toJson)) metadata.props? ++
      entry? "slots" membersJson metadata.slots? ++ entry? "events" membersJson metadata.events? ++
      entry? "exposed" membersJson metadata.exposed?).Nodup := by
    obtain ⟨props?, slots?, events?, exposed?⟩ := metadata
    cases props? <;> cases slots? <;> cases events? <;> cases exposed? <;> simp [ entry?]
  have list {α : Type} (write : α → Json) (found? : Option (List α)) :
      (found?.map fun members => Json.array (members.map write)).map Json.sorted =
        found?.map fun members => .array (members.map fun member => (write member).sorted) := by
    cases found? <;> simp [Json.sorted, Json.sortedItems_map]
  have written := writtenAs_toJson metadata
  refine ⟨⟨_, rfl⟩, ?_, ?_, ?_, ?_, each_prop, each_member⟩ <;>
    rw [toJson, Json.get?_sorted distinct, ← toJson, ← list]
  · rw [written.props]
  · rw [written.slots]
  · rw [written.events]
  · rw [written.exposed]

/-- The encoding of metadata that were read is read again as the same metadata with the same categories. So is
what a reader gets from the text of the encoding, with or without blanks. -/
theorem normalize_encoding (read : normalize fields raw = .ok metadata) :
    normalize fields metadata.toJson = .ok metadata ∧
    ∀ text ∈ [metadata.toJson.compact, metadata.toJson.indented],
      ∃ again, Json.parse text = .ok again ∧ normalize fields again = .ok metadata := by
  have settled := settled_of_normalize read
  refine ⟨settled.normalize_written (writtenAs_toJson metadata), fun text member => ?_⟩
  refine ⟨metadata.toJson.sorted, ?_, settled.normalize_written (writtenAs_sorted metadata)⟩
  have whole := metadata.whole_toJson
  have within := metadata.within_toJson
  have written : Json.parseWritten text = .ok metadata.toJson := by
    rcases List.mem_pair.mp member with rfl | rfl
    · exact Json.parseWritten_compact whole within (by decide)
    · exact Json.parseWritten_indented whole within (by decide)
  rw [Json.parse_eq_sorted, written]
  rfl

theorem normalize_encoding_mixed :
    normalize {} mixedDescription = .ok mixedMetadata ∧
    normalize {} mixedMetadata.toJson = .ok mixedMetadata ∧
    ∀ text ∈ [mixedMetadata.toJson.compact, mixedMetadata.toJson.indented],
      ∃ again, Json.parse text = .ok again ∧ normalize {} again = .ok mixedMetadata :=
  ⟨normalize_mixedDescription, normalize_encoding normalize_mixedDescription⟩

end Metadata

end ComponentCatalog
