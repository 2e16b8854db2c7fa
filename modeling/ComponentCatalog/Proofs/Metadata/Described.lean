import ComponentCatalog.Analyzer.Builtin
import ComponentCatalog.Proofs.Metadata.Members
import ComponentCatalog.Proofs.Order

/-! # Metadata of a described interface

Between what is found in a component file and the metadata of the component stands a description, which is
written on one side and read on the other. What is read are the members that were described, category by
category: the chosen ones with as many members of each name as there are, and nothing of the others. Only the
props are put in another order, by whether they are required and by their names; props that are alike in both
stay in the order in which they were given.
-/

namespace ComponentCatalog

open Sfc Analyzer

namespace Metadata

/-! ## Props in order -/

section Order

open Text

theorem propBefore_iff {a b : PropInfo} :
    propBefore a b ↔ (b.required → a.required) ∧ (a.required = b.required → a.name ≤ b.name) := by
  unfold propBefore
  cases a.required <;> cases b.required <;> simp

theorem propBefore_trans (a b c : PropInfo) (first : propBefore a b) (second : propBefore b c) :
    propBefore a c := by
  rw [propBefore_iff] at *
  obtain ⟨required, named⟩ := first
  obtain ⟨required', named'⟩ := second
  refine ⟨fun last => required (required' last), fun same => ?_⟩
  -- Between two props that are alike only such stand as are alike with them.
  have between : a.required = b.required :=
    Bool.eq_iff_iff.mpr ⟨fun kind => required' (same ▸ kind), required⟩
  exact String.le_trans (named between) (named' (between ▸ same))

theorem propBefore_total (a b : PropInfo) : (propBefore a b || propBefore b a) = true := by
  rw [Bool.or_eq_true, propBefore_iff, propBefore_iff]
  have names := String.le_total a.name b.name
  cases a.required <;> cases b.required <;> simp [names]

/-- Is a prop of this name, and required or not? -/
def PropInfo.isOf (required : Bool) (name : String) (prop : PropInfo) : Bool :=
  prop.required == required && prop.name == name

/-- Props that were given are put in order. -/
structure Arranged (given arranged : List PropInfo) : Prop where
  perm : arranged.Perm given
  required_first : arranged.Pairwise fun a b => b.required → a.required
  by_name : arranged.Pairwise fun a b => a.required = b.required → bytes a.name ≤ bytes b.name
  stable : ∀ required name,
    arranged.filter (PropInfo.isOf required name) = given.filter (PropInfo.isOf required name)

variable (given : List PropInfo)

theorem pairwise_mergeSort_props : (given.mergeSort propBefore).Pairwise (propBefore · ·) :=
  List.pairwise_mergeSort propBefore_trans propBefore_total given

/-- Sorting puts props in order. -/
theorem arranged_mergeSort : Arranged given (given.mergeSort propBefore) := by
  have sorted := pairwise_mergeSort_props given
  simp only [propBefore_iff, ← bytes_le_bytes_iff, List.pairwise_and_iff] at sorted
  refine ⟨List.mergeSort_perm given propBefore, sorted.1, sorted.2, fun required name => ?_⟩
  refine filter_mergeSort propBefore_trans propBefore_total (fun prop other isOf isOf' => ?_) given
  obtain ⟨kind, named⟩ : prop.required = required ∧ prop.name = name := by simpa [PropInfo.isOf] using isOf
  obtain ⟨kind', named'⟩ : other.required = required ∧ other.name = name := by simpa [PropInfo.isOf] using isOf'
  rw [propBefore_iff, kind, kind', named, named']
  exact ⟨id, fun _ => String.le_refl _⟩

end Order

/-! ## Interfaces as metadata -/

/-- A declared prop as metadata show it. -/
def PropInfo.ofDeclared (prop : DeclaredProp) : PropInfo :=
  ⟨prop.name, prop.type, prop.required, prop.default?, none⟩

/-- A slot, an event or an exposed value as metadata show it. -/
def MemberInfo.ofMember (member : Member) : MemberInfo := ⟨member.name, member.type⟩

/-- All that an interface declares. -/
def ofInterface (interface : Interface) : Metadata where
  props? := some ((interface.props.map .ofDeclared).mergeSort propBefore)
  slots? := some (interface.slots.map .ofMember)
  events? := some (interface.events.map .ofMember)
  exposed? := some (interface.exposed.map .ofMember)

/-- The chosen categories alone. -/
def selected (fields : Fields) (metadata : Metadata) : Metadata where
  props? := if fields.props then metadata.props? else none
  slots? := if fields.slots then metadata.slots? else none
  events? := if fields.events then metadata.events? else none
  exposed? := if fields.exposed then metadata.exposed? else none

variable (fields : Fields) (interface : Interface)

/-! ## The categories of a description -/

/-- A category of a description, if it is chosen. -/
private theorem get?_describe :
    (describe fields interface).get? "props" =
        (if fields.props then some (.array (interface.props.map describeProp)) else none) ∧
    (describe fields interface).get? "slots" =
        (if fields.slots then some (.array (interface.slots.map describeMember)) else none) ∧
    (describe fields interface).get? "events" =
        (if fields.events then some (.array (interface.events.map describeMember)) else none) ∧
    (describe fields interface).get? "exposed" =
        (if fields.exposed then some (.array (interface.exposed.map describeMember)) else none) := by
  obtain ⟨props, slots, events, exposed⟩ := fields
  cases props <;> cases slots <;> cases events <;> cases exposed <;> exact ⟨rfl, rfl, rfl, rfl⟩

/-! ## The members of a category -/

private theorem propOf_describeProp (prop : DeclaredProp) :
    propOf (prop.name, describeProp prop) = .ofDeclared prop := by
  obtain ⟨name, type, required, default?⟩ := prop
  cases default? <;> rfl

private theorem propsOf_describeProp (props : List DeclaredProp) :
    propsOf (props.map fun prop => (prop.name, describeProp prop)) =
      (props.map .ofDeclared).mergeSort propBefore := by
  rw [propsOf_of_own fun _ => rfl]
  exact congrArg (List.mergeSort · propBefore) (List.map_congr_left fun prop _ => propOf_describeProp prop)

/-- Reading a description gives what was described, in the chosen categories. -/
theorem normalize_describe :
    normalize fields (describe fields interface) = .ok ((ofInterface interface).selected fields) := by
  obtain ⟨props, slots, events, exposed⟩ := get?_describe fields interface
  obtain ⟨entries, object⟩ : ∃ entries, describe fields interface = .object entries :=
    ⟨_, rfl⟩
  rw [object] at props slots events exposed
  rw [object, normalize, category_of_written propsOf props fun _ => .named rfl,
    category_of_written _ slots fun _ => .named rfl, category_of_written _ events fun _ => .named rfl,
    category_of_written _ exposed fun _ => .named rfl, propsOf_describeProp, map_memberOf rfl fun _ => rfl,
    map_memberOf rfl fun _ => rfl, map_memberOf rfl fun _ => rfl]
  rfl

/-- Metadata show the chosen categories of an interface, with all their members. -/
structure Shows (fields : Fields) (interface : Interface) (metadata : Metadata) : Prop where
  props : if fields.props then
      ∃ props, metadata.props? = some props ∧ Arranged (interface.props.map .ofDeclared) props
    else metadata.props? = none
  slots : metadata.slots? = if fields.slots then some (interface.slots.map .ofMember) else none
  events : metadata.events? = if fields.events then some (interface.events.map .ofMember) else none
  exposed : metadata.exposed? = if fields.exposed then some (interface.exposed.map .ofMember) else none

theorem shows_selected (fields : Fields) (interface : Interface) :
    Shows fields interface ((ofInterface interface).selected fields) := by
  refine ⟨?_, rfl, rfl, rfl⟩
  split
  · next chosen => exact ⟨_, if_pos chosen, arranged_mergeSort _⟩
  · next left => exact if_neg left

end Metadata

/-! ## What the analyzer for component files says -/

namespace Analyzer

open Metadata

/-- Whatever the analyzer says of a component file is understood, and shows the interface of the file. -/
theorem normalize_builtin {request : Request} {raw : Json} (said : builtin request = .ok raw) :
    ∃ interface metadata, interfaceOf request.forceUseTs request.source.toList = .ok interface ∧
      normalize request.fields raw = .ok metadata ∧
      metadata.Shows request.fields (interface.hiding request.ignore) := by
  unfold builtin at said
  split at said
  · next interface found =>
    cases said
    exact ⟨interface, _, found, normalize_describe .., shows_selected ..⟩
  · cases said

/-- A component that declares two props of one name and one without a name. -/
def repeatingRequest : Request where
  path := ⟨"/Card.vue"⟩
  source := "<script setup>defineProps(['b', '', 'b'])</script><template><slot /></template>"
  fields := { exposed := false }
  ignore := ["any"]

/-- What is found in it. -/
def repeatingInterface : Interface where
  props := [⟨"b", "any", false, none⟩, ⟨"", "any", false, none⟩, ⟨"b", "any", false, none⟩]
  slots := [⟨"default", "\x7b\x7d"⟩]

private theorem interfaceOf_repeating :
    interfaceOf false repeatingRequest.source.toList = .ok repeatingInterface := by
  have found : (interfaceOf false repeatingRequest.source.toList).toOption = some repeatingInterface := by
    decide +kernel
  cases came : interfaceOf false repeatingRequest.source.toList with
  | error fault => rw [came] at found; cases found
  | ok interface => rw [came] at found; cases found; rfl

/-- What is said of it. -/
def repeatingRaw : Json :=
  describe repeatingRequest.fields (repeatingInterface.hiding repeatingRequest.ignore)

theorem normalize_builtin_repeating :
    builtin repeatingRequest = .ok repeatingRaw ∧
    ∃ interface metadata,
      interfaceOf repeatingRequest.forceUseTs repeatingRequest.source.toList = .ok interface ∧
      normalize repeatingRequest.fields repeatingRaw = .ok metadata ∧
      metadata.Shows repeatingRequest.fields (interface.hiding repeatingRequest.ignore) := by
  have said : builtin repeatingRequest = .ok repeatingRaw := by
    rw [builtin, show repeatingRequest.forceUseTs = false from rfl, interfaceOf_repeating, repeatingRaw]
  exact ⟨said, normalize_builtin said⟩

end Analyzer

end ComponentCatalog
