import ComponentCatalog.Metadata.Basic
import ComponentCatalog.Proofs.Json.Written

/-! # Metadata as JSON

Metadata are read back from the tree that they are written to, whichever categories are present.
-/

namespace ComponentCatalog

namespace Metadata

open Doc

/-! ## No numbers -/

theorem PropInfo.whole_toJson (prop : PropInfo) : prop.toJson.Whole := by
  obtain ⟨name, type, required, default?, description?⟩ := prop
  cases default? <;> cases description? <;>
    simp [PropInfo.toJson, entry?, Json.Whole, Json.WholeEntries]

theorem MemberInfo.whole_toJson (member : MemberInfo) : member.toJson.Whole := by
  simp [MemberInfo.toJson, Json.Whole, Json.WholeEntries]

theorem whole_toJson (metadata : Metadata) : metadata.toJson.Whole := by
  obtain ⟨props?, slots?, events?, exposed?⟩ := metadata
  have props := Json.wholeItems_map PropInfo.whole_toJson
  have members := Json.wholeItems_map MemberInfo.whole_toJson
  cases props? <;> cases slots? <;> cases events? <;> cases exposed? <;>
    simp [toJson, entry?, membersJson, Json.Whole, Json.WholeEntries, props, members]

/-! ## Nesting -/

theorem PropInfo.within_toJson (prop : PropInfo) : prop.toJson.Within 1 := by
  obtain ⟨name, type, required, default?, description?⟩ := prop
  cases default? <;> cases description? <;>
    simp [PropInfo.toJson, entry?, Json.Within, Json.WithinEntries]

theorem MemberInfo.within_toJson (member : MemberInfo) : member.toJson.Within 1 := by
  simp [MemberInfo.toJson, Json.Within, Json.WithinEntries]

/-- Categories are lists of objects. -/
theorem within_toJson (metadata : Metadata) : metadata.toJson.Within 3 := by
  obtain ⟨props?, slots?, events?, exposed?⟩ := metadata
  have props := Json.withinItems_map PropInfo.within_toJson
  have members := Json.withinItems_map MemberInfo.within_toJson
  cases props? <;> cases slots? <;> cases events? <;> cases exposed? <;>
    simp [toJson, entry?, membersJson, Json.Within, Json.WithinEntries, props, members]

/-! ## Reading -/

variable {depth : Nat}

theorem PropInfo.decoder_toJson (prop : PropInfo) (shallow : depth < depthLimit) :
    PropInfo.decoder (ofJson depth prop.toJson) = .ok prop := by
  obtain ⟨name, type, required, default?, description?⟩ := prop
  rw [PropInfo.toJson, ofJson, atDepth_of_lt shallow]
  cases default? <;> cases description? <;> rfl

theorem MemberInfo.decoder_toJson (category : String) (member : MemberInfo)
    (shallow : depth < depthLimit) :
    MemberInfo.decoder category (ofJson depth member.toJson) = .ok member := by
  rw [MemberInfo.toJson, ofJson, atDepth_of_lt shallow]
  rfl

theorem Fields.decoder_toJson (fields : Fields) (shallow : depth < depthLimit) :
    Fields.decoder (ofJson depth fields.toJson) = .ok fields := by
  rw [Fields.toJson, ofJson, atDepth_of_lt shallow]
  rfl

/-- A category that is present is read as the list of its members. -/
private theorem optional_list {α : Type} {decoder : Decoder α} {write : α → Json}
    (reads : ∀ value, decoder (ofJson (depth + 1) (write value)) = .ok value)
    (shallow : depth < depthLimit) (values : List α) :
    Doc.optional (Doc.list decoder) (ofJson depth (.array (values.map write))) =
      .ok (some values) := by
  have list := list_ofJson shallow fun value (_ : value ∈ values) => reads value
  rw [ofJson, atDepth_of_lt shallow] at list ⊢
  rw [Doc.optional, list]
  · rfl
  · simp

theorem decoder_toJson (metadata : Metadata) (shallow : depth + 2 < depthLimit) :
    decoder (ofJson depth metadata.toJson) = .ok metadata := by
  have props := optional_list
    (fun prop => PropInfo.decoder_toJson prop shallow) (by omega)
  have members (category : String) := optional_list
    (fun member => MemberInfo.decoder_toJson category member shallow) (by omega)
  obtain ⟨props?, slots?, events?, exposed?⟩ := metadata
  rw [toJson, ofJson, atDepth_of_lt (by omega)]
  cases props? <;> cases slots? <;> cases events? <;> cases exposed? <;>
    simp [decoder, entry?, ofEntries, record, readEntriesInto, field, asString, text, missing?,
      membersJson, props, members, bind, Except.bind, pure, Except.pure, stopAt]

end Metadata

end ComponentCatalog
