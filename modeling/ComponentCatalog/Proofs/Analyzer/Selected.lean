import ComponentCatalog.Proofs.Analyzer.Process
import ComponentCatalog.Proofs.Cache.World
import ComponentCatalog.Proofs.Metadata.Described

/-! # Which categories and types are asked for

The choice of categories and the types that are not to be shown are seen by the analyzer and again where
its description is read. What they leave of a component is nevertheless what all categories with all
types would be cut down to: no category and no type of one member bears on another one, and none bears
on whether the component parses.
-/

namespace ComponentCatalog

open Sfc

namespace Metadata

/-- A type, unless it is one that is not to be shown. -/
def shownType (ignored : List String) (type : String) : String :=
  if ignored.contains type then unknownType else type

/-- The metadata without the types that are not to be shown. -/
def withoutTypes (ignored : List String) (metadata : Metadata) : Metadata :=
  let member (m : MemberInfo) : MemberInfo := { m with type := shownType ignored m.type }
  { props? := metadata.props?.map (List.map fun p => { p with type := shownType ignored p.type })
    slots? := metadata.slots?.map (List.map member)
    events? := metadata.events?.map (List.map member)
    exposed? := metadata.exposed?.map (List.map member) }

@[simp] theorem selected_all (metadata : Metadata) : metadata.selected {} = metadata := rfl

@[simp] theorem withoutTypes_nil (metadata : Metadata) : metadata.withoutTypes [] = metadata := by
  simp [withoutTypes, shownType]

/-- The order of the props is not one of their types. -/
theorem ofInterface_withoutTypes (interface : Interface) (ignored : List String) :
    ofInterface (interface.hiding ignored) = (ofInterface interface).withoutTypes ignored := by
  have sorted (props : List PropInfo) :
      (props.mergeSort propBefore).map (fun p => { p with type := shownType ignored p.type }) =
        (props.map fun p => { p with type := shownType ignored p.type }).mergeSort propBefore :=
    List.map_mergeSort fun _ _ _ _ => rfl
  simp only [ofInterface, withoutTypes, Option.map_some, sorted, Interface.hiding, List.map_map]
  rfl

end Metadata

namespace Cache

/-- The setup with other categories and other types that are not to be shown. -/
def Setup.asking (setup : Setup) (fields : Metadata.Fields) (ignored : List String) : Setup :=
  { setup with fields, checker := { setup.checker with ignore := ignored } }

/-- What an analysis comes to with what the analyzer for component files says of a text. -/
def Analysis.obtained (analysis : Analysis) (setup : Setup) (cache : Cache) (time : Nat)
    (text : String) : Option Outcome :=
  (analysis.answer setup cache time
    (Analyzer.answerOf (Analyzer.builtin (analysis.request setup text)))).2.outcome?

variable (analysis : Analysis) (setup : Setup) (cache : Cache) (time : Nat) (text : String)

private theorem outcome?_described {raw : Json} {metadata : Metadata}
    (reads : Metadata.normalize setup.fields raw = .ok metadata) :
    (analysis.answer setup cache time (.described raw)).2.outcome? = some (.resolved metadata) := by
  simp only [Analysis.answer, Analysis.describe, reads]
  split <;> rfl

/-- For every source, the metadata of a component under any choice of categories, with any types that
are not to be shown, are those under all categories and with all types, with the other categories taken
away and the types replaced. And a component that does not parse does not under any of them, for the
same reason. -/
theorem Analysis.obtained_selected :
    (∃ metadata,
      analysis.obtained (setup.asking {} []) cache time text = some (.resolved metadata) ∧
      ∀ fields ignored, analysis.obtained (setup.asking fields ignored) cache time text =
        some (.resolved ((metadata.withoutTypes ignored).selected fields))) ∨
    ∃ reason, ∀ fields ignored, analysis.obtained (setup.asking fields ignored) cache time text =
      some (.failed ⟨.parse, reason⟩) := by
  cases parsed : interfaceOf setup.checker.forceUseTs text.toList with
  | ok interface =>
    have each fields ignored : analysis.obtained (setup.asking fields ignored) cache time text =
        some (.resolved (((Metadata.ofInterface interface).withoutTypes ignored).selected fields)) := by
      have said : Analyzer.builtin (analysis.request (setup.asking fields ignored) text) =
          .ok (Analyzer.describe fields (interface.hiding ignored)) := by
        simp only [Analyzer.builtin, Analysis.request, Setup.asking, parsed]
      rw [Analysis.obtained, said, Analyzer.answerOf, ← Metadata.ofInterface_withoutTypes]
      exact outcome?_described _ _ _ _ (Metadata.normalize_describe ..)
    refine .inl ⟨Metadata.ofInterface interface, ?_, each⟩
    rw [each, Metadata.withoutTypes_nil, Metadata.selected_all]
  | error fault =>
    refine .inr ⟨fault.message, fun fields ignored => ?_⟩
    have said : Analyzer.builtin (analysis.request (setup.asking fields ignored) text) =
        .error (.parse fault.message) := by
      simp only [Analyzer.builtin, Analysis.request, Setup.asking, parsed]
    rw [Analysis.obtained, said]
    rfl

end Cache

end ComponentCatalog
