import ComponentCatalog.Proofs.Engine.Publisher
import ComponentCatalog.Proofs.Engine.Queried
import ComponentCatalog.Proofs.Metadata.Json

/-! # What is published reads alike everywhere

The module and the file hold the records with each on lines of its own, a query answers without blanks and
perhaps with one record alone. Whatever the metadata and the failures say, all of these read as the same
object, which has the components in the order of the snapshot.
-/

namespace ComponentCatalog

open Component

/-! ## Records are read back -/

theorem Outcome.whole_entry (outcome : Outcome) : outcome.entry.2.Whole := by
  cases outcome with
  | resolved metadata => exact metadata.whole_toJson
  | failed failure => exact ⟨trivial, trivial, trivial⟩

theorem Outcome.within_entry (outcome : Outcome) : outcome.entry.2.Within 3 := by
  cases outcome with
  | resolved metadata => exact metadata.within_toJson
  | failed failure => exact ⟨by decide, trivial, trivial, trivial⟩

theorem Record.whole_toJson (record : Record) : record.toJson.Whole :=
  ⟨trivial, trivial, trivial, trivial, trivial, trivial, record.outcome.whole_entry, trivial⟩

theorem Record.within_toJson (record : Record) : record.toJson.Within 4 :=
  ⟨by decide, trivial, trivial, trivial, trivial, trivial, trivial, record.outcome.within_entry, trivial⟩

namespace RecordSet

theorem whole_toJson (records : RecordSet) : records.toJson.Whole := by
  change Json.WholeEntries _
  induction records with
  | nil => exact trivial
  | cons item rest ih => exact ⟨item.2.whole_toJson, ih⟩

theorem within_toJson (records : RecordSet) : records.toJson.Within 5 := by
  refine ⟨by decide, ?_⟩
  induction records with
  | nil => exact trivial
  | cons item rest ih => exact ⟨item.2.within_toJson, ih⟩

/-- Under a name the object has the record of that name. -/
theorem get?_toJson (records : RecordSet) (name : String) :
    records.toJson.get? name = (Table.get? records name).map Record.toJson := by
  change List.lookup name _ = _
  induction records with
  | nil => rfl
  | cons item rest ih =>
    rw [List.map_cons, List.lookup_cons, Table.get?, ih]
    by_cases here : item.1 = name
    · simp [here]
    · have apart : (name == item.1) = false := beq_false_of_ne (Ne.symm here)
      simp [here, apart]

end RecordSet

namespace Engine

/-- The name of a published component, taken as a query, is answered with its record. -/
theorem query_published {engine : Engine} (named : Snapshot.Named engine.published.components)
    {name : String} (published : name ∈ engine.published.names) :
    ∃ record, Table.get? engine.records name = some record ∧
      engine.query (some name) = .ok record.toJson.compact := by
  obtain ⟨⟨name, entry⟩, member, rfl⟩ := List.mem_map.mp published
  have display := named.display _ member
  have listed : (name, Record.ofEntry engine.rootDir name entry) ∈ engine.records :=
    List.mem_map_of_mem member
  obtain ⟨record, found⟩ := Option.isSome_iff_exists.mp (Table.isSome_get?_of_mem listed)
  have spells : Spells name name := ⟨[], [], name, [], [], by simp, by simp, by simp, by simp,
    .inl rfl, .inl rfl⟩
  have answer : engine.records.lookup (some name) = .one record := by
    rw [RecordSet.lookup_eq_one_iff (not_blank_of_spells display spells),
      queriedName_of_spells display spells]
    exact found
  refine ⟨record, found, ?_⟩
  rw [query, RecordSet.queryText, answer]
  rfl

/-- Whatever is published of components with display names, the module behind its first words and before
its last line end, the file beside it and the answer to a query for all read as one object. Its keys are the
names in the order of the snapshot, and the answer to a query for one of them reads as what the object has
there. -/
theorem texts_read_alike {engine : Engine} (named : Snapshot.Named engine.published.components) :
    let object := engine.records.toJson
    (∃ members, object = .object members ∧ members.map Prod.fst = engine.published.names ∧
      (members.map Prod.fst).Nodup) ∧
    (∃ body, engine.records.moduleText = "export default " ++ body ++ "\n" ∧
      Json.parseWritten body = .ok object) ∧
    (∀ dir, engine.outputDir? = some dir → ∃ file, engine.outputs =
        [(dir.join moduleFile, engine.records.moduleText), (dir.join jsonFile, file)] ∧
      Doc.decodeBytes Doc.written file.toUTF8 = .ok object) ∧
    (∃ all, engine.query none = .ok all ∧ Json.parseWritten all = .ok object) ∧
    ∀ name ∈ engine.published.names, ∃ one value, engine.query (some name) = .ok one ∧
      Json.parseWritten one = .ok value ∧ object.get? name = some value := by
  intro object
  have lines : Json.parseWritten engine.records.text = .ok object :=
    Json.parseWritten_indented engine.records.whole_toJson engine.records.within_toJson (by decide)
  have tight : Json.parseWritten object.compact = .ok object :=
    Json.parseWritten_compact engine.records.whole_toJson engine.records.within_toJson (by decide)
  refine ⟨⟨engine.records.map fun item => (item.1, item.2.toJson), rfl, ?_⟩,
    ⟨engine.records.text, rfl, lines⟩, ?_, ⟨object.compact, rfl, tight⟩, ?_⟩
  · have keys : (engine.records.map fun item => (item.1, item.2.toJson)).map Prod.fst =
        engine.published.names := by
      simp [records, RecordSet.ofSnapshot, Snapshot.names, Function.comp_def]
    exact ⟨keys, keys ▸ named.nodup⟩
  · intro dir out
    exact ⟨engine.records.text, outputs_eq out, (Doc.decodeBytes_toUTF8 _).trans lines⟩
  · intro name published
    obtain ⟨record, found, answer⟩ := query_published named published
    refine ⟨record.toJson.compact, record.toJson, answer, ?_, ?_⟩
    · exact Json.parseWritten_compact record.whole_toJson record.within_toJson (by decide)
    · rw [RecordSet.get?_toJson, found]
      rfl

/-- An engine that published a component with quotes, a line end and an empty text in its metadata, and one
whose failure has a control character in its reason. -/
def quoting : Engine :=
  { bareEngine with
    outputDir? := some ⟨"/out"⟩
    published := ⟨1, 2, [
      ("Menu", ⟨⟨"Menu", ⟨"/Menu.vue"⟩, true⟩, .resolved, .resolved
        { props? := some [⟨"size", "\"s\" | \"m\"", true, none, some ""⟩], slots? := some [] }⟩),
      ("Card", ⟨⟨"Card", ⟨"C:\\Card.vue"⟩, false⟩, .error, .failed ⟨.parse, "line 1\n\u0001ü"⟩⟩)]⟩ }

/-- Its file reads as the object that the query for all answers, with the components in their order, and the
answer for one of them reads as its part of that. -/
theorem texts_read_alike_quoting :
    Snapshot.Named quoting.published.components ∧
    (∃ members, quoting.records.toJson = .object members ∧ members.map Prod.fst = ["Menu", "Card"]) ∧
    (∃ file, (Path.join ⟨"/out"⟩ jsonFile, file) ∈ quoting.outputs ∧
      Doc.decodeBytes Doc.written file.toUTF8 = .ok quoting.records.toJson) ∧
    ∃ one value, quoting.query (some "Card") = .ok one ∧ Json.parseWritten one = .ok value ∧
      quoting.records.toJson.get? "Card" = some value := by
  have named : Snapshot.Named quoting.published.components :=
    ⟨by decide, by decide, by decide⟩
  obtain ⟨⟨members, object, keys, -⟩, -, written, -, parts⟩ := texts_read_alike named
  obtain ⟨file, outputs, read⟩ := written ⟨"/out"⟩ rfl
  exact ⟨named, ⟨members, object, keys⟩, ⟨file, by simp [outputs], read⟩, parts "Card" (by decide)⟩

end Engine

end ComponentCatalog
