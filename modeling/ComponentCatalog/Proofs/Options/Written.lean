import ComponentCatalog.Options.Json
import ComponentCatalog.Proofs.Metadata.Json
import Mathlib.Data.List.Basic

/-! # Options as they are written

Options are written as a text that is read back. Every option is in it, an absent one as null, so that none is
left to its default. A step and an analyzer say first which kind they are of, and are then read from what
stands behind that. So the options that are read are those that were written, however the text is laid out;
and they are taken just if they are valid, which is what was checked of them before.

The digest of options is made from a shorter text. The categories that are computed, the steps that change
sources, the way in which components are checked and the analyzer are in it, each written so that its value
tells it, and nothing else is.
-/

namespace ComponentCatalog

theorem Metadata.Fields.toJson_injective : Function.Injective Metadata.Fields.toJson := by
  rintro ⟨_, _, _, _⟩ ⟨_, _, _, _⟩ same
  simpa [Metadata.Fields.toJson] using same

theorem Metadata.Fields.whole_toJson (fields : Metadata.Fields) : fields.toJson.Whole := by
  simp [Metadata.Fields.toJson, Json.Whole, Json.WholeEntries]

private theorem Json.optionalString_injective : Function.Injective Json.optionalString := by
  rintro (_ | _) (_ | _) same <;> simp_all [Json.optionalString]

private theorem Json.strings_injective : Function.Injective Json.strings := by
  have texts : Function.Injective Json.string := fun _ _ => Json.string.inj
  exact fun _ _ same => texts.list_map (Json.array.inj same)

theorem Json.whole_strings (texts : List String) : (Json.strings texts).Whole :=
  Json.wholeItems_map (fun text => show (Json.string text).Whole from trivial) texts

namespace Options

theorem StepConfig.toJson_injective : Function.Injective StepConfig.toJson := by
  rintro (_ | ⟨name?, pattern, replacement⟩) (_ | ⟨name'?, pattern', replacement'⟩) same
  · rfl
  · simp [toJson] at same
  · simp [toJson] at same
  · simp only [toJson, Json.object.injEq, List.cons.injEq, Prod.mk.injEq, Json.string.injEq, true_and,
      and_true] at same
    rw [Json.optionalString_injective same.1, same.2.1, same.2.2]

theorem Checker.toJson_injective : Function.Injective Checker.toJson := by
  rintro ⟨_, _, _⟩ ⟨_, _, _⟩ same
  simp only [toJson, Json.object.injEq, List.cons.injEq, Prod.mk.injEq, Json.bool.injEq, true_and,
    and_true] at same
  rw [same.1, same.2.1, Json.strings_injective same.2.2]

theorem AnalyzerConfig.toJson_injective : Function.Injective AnalyzerConfig.toJson := by
  rintro (_ | ⟨program, args⟩) (_ | ⟨program', args'⟩) same
  · rfl
  · simp [toJson] at same
  · simp [toJson] at same
  · simp only [toJson, Json.object.injEq, List.cons.injEq, Prod.mk.injEq, Json.string.injEq, true_and,
      and_true] at same
    rw [same.1, Json.strings_injective same.2]

/-! ## Numbers

All numbers that options are written with are whole ones.
-/

theorem StepConfig.whole_toJson (step : StepConfig) : step.toJson.Whole := by
  cases step with
  | contentSlot => simp [toJson, Json.Whole, Json.WholeEntries]
  | replace name? pattern replacement =>
    cases name? <;> simp [toJson, Json.optionalString, Json.Whole, Json.WholeEntries]

theorem AnalyzerConfig.whole_toJson (analyzer : AnalyzerConfig) : analyzer.toJson.Whole := by
  cases analyzer <;> simp [toJson, Json.Whole, Json.WholeEntries, Json.whole_strings]

theorem Checker.whole_toJson (checker : Checker) : checker.toJson.Whole := by
  simp [toJson, Json.Whole, Json.WholeEntries, Json.whole_strings]

theorem whole_keyJson (options : Options) : options.keyJson.Whole := by
  have steps := Json.wholeItems_map StepConfig.whole_toJson options.transformers
  exact ⟨options.metaFields.whole_toJson, steps, options.checkerOptions.whole_toJson,
    options.analyzer.whole_toJson, trivial⟩

/-! ## What the digest is made from -/

variable {options other : Options}

/-- The text of what results depend on tells it. -/
theorem keyText_inj (same : options.keyText = other.keyText) :
    options.metaFields = other.metaFields ∧ options.transformers = other.transformers ∧
      options.checkerOptions = other.checkerOptions ∧ options.analyzer = other.analyzer := by
  have json := Doc.compact_inj options.whole_keyJson other.whole_keyJson same
  simp only [keyJson, Json.object.injEq, List.cons.injEq, Prod.mk.injEq, Json.array.injEq, true_and,
    and_true] at json
  obtain ⟨fields, steps, checker, analyzer⟩ := json
  exact ⟨Metadata.Fields.toJson_injective fields, StepConfig.toJson_injective.list_map steps,
    Checker.toJson_injective checker, AnalyzerConfig.toJson_injective analyzer⟩

/-- The bytes that the digest of options is made from are the same if and only if the options agree in these
four, whatever else they say. -/
theorem digested_eq_iff :
    options.keyText.toUTF8 = other.keyText.toUTF8 ↔
      options.metaFields = other.metaFields ∧ options.transformers = other.transformers ∧
        options.checkerOptions = other.checkerOptions ∧ options.analyzer = other.analyzer := by
  constructor
  · intro same
    exact keyText_inj (String.toByteArray_inj.mp same)
  · rintro ⟨fields, steps, checker, analyzer⟩
    rw [keyText, keyText, keyJson, keyJson, fields, steps, checker, analyzer]

end Options

/-! ## Choices between records -/

namespace Doc

variable {α : Type} {tag kind : String} {variants : List (Variant α)} {variant : Variant α}
  {entries : List (String × Json)} {depth room : Nat}

/-- Entries of other keys are kept for the record that was chosen before. -/
private theorem splitTag_others (variants : List (Variant α)) (variant : Variant α)
    (other : ∀ entry ∈ entries, entry.1 ≠ tag) (within : Json.WithinEntries room entries)
    (shallow : depth + room ≤ depthLimit) :
    splitTag tag variants (ofEntries depth entries) (some variant) =
      .ok (some variant, ofEntries depth entries) := by
  induction entries with
  | nil => rfl
  | cons entry rest ih =>
    obtain ⟨key, item⟩ := entry
    rw [List.forall_mem_cons] at other
    have named : asString (.string key) = .ok key := rfl
    have read : (ofJson depth item).value = .ok item.sorted := by
      rw [value_eq_sorted, written_ofJson item depth room within.1 shallow]
      rfl
    simp only [ofEntries, splitTag, named, beq_eq_false_iff_ne.mpr other.1, read,
      ih other.2 within.2, bind, Except.bind, pure, Except.pure, Bool.false_eq_true, if_false]

/-- An object that says first of which kind it is, is read as a record of that kind, from what is behind. -/
theorem choice_ofJson (name : String) (found : variants.find? (·.name == kind) = some variant)
    (other : ∀ entry ∈ entries, entry.1 ≠ tag) (within : Json.WithinEntries room entries)
    (shallow : depth + 1 + room ≤ depthLimit) :
    choice name tag variants (ofJson depth (.object ((tag, .string kind) :: entries))) =
      variant.read (.object (ofEntries (depth + 1) entries) none) := by
  have tagged : asString (.string tag) = .ok tag := rfl
  have chosen : variantNamed variants (ofJson (depth + 1) (.string kind)) = .ok variant := by
    have named : text "variant identifier" (ofJson (depth + 1) (.string kind)) = .ok kind := rfl
    simp only [variantNamed, named, found, bind, Except.bind, pure, Except.pure]
  have kept := splitTag_others variants variant other within shallow
  rw [ofJson, atDepth_of_lt (by omega), choice, ofEntries]
  simp only [splitTag, tagged, beq_self_eq_true, if_true, chosen, kept, stopAt, bind, Except.bind,
    Option.isSome_none, Bool.false_eq_true, if_false]

end Doc

namespace Options

open Doc

variable {depth : Nat}

/-! ## The parts of options -/

private theorem list_strings (texts : List String) (shallow : depth < depthLimit) :
    Doc.list asString (ofJson depth (.strings texts)) = .ok texts :=
  list_ofJson shallow fun _ _ => rfl

private theorem within_strings (texts : List String) : (Json.strings texts).Within 1 :=
  ⟨Nat.one_pos, Json.withinItems_map (fun text => show (Json.string text).Within 0 from trivial) texts⟩

private theorem optional_path (path? : Option Path) :
    Doc.optional pathDecoder (ofJson depth (optionalPath path?)) = .ok path? := by
  cases path? <;> rfl

theorem StepConfig.decoder_toJson (step : StepConfig) (shallow : depth < depthLimit) :
    decoder (ofJson depth step.toJson) = .ok step := by
  cases step with
  | contentSlot =>
    rw [toJson, ofJson, atDepth_of_lt shallow]
    rfl
  | replace name? pattern replacement =>
    have within : Json.WithinEntries 0 [("name", .optionalString name?), ("pattern", .string pattern),
        ("replacement", .string replacement)] := by
      cases name? <;> simp [Json.WithinEntries, Json.Within, Json.optionalString]
    rw [decoder, toJson, choice_ofJson _ rfl (by simp) within (by omega)]
    cases name? <;> rfl

theorem AnalyzerConfig.decoder_toJson (analyzer : AnalyzerConfig) (shallow : depth + 1 < depthLimit) :
    decoder (ofJson depth analyzer.toJson) = .ok analyzer := by
  cases analyzer with
  | builtin =>
    rw [toJson, ofJson, atDepth_of_lt (by omega)]
    rfl
  | command program args =>
    have within : Json.WithinEntries 1 [("program", .string program), ("args", .strings args)] :=
      ⟨trivial, within_strings args, trivial⟩
    have read : asString (ofJson (depth + 1) (.string program)) = .ok program := rfl
    have list := list_strings args shallow
    rw [decoder, toJson, choice_ofJson _ rfl (by simp) within (by omega)]
    simp only [variantRecord, record, ofEntries]
    rw [readEntriesInto_cons rfl rfl read, readEntriesInto_cons rfl rfl list]
    rfl

theorem Checker.decoder_toJson (checker : Checker) (shallow : depth + 2 < depthLimit) :
    decoder (ofJson depth checker.toJson) = .ok checker := by
  have flag (b : Bool) : asBool (ofJson (depth + 1) (.bool b)) = .ok b := rfl
  have schema : schemaDecoder (ofJson (depth + 1) (.object [("ignore", .strings checker.ignore)])) =
      .ok checker.ignore := by
    have list := list_strings checker.ignore shallow
    rw [ofJson, atDepth_of_lt (by omega), schemaDecoder, record]
    simp only [ofEntries]
    rw [readEntriesInto_cons rfl rfl list]
    rfl
  rw [toJson, ofJson, atDepth_of_lt (by omega), decoder, record]
  simp only [ofEntries]
  rw [readEntriesInto_cons rfl rfl (flag checker.forceUseTs),
    readEntriesInto_cons rfl rfl (flag checker.strict), readEntriesInto_cons rfl rfl schema]
  rfl

/-! ## All options -/

variable {options : Options}

theorem whole_toJson (fits : options.analyzerTimeoutMs ≤ greatestWord) : options.toJson.Whole := by
  have path (path? : Option Path) : (optionalPath path?).Whole := by cases path? <;> exact trivial
  have steps := Json.wholeItems_map StepConfig.whole_toJson options.transformers
  have time : FitsWord options.analyzerTimeoutMs := ⟨by omega, by exact_mod_cast fits⟩
  exact ⟨trivial, path _, path _, Json.whole_strings _, trivial, Json.whole_strings _,
    options.metaFields.whole_toJson, steps, options.checkerOptions.whole_toJson, trivial, time,
    options.analyzer.whole_toJson, trivial⟩

/-- Each option is read from what it is written as. -/
theorem decoder_toJson (options : Options) : decoder (ofJson 0 options.toJson) = .ok options := by
  have root : pathDecoder (ofJson 1 (.string options.rootDir.text)) = .ok options.rootDir := rfl
  have dirs : Doc.list pathDecoder (ofJson 1 (.strings (options.componentDirs.map Path.text))) =
      .ok options.componentDirs := by
    rw [Json.strings, List.map_map]
    exact list_ofJson (by decide) fun _ _ => rfl
  have flag (b : Bool) : asBool (ofJson 1 (.bool b)) = .ok b := rfl
  have exclude := list_strings options.exclude (show 1 < depthLimit by decide)
  have fields := options.metaFields.decoder_toJson (show 1 < depthLimit by decide)
  have steps : Doc.list StepConfig.decoder
      (ofJson 1 (.array (options.transformers.map StepConfig.toJson))) = .ok options.transformers :=
    list_ofJson (by decide) fun step _ => step.decoder_toJson (by decide)
  have checker := options.checkerOptions.decoder_toJson (show 1 + 2 < depthLimit by decide)
  have time : asWord (ofJson 1 (.int options.analyzerTimeoutMs)) = .ok options.analyzerTimeoutMs := rfl
  have analyzer := options.analyzer.decoder_toJson (show 1 + 1 < depthLimit by decide)
  rw [toJson, ofJson, atDepth_of_lt (by decide), decoder, record]
  simp only [ofEntries]
  rw [readEntriesInto_cons rfl rfl root, readEntriesInto_cons rfl rfl (optional_path options.outputDir?),
    readEntriesInto_cons rfl rfl (optional_path options.cacheDir?), readEntriesInto_cons rfl rfl dirs,
    readEntriesInto_cons rfl rfl (flag options.silent), readEntriesInto_cons rfl rfl exclude,
    readEntriesInto_cons rfl rfl fields, readEntriesInto_cons rfl rfl steps,
    readEntriesInto_cons rfl rfl checker, readEntriesInto_cons rfl rfl (flag options.globalsOnly),
    readEntriesInto_cons rfl rfl time, readEntriesInto_cons rfl rfl analyzer]
  rfl

/-- The text of options is taken for the options if nothing is wrong with them, and otherwise it is refused
for what is wrong. -/
theorem ofText_toJson (fits : options.analyzerTimeoutMs ≤ greatestWord) (layout : Json.Layout) :
    ofText (String.ofList (layout.text 0 options.toJson)) = options.validate.map fun _ => options := by
  have read : Doc.decode decoder (String.ofList (layout.text 0 options.toJson) ++ "") = .ok options := by
    rw [decode_text layout (whole_toJson fits) (by simp), decoder_toJson]
  rw [String.append_empty] at read
  simp only [ofText, read]
  cases options.validate <;> rfl

/-! ## Valid options -/

/-- Options that can be used: an analysis has some time, which fits into 64 bits, and the patterns of what is
left out are well formed. -/
structure Valid (options : Options) : Prop where
  positive : 0 < options.analyzerTimeoutMs
  fits : options.analyzerTimeoutMs ≤ greatestWord
  patterns : ∀ text ∈ options.exclude, (Exclude.ofText? text).isSome

theorem exists_excludes (patterns : ∀ text ∈ options.exclude, (Exclude.ofText? text).isSome) :
    ∃ found, options.excludes = .ok found := by
  unfold excludes
  generalize options.exclude = texts at patterns
  induction texts with
  | nil => exact ⟨[], rfl⟩
  | cons text rest ih =>
    rw [List.forall_mem_cons] at patterns
    obtain ⟨exclude, formed⟩ := Option.isSome_iff_exists.mp patterns.1
    obtain ⟨found, others⟩ := ih patterns.2
    exact ⟨exclude :: found, by rw [List.mapM_cons, formed, others]; rfl⟩

theorem Valid.validate_eq (valid : options.Valid) : options.validate = .ok () := by
  obtain ⟨found, excludes⟩ := exists_excludes valid.patterns
  have positive : (options.analyzerTimeoutMs == 0) = false :=
    beq_false_of_ne (Nat.ne_of_gt valid.positive)
  rw [validate, positive, excludes]
  rfl

/-- Valid options are read back from their text, whether it is written without blanks or indented. They are as
they were, and so is the digest of what an analysis depends on. -/
theorem ofText_of_valid (valid : options.Valid) :
    ∀ text ∈ [options.toJson.compact, options.toJson.indented], ∃ found, ofText text = .ok found ∧
      found = options ∧ found.analysisDigest = options.analysisDigest := by
  have read (layout : Json.Layout) :
      ofText (String.ofList (layout.text 0 options.toJson)) = .ok options := by
    rw [ofText_toJson valid.fits layout, valid.validate_eq]
    rfl
  have compact : ofText options.toJson.compact = .ok options := by
    rw [Json.compact, ← Json.Layout.text_tight 0]
    exact read .tight
  have indented : ofText options.toJson.indented = .ok options := by
    rw [Json.indented, ← Json.Layout.text_lines]
    exact read .lines
  intro text written
  simp only [List.mem_cons, List.not_mem_nil, or_false] at written
  rcases written with rfl | rfl
  · exact ⟨options, compact, rfl, rfl⟩
  · exact ⟨options, indented, rfl, rfl⟩

/-- Options none of which is what it is by default. -/
def variedOptions : Options where
  rootDir := ⟨"/shop"⟩
  outputDir? := some ⟨""⟩
  cacheDir? := some ⟨"/shop/\\cache\""⟩
  componentDirs := [⟨"lib/"⟩, ⟨"lib"⟩]
  silent := false
  exclude := ["/x+/", "//", "null"]
  metaFields := { slots := false }
  transformers := [.replace none "a" "", .contentSlot, .replace (some "null") "<a" "\\u0061\n"]
  checkerOptions := { forceUseTs := false, strict := true, ignore := [] }
  globalsOnly := true
  analyzerTimeoutMs := greatestWord
  analyzer := .command "" ["kind", ""]

/-- They are read back. -/
theorem ofText_of_valid_varied : variedOptions.Valid ∧
    ∀ text ∈ [variedOptions.toJson.compact, variedOptions.toJson.indented], ∃ found,
      ofText text = .ok found ∧ found = variedOptions ∧
        found.analysisDigest = variedOptions.analysisDigest := by
  have patterns : ∀ text ∈ variedOptions.exclude, (Exclude.ofText? text).isSome := by decide +kernel
  have valid : variedOptions.Valid := ⟨by decide, by decide, patterns⟩
  exact ⟨valid, ofText_of_valid valid⟩

end Options

end ComponentCatalog
