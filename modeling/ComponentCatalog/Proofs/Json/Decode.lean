import ComponentCatalog.Proofs.Json.RoundTrip

/-! # Decoding what was written

What a decoder makes of a value's tree is what it makes of the value's text, and of the bytes of that
text. So a record is read back if its decoder takes the tree that its entries are written to.
-/

namespace ComponentCatalog

namespace Doc

variable {α : Type} {decoder : Decoder α} {depth : Nat}

theorem atDepth_of_lt (shallow : depth < depthLimit) (doc : Doc) : atDepth depth doc = doc :=
  if_neg (Nat.not_le.mpr shallow)

theorem ofItems_map {write : α → Json} (values : List α) :
    ofItems depth (values.map write) = values.map fun value => ofJson depth (write value) := by
  induction values with
  | nil => rfl
  | cons value rest ih => rw [List.map_cons, ofItems, ih, List.map_cons]

private theorem mapM_ok {docs : α → Doc} {values : List α}
    (reads : ∀ value ∈ values, decoder (docs value) = .ok value) :
    (values.map docs).mapM decoder = .ok values := by
  induction values with
  | nil => rfl
  | cons value rest ih =>
    rw [List.map_cons, List.mapM_cons, reads value List.mem_cons_self,
      ih fun other member => reads other (List.mem_cons_of_mem _ member)]
    rfl

/-- A list is read back if each of its items is. -/
theorem list_ofJson (shallow : depth < depthLimit) {write : α → Json} {values : List α}
    (reads : ∀ value ∈ values, decoder (ofJson (depth + 1) (write value)) = .ok value) :
    Doc.list decoder (ofJson depth (.array (values.map write))) = .ok values := by
  rw [ofJson, atDepth_of_lt shallow, ofItems_map, Doc.list, mapM_ok reads]
  rfl

/-- An entry of a field that was not read yet is read into it. -/
theorem readEntriesInto_cons {σ : Type} {fields : List (Field σ)} {record : σ} {key : String}
    {doc : Doc} {rest : List (Doc × Doc)} {seen : List String} {required : Bool} {put : α → σ → σ}
    {value : α} (found : fields.find? (·.key == key) = some (field key required decoder put))
    (new : seen.contains key = false) (reads : decoder doc = .ok value) :
    readEntriesInto fields ((.string key, doc) :: rest) seen record =
      readEntriesInto fields rest (key :: seen) (put value record) := by
  have named : asString (.string key) = .ok key := rfl
  simp only [readEntriesInto, named, found, new, field, reads, bind, Except.bind, pure, Except.pure,
    Bool.false_eq_true, if_false]

/-- The text of a value is decoded as its tree is, however it is laid out and whatever blanks stand
behind it. -/
theorem decode_text (layout : Json.Layout) {value : Json} (whole : value.Whole) {behind : String}
    (blank : ∀ c ∈ behind.toList, isBlank c = true) :
    Doc.decode decoder (String.ofList (layout.text 0 value) ++ behind) = decoder (ofJson 0 value) := by
  have skipped : skipBlanks (behind.toList ++ []) = [] := skipBlanks_append blank []
  have ends : EndsNumber (behind.toList ++ []) := endsNumber_append blank (by rintro c ⟨⟩)
  rw [List.append_nil] at skipped ends
  have read := readValue_text layout value whole
    (2 * (layout.text 0 value ++ behind.toList).length + 2) 0
    (by rw [List.length_append]; omega) ends
  rw [Doc.decode, ofText, String.toList_append, String.toList_ofList, read]
  simp only [skipped, List.isEmpty_nil, if_true]
  cases decoder (ofJson 0 value) <;> rfl

theorem decode_compact_blanks {value : Json} (whole : value.Whole) {behind : String}
    (blank : ∀ c ∈ behind.toList, isBlank c = true) :
    Doc.decode decoder (value.compact ++ behind) = decoder (ofJson 0 value) := by
  rw [Json.compact, ← Json.Layout.text_tight 0]
  exact decode_text .tight whole blank

/-- The text of a value is decoded as its tree is. -/
theorem decode_compact {value : Json} (whole : value.Whole) :
    Doc.decode decoder value.compact = decoder (ofJson 0 value) := by
  have bare : value.compact ++ "" = value.compact := String.append_empty
  rw [← bare, decode_compact_blanks whole (by simp)]

/-- So is its indented text. -/
theorem decode_indented {value : Json} (whole : value.Whole) :
    Doc.decode decoder value.indented = decoder (ofJson 0 value) := by
  have bare : value.indented ++ "" = value.indented := String.append_empty
  rw [← bare, Json.indented, ← Json.Layout.text_lines]
  exact decode_text .lines whole (by simp)

/-! ## Trees tell values apart -/

mutual

/-- The value that a tree is of, as far as it was read. -/
def json : Doc → Json
  | null | broken _ => .null
  | bool b => .bool b
  | number n => .number n
  | string text => .string text
  | array items _ => .array (jsonItems items)
  | object entries _ => .object (jsonEntries entries)
  | flawed _ inner => json inner

/-- The values of items. -/
def jsonItems : List Doc → List Json
  | [] => []
  | item :: rest => json item :: jsonItems rest

/-- The keys and values of entries. A key is a text. -/
def jsonEntries : List (Doc × Doc) → List (String × Json)
  | [] => []
  | (key, value) :: rest =>
    (match key with | .string text => text | _ => "", json value) :: jsonEntries rest

end

private theorem json_atDepth (depth : Nat) (doc : Doc) : json (atDepth depth doc) = json doc := by
  unfold atDepth
  split
  · rw [json]
  · rfl

mutual

theorem json_ofJson (depth : Nat) (value : Json) : json (ofJson depth value) = value := by
  cases value with
  | array items => rw [ofJson, json_atDepth, json, jsonItems_ofItems]
  | object entries => rw [ofJson, json_atDepth, json, jsonEntries_ofEntries]
  | _ => rfl

theorem jsonItems_ofItems (depth : Nat) (items : List Json) :
    jsonItems (ofItems depth items) = items := by
  cases items with
  | nil => rfl
  | cons item rest => rw [ofItems, jsonItems, json_ofJson, jsonItems_ofItems]

theorem jsonEntries_ofEntries (depth : Nat) (entries : List (String × Json)) :
    jsonEntries (ofEntries depth entries) = entries := by
  cases entries with
  | nil => rfl
  | cons entry rest => rw [ofEntries, jsonEntries, json_ofJson, jsonEntries_ofEntries]

end

/-- Values with the same text are the same. -/
theorem compact_inj {value other : Json} (whole : value.Whole) (whole' : other.Whole)
    (same : value.compact = other.compact) : value = other := by
  have read : ∀ {value : Json}, value.Whole → Doc.decode (fun doc => .ok doc.json) value.compact =
      .ok value := fun {value} whole => by rw [decode_compact whole, json_ofJson]
  exact Except.ok.inj ((read whole).symm.trans (same ▸ read whole'))

theorem lossy_toUTF8 (text : String) : Text.Utf8.lossy text.toUTF8 = text := by
  have valid : String.fromUTF8? text.toUTF8 = some text := dif_pos text.isValidUTF8
  rw [Text.Utf8.lossy, valid]

/-- The bytes of a text are decoded as the text is. -/
theorem decodeBytes_toUTF8 (text : String) :
    Doc.decodeBytes decoder text.toUTF8 = Doc.decode decoder text := by
  have valid : text.toUTF8.validateUTF8 = true :=
    ByteArray.validateUTF8_eq_true_iff.mpr text.isValidUTF8
  rw [Doc.decodeBytes, lossy_toUTF8, valid]
  cases Doc.decode decoder text <;> rfl

end Doc

end ComponentCatalog
