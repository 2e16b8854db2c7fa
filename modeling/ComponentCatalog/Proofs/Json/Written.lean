import ComponentCatalog.Proofs.Json.Decode

/-! # Values as they are written

Whoever needs the order of a published object reads it with its entries as they are written. The reader
that puts keys in order gets the same, sorted. What is not nested too deeply comes back as it is.
-/

namespace ComponentCatalog

namespace Doc

mutual

/-- Any value, with the entries of its objects as they are written. -/
def written : Doc → Except JsonFault Json
  | null => .ok .null
  | bool b => .ok (.bool b)
  | number n => .ok (.number n)
  | string s => .ok (.string s)
  | array items stop? => do
    let items ← writtenItems items
    stopAt stop?
    return .array items
  | object entries stop? => do
    let entries ← writtenEntries entries
    stopAt stop?
    return .object entries
  | broken fault | flawed fault _ => .error fault

/-- The values of a list. -/
def writtenItems : List Doc → Except JsonFault (List Json)
  | [] => .ok []
  | item :: rest => do
    let first ← written item
    return first :: (← writtenItems rest)

/-- The keys and values of an object. -/
def writtenEntries : List (Doc × Doc) → Except JsonFault (List (String × Json))
  | [] => .ok []
  | (key, item) :: rest => do
    let key ← asString key
    let first ← written item
    return (key, first) :: (← writtenEntries rest)

end

end Doc

namespace Json

/-- Reads any value from a text, with the entries of its objects as they are written. -/
def parseWritten (source : String) : Except JsonFault Json := Doc.decode Doc.written source

mutual

/-- A value with the keys of all its objects in order, each once. -/
def sorted : Json → Json
  | .array items => .array (sortedItems items)
  | .object entries => .object (sortedEntries (sortedValues entries))
  | other => other

/-- The items of a list, sorted. -/
def sortedItems : List Json → List Json
  | [] => []
  | item :: rest => item.sorted :: sortedItems rest

/-- The values of an object, sorted. -/
def sortedValues : List (String × Json) → List (String × Json)
  | [] => []
  | (key, value) :: rest => (key, value.sorted) :: sortedValues rest

end

end Json

namespace Doc

open Json

mutual

/-- Reading any value is reading it as it is written, and sorting it. -/
theorem value_eq_sorted (doc : Doc) : doc.value = doc.written.map Json.sorted := by
  cases doc with
  | array items stop? =>
    rw [value, written, values_eq_sorted items]
    cases writtenItems items with
    | error fault => rfl
    | ok items => cases stop? <;> simp [stopAt, Except.map, bind, Except.bind, pure, Except.pure, sorted]
  | object entries stop? =>
    rw [value, written, entryValues_eq_sorted entries]
    cases writtenEntries entries with
    | error fault => rfl
    | ok entries =>
      cases stop? <;> simp [stopAt, Except.map, bind, Except.bind, pure, Except.pure, sorted]
  | _ => rfl

theorem values_eq_sorted (items : List Doc) :
    values items = (writtenItems items).map sortedItems := by
  cases items with
  | nil => rfl
  | cons item rest =>
    rw [values, writtenItems, value_eq_sorted item, values_eq_sorted rest]
    cases written item with
    | error fault => rfl
    | ok first => cases writtenItems rest <;> rfl

theorem entryValues_eq_sorted (entries : List (Doc × Doc)) :
    entryValues entries = (writtenEntries entries).map sortedValues := by
  cases entries with
  | nil => rfl
  | cons entry rest =>
    rw [entryValues, writtenEntries, value_eq_sorted entry.2, entryValues_eq_sorted rest]
    cases asString entry.1 with
    | error fault => rfl
    | ok key =>
      cases written entry.2 with
      | error fault => rfl
      | ok first => cases writtenEntries rest <;> rfl

end

end Doc

/-- Whoever reads any value gets what is written, sorted. -/
theorem Json.parse_eq_sorted (source : String) :
    Json.parse source = (Json.parseWritten source).map Json.sorted := by
  unfold Json.parse Json.parseWritten Doc.decode
  obtain ⟨doc, behind?⟩ := Doc.ofText source
  simp only [Doc.value_eq_sorted]
  cases doc.written with
  | error fault => rfl
  | ok read => cases behind? <;> rfl

/-! ## What comes back as it is -/

namespace Json

mutual

/-- Lists and objects are nested in each other no deeper than there is room. -/
def Within (room : Nat) : Json → Prop
  | .array items => 0 < room ∧ WithinItems (room - 1) items
  | .object entries => 0 < room ∧ WithinEntries (room - 1) entries
  | _ => True

/-- No item is nested too deeply. -/
def WithinItems (room : Nat) : List Json → Prop
  | [] => True
  | item :: rest => item.Within room ∧ WithinItems room rest

/-- No value of an object is nested too deeply. -/
def WithinEntries (room : Nat) : List (String × Json) → Prop
  | [] => True
  | (_, value) :: rest => value.Within room ∧ WithinEntries room rest

end

theorem withinItems_map {α : Type} {room : Nat} {write : α → Json}
    (within : ∀ value, (write value).Within room) (values : List α) :
    WithinItems room (values.map write) := by
  induction values with
  | nil => exact trivial
  | cons value rest ih => exact ⟨within value, ih⟩

end Json

namespace Doc

open Json

mutual

theorem written_ofJson (value : Json) (depth room : Nat) (within : value.Within room)
    (shallow : depth + room ≤ depthLimit) : written (ofJson depth value) = .ok value := by
  cases value with
  | array items =>
    obtain ⟨roomy, inner⟩ := within
    rw [ofJson, atDepth_of_lt (by omega), written, writtenItems_ofItems items (depth + 1) _ inner (by omega)]
    rfl
  | object entries =>
    obtain ⟨roomy, inner⟩ := within
    rw [ofJson, atDepth_of_lt (by omega), written,
      writtenEntries_ofEntries entries (depth + 1) _ inner (by omega)]
    rfl
  | _ => rfl

theorem writtenItems_ofItems (items : List Json) (depth room : Nat) (within : WithinItems room items)
    (shallow : depth + room ≤ depthLimit) : writtenItems (ofItems depth items) = .ok items := by
  cases items with
  | nil => rfl
  | cons item rest =>
    rw [ofItems, writtenItems, written_ofJson item depth room within.1 shallow,
      writtenItems_ofItems rest depth room within.2 shallow]
    rfl

theorem writtenEntries_ofEntries (entries : List (String × Json)) (depth room : Nat)
    (within : WithinEntries room entries) (shallow : depth + room ≤ depthLimit) :
    writtenEntries (ofEntries depth entries) = .ok entries := by
  cases entries with
  | nil => rfl
  | cons entry rest =>
    rw [ofEntries, writtenEntries, written_ofJson entry.2 depth room within.1 shallow,
      writtenEntries_ofEntries rest depth room within.2 shallow]
    rfl

end

end Doc

namespace Json

variable {value : Json} {room : Nat}

/-- A value that is not nested too deeply comes back from its text without blanks, -/
theorem parseWritten_compact (whole : value.Whole) (within : value.Within room)
    (shallow : room ≤ Doc.depthLimit) : parseWritten value.compact = .ok value := by
  rw [parseWritten, Doc.decode_compact whole, Doc.written_ofJson value 0 room within (by omega)]

/-- and from its indented text. -/
theorem parseWritten_indented (whole : value.Whole) (within : value.Within room)
    (shallow : room ≤ Doc.depthLimit) : parseWritten value.indented = .ok value := by
  rw [parseWritten, Doc.decode_indented whole, Doc.written_ofJson value 0 room within (by omega)]

end Json

end ComponentCatalog
