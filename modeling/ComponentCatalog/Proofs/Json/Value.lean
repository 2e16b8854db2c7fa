import ComponentCatalog.Proofs.Json.Written

/-! # Values that are read back as they are

Whoever reads any value gets one whose objects have their keys in order. So a value comes back from its
text if its own keys are in order already, and if it is not nested too deeply to be read at all. Blanks
behind the text are passed over.
-/

namespace ComponentCatalog

namespace Json

/-! ## Entries in order -/

/-- An entry whose key comes behind the others stays behind them. -/
theorem insertEntry_of_lt {key : String} {value : Json} {kept : List (String × Json)}
    (behind : ∀ entry ∈ kept, entry.1 < key) : insertEntry key value kept = kept ++ [(key, value)] := by
  induction kept with
  | nil => rfl
  | cons entry rest ih =>
    rw [List.forall_mem_cons] at behind
    have apart : key ≠ entry.1 := fun same => String.lt_irrefl _ (same ▸ behind.1)
    rw [insertEntry, if_neg (String.lt_asymm behind.1), if_neg (by simpa using apart), ih behind.2]
    rfl

theorem foldl_insertEntry {kept entries : List (String × Json)}
    (ascending : ((kept ++ entries).map Prod.fst).Pairwise (· < ·)) :
    entries.foldl (fun kept entry => insertEntry entry.1 entry.2 kept) kept = kept ++ entries := by
  induction entries generalizing kept with
  | nil => exact (List.append_nil kept).symm
  | cons entry rest ih =>
    have behind : ∀ before ∈ kept, before.1 < entry.1 := by
      rw [List.pairwise_map, List.pairwise_append] at ascending
      exact fun before member => ascending.2.2 before member entry (List.mem_cons_self ..)
    rw [List.append_cons] at ascending ⊢
    rw [List.foldl_cons, insertEntry_of_lt behind, ih ascending]

/-- Entries whose keys are in order already stay as they are. -/
theorem sortedEntries_of_ascending {entries : List (String × Json)}
    (ascending : (entries.map Prod.fst).Pairwise (· < ·)) : sortedEntries entries = entries :=
  foldl_insertEntry ascending

/-- An entry that is put among others takes none but that of its key away, and brings only itself. -/
theorem mem_insertEntry {key : String} {value : Json} {kept : List (String × Json)} {entry : String × Json}
    (member : entry ∈ insertEntry key value kept) : entry.1 = key ∨ entry ∈ kept := by
  induction kept with
  | nil => exact .inl (congrArg Prod.fst (List.mem_singleton.mp member))
  | cons first rest ih => grind [insertEntry]

/-- An entry is put where its key belongs. -/
theorem ascending_insertEntry {key : String} {value : Json} {kept : List (String × Json)}
    (ascending : kept.Pairwise (·.1 < ·.1)) : (insertEntry key value kept).Pairwise (·.1 < ·.1) := by
  induction kept with
  | nil => exact List.pairwise_singleton ..
  | cons entry rest ih =>
    obtain ⟨behind, sorted⟩ := List.pairwise_cons.mp ascending
    rw [insertEntry]
    split
    · next before =>
      refine List.pairwise_cons.mpr ⟨List.forall_mem_cons.mpr ⟨before, fun later member => ?_⟩, ascending⟩
      exact String.lt_trans before (behind later member)
    · next notBefore =>
      split
      · next same =>
        obtain rfl := beq_iff_eq.mp same
        exact List.pairwise_cons.mpr ⟨behind, sorted⟩
      · next apart =>
        have after : entry.1 < key := String.not_le.mp fun le =>
          apart (beq_iff_eq.mpr (String.le_antisymm le (String.not_lt.mp notBefore)))
        refine List.pairwise_cons.mpr ⟨fun later member => ?_, ih sorted⟩
        rcases mem_insertEntry member with named | old
        · exact named ▸ after
        · exact behind later old

/-- Entries are put in the order of their keys. -/
theorem ascending_sortedEntries (entries : List (String × Json)) :
    (sortedEntries entries).Pairwise (·.1 < ·.1) := by
  have from_any (kept : List (String × Json)) (ascending : kept.Pairwise (·.1 < ·.1)) :
      (entries.foldl (fun kept entry => insertEntry entry.1 entry.2 kept) kept).Pairwise (·.1 < ·.1) := by
    induction entries generalizing kept with
    | nil => exact ascending
    | cons entry rest ih => exact ih _ (ascending_insertEntry ascending)
  exact from_any [] List.Pairwise.nil

mutual

/-- The keys of all objects are in order, each once, and lists and objects are nested in each other no
deeper than there is room. -/
def Ordered (room : Nat) : Json → Prop
  | .array items => 0 < room ∧ OrderedItems (room - 1) items
  | .object entries =>
    0 < room ∧ (entries.map Prod.fst).Pairwise (· < ·) ∧ OrderedEntries (room - 1) entries
  | _ => True

/-- Items are in order, each with the room. -/
def OrderedItems (room : Nat) : List Json → Prop
  | [] => True
  | item :: rest => item.Ordered room ∧ OrderedItems room rest

/-- The values of entries are in order, each with the room. -/
def OrderedEntries (room : Nat) : List (String × Json) → Prop
  | [] => True
  | (_, value) :: rest => value.Ordered room ∧ OrderedEntries room rest

end

theorem orderedItems_map {α : Type} {room : Nat} {write : α → Json}
    (ordered : ∀ value, (write value).Ordered room) (values : List α) :
    OrderedItems room (values.map write) := by
  induction values with
  | nil => exact trivial
  | cons value rest ih => exact ⟨ordered value, ih⟩

mutual

/-- A value that is in order has the room it needs, and sorting leaves it as it is. -/
theorem Ordered.within_sorted {value : Json} {room : Nat} (ordered : value.Ordered room) :
    value.Within room ∧ value.sorted = value := by
  cases value with
  | array items =>
    obtain ⟨within, sorted⟩ := within_sortedItems ordered.2
    exact ⟨⟨ordered.1, within⟩, congrArg Json.array sorted⟩
  | object entries =>
    obtain ⟨roomy, ascending, inner⟩ := ordered
    obtain ⟨within, sorted⟩ := within_sortedValues inner
    refine ⟨⟨roomy, within⟩, ?_⟩
    rw [Json.sorted, sorted, sortedEntries_of_ascending ascending]
  | _ => exact ⟨trivial, rfl⟩

theorem within_sortedItems {items : List Json} {room : Nat} (ordered : OrderedItems room items) :
    WithinItems room items ∧ sortedItems items = items := by
  cases items with
  | nil => exact ⟨trivial, rfl⟩
  | cons item rest =>
    obtain ⟨within, sorted⟩ := Ordered.within_sorted ordered.1
    obtain ⟨restWithin, restSorted⟩ := within_sortedItems ordered.2
    refine ⟨⟨within, restWithin⟩, ?_⟩
    rw [sortedItems, sorted, restSorted]

theorem within_sortedValues {entries : List (String × Json)} {room : Nat}
    (ordered : OrderedEntries room entries) :
    WithinEntries room entries ∧ sortedValues entries = entries := by
  cases entries with
  | nil => exact ⟨trivial, rfl⟩
  | cons entry rest =>
    obtain ⟨within, sorted⟩ := Ordered.within_sorted ordered.1
    obtain ⟨restWithin, restSorted⟩ := within_sortedValues ordered.2
    refine ⟨⟨within, restWithin⟩, ?_⟩
    rw [sortedValues, sorted, restSorted]

end

/-! ## Values under their keys -/

section Lookup

variable {key : String} {entries : List (String × Json)}

theorem lookup_cons_eq_if {entry : String × Json} :
    (entry :: entries).lookup key = if key = entry.1 then some entry.2 else entries.lookup key := by
  rw [List.lookup_cons]
  by_cases same : key = entry.1
  · simp [same]
  · simp [same, beq_eq_false_iff_ne.mpr same]

theorem lookup_insertEntry {other : String} {value : Json} :
    (insertEntry other value entries).lookup key =
      if key = other then some value else entries.lookup key := by
  induction entries with
  | nil => exact lookup_cons_eq_if
  | cons entry rest ih =>
    rw [insertEntry]
    split
    · exact lookup_cons_eq_if
    · split
      · next same =>
        rw [lookup_cons_eq_if, lookup_cons_eq_if, beq_iff_eq.mp same]
        split <;> rfl
      · next apart =>
        rw [lookup_cons_eq_if, lookup_cons_eq_if, ih]
        split
        · next first => rw [if_neg (fun same => apart (beq_iff_eq.mpr (same.symm.trans first)))]
        · rfl

/-- Of several entries of one key the last one is kept. -/
theorem lookup_sortedEntries : (sortedEntries entries).lookup key = entries.reverse.lookup key := by
  have from_any (kept : List (String × Json)) :
      (entries.foldl (fun kept entry => insertEntry entry.1 entry.2 kept) kept).lookup key =
        (entries.reverse ++ kept).lookup key := by
    induction entries generalizing kept with
    | nil => rfl
    | cons entry rest ih =>
      rw [List.foldl_cons, ih, List.reverse_cons, List.append_assoc, List.lookup_append, List.lookup_append,
        lookup_insertEntry, List.singleton_append, lookup_cons_eq_if]
  rw [sortedEntries, from_any, List.append_nil]

theorem lookup_reverse (distinct : (entries.map Prod.fst).Nodup) :
    entries.reverse.lookup key = entries.lookup key := by
  induction entries with
  | nil => rfl
  | cons entry rest ih =>
    obtain ⟨first, distinct⟩ := List.nodup_cons.mp distinct
    rw [List.reverse_cons, List.lookup_append, ih distinct, lookup_cons_eq_if, lookup_cons_eq_if]
    split
    · next same =>
      have absent : rest.lookup key = none := by
        rw [List.lookup_eq_none_iff]
        intro other member
        rw [bne_iff_ne, same]
        exact fun again => first (again ▸ List.mem_map_of_mem member)
      rw [absent]
      rfl
    · exact Option.or_none

theorem lookup_sortedValues : (sortedValues entries).lookup key = (entries.lookup key).map Json.sorted := by
  induction entries with
  | nil => rfl
  | cons entry rest ih =>
    obtain ⟨first, value⟩ := entry
    rw [sortedValues, lookup_cons_eq_if, lookup_cons_eq_if, ih]
    split <;> rfl

theorem sortedValues_eq_map : sortedValues entries = entries.map fun entry => (entry.1, entry.2.sorted) := by
  induction entries with
  | nil => rfl
  | cons entry rest ih => rw [sortedValues, ih, List.map_cons]

theorem keys_sortedValues : (sortedValues entries).map Prod.fst = entries.map Prod.fst := by
  rw [sortedValues_eq_map, List.map_map]
  rfl

/-- A sorted object has the same values under its keys, sorted, if each key stands once. -/
theorem get?_sorted (distinct : (entries.map Prod.fst).Nodup) :
    (object entries).sorted.get? key = ((object entries).get? key).map Json.sorted := by
  have distinct : ((sortedValues entries).map Prod.fst).Nodup := keys_sortedValues.symm ▸ distinct
  rw [sorted, get?, get?, lookup_sortedEntries, lookup_reverse distinct, lookup_sortedValues]

theorem sortedItems_map {α : Type} {write : α → Json} (values : List α) :
    sortedItems (values.map write) = values.map fun value => (write value).sorted := by
  induction values with
  | nil => rfl
  | cons value rest ih => rw [List.map_cons, sortedItems, ih, List.map_cons]

/-- The keys of an object in what is read are in order. -/
theorem ascending_of_parse {text key : String} {raw : Json} {members : List (String × Json)}
    (read : Json.parse text = .ok raw) (there : raw.get? key = some (.object members)) :
    members.Pairwise (·.1 < ·.1) := by
  rw [parse_eq_sorted] at read
  cases written : parseWritten text with
  | error fault => rw [written] at read; cases read
  | ok value =>
    rw [written] at read
    obtain rfl : value.sorted = raw := Except.ok.inj read
    cases value with
    | object entries =>
      rw [sorted, get?, lookup_sortedEntries, sortedValues_eq_map, ← List.map_reverse, ← sortedValues_eq_map,
        lookup_sortedValues] at there
      obtain ⟨inner, -, same⟩ := Option.map_eq_some_iff.mp there
      cases inner with
      | object others =>
        cases same
        exact ascending_sortedEntries _
      | _ => cases same
    | _ => cases there

end Lookup

end Json

namespace Doc

open Json

/-- A value that is in order is read from its own tree. -/
theorem value_ofJson (value : Json) (depth room : Nat) (ordered : value.Ordered room)
    (shallow : depth + room ≤ depthLimit) : Doc.value (ofJson depth value) = .ok value := by
  obtain ⟨within, sorted⟩ := ordered.within_sorted
  rw [value_eq_sorted, written_ofJson value depth room within shallow]
  exact congrArg Except.ok sorted

/-- A value that is in order is read back from the bytes of its text with a line end. -/
theorem decodeBytes_line {value : Json} (whole : value.Whole) {room : Nat}
    (ordered : value.Ordered room) (shallow : room ≤ depthLimit) :
    Doc.decodeBytes Doc.value (value.compact ++ "\n").toUTF8 = .ok value := by
  have blank : ∀ c ∈ "\n".toList, isBlank c = true := List.all_eq_true.mp rfl
  rw [decodeBytes_toUTF8, decode_compact_blanks whole blank, value_ofJson value 0 room ordered (by omega)]

end Doc

end ComponentCatalog
