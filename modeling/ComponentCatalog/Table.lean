/-!
# Tables

A table holds values under keys, in the order in which the keys first came. To set a key that is
there changes its value and keeps its place.
-/

namespace ComponentCatalog

/-- Values under keys. -/
abbrev Table (κ α : Type) := List (κ × α)

namespace Table

variable {κ α : Type} [DecidableEq κ]

def get? : Table κ α → κ → Option α
  | [], _ => none
  | (other, value) :: rest, key => if other = key then some value else get? rest key

def set : Table κ α → κ → α → Table κ α
  | [], key, value => [(key, value)]
  | (other, kept) :: rest, key, value =>
    if other = key then (key, value) :: rest else (other, kept) :: set rest key value

def erase (table : Table κ α) (key : κ) : Table κ α := table.filter fun entry => entry.1 ≠ key

def mapValues (table : Table κ α) (change : α → α) : Table κ α :=
  table.map fun entry => (entry.1, change entry.2)

/-- What is found under a key stands in the table. -/
theorem mem_of_get? {table : Table κ α} {key : κ} {value : α} (found : table.get? key = some value) :
    (key, value) ∈ table := by
  induction table with
  | nil => cases found
  | cons entry rest ih => grind [get?]

/-- Under the key of what stands in a table something is found. -/
theorem isSome_get?_of_mem {table : Table κ α} {entry : κ × α} (member : entry ∈ table) :
    (table.get? entry.1).isSome := by
  induction table with
  | nil => cases member
  | cons first rest ih => grind [get?]

/-- What stands in a table behind setting a key was set or stood there before. -/
theorem mem_of_mem_set {table : Table κ α} {key : κ} {value : α} {entry : κ × α}
    (member : entry ∈ set table key value) : entry = (key, value) ∨ entry ∈ table := by
  induction table with
  | nil => exact .inl (List.mem_singleton.mp member)
  | cons first rest ih => grind [set]

/-- Setting a key changes what is found under that key alone. -/
theorem get?_set (table : Table κ α) (key other : κ) (value : α) :
    get? (set table key value) other = if key = other then some value else get? table other := by
  induction table with
  | nil => rfl
  | cons entry rest ih => grind [set, get?]

/-- Nothing is found under an erased key, and all else stays. -/
theorem get?_erase (table : Table κ α) (key other : κ) :
    get? (erase table key) other = if key = other then none else get? table other := by
  induction table with
  | nil => simp [erase, get?]
  | cons entry rest ih => grind [erase, get?]

/-- What is found after a change of the values is what was found before, changed. -/
theorem get?_mapValues (table : Table κ α) (change : α → α) (key : κ) :
    get? (mapValues table change) key = (get? table key).map change := by
  induction table with
  | nil => rfl
  | cons entry rest ih => grind [mapValues, get?]

/-- A new key comes behind the others. -/
theorem set_of_new {table : Table κ α} {key : κ} (new : table.get? key = none) (value : α) :
    table.set key value = table ++ [(key, value)] := by
  induction table with
  | nil => rfl
  | cons entry rest ih => grind [get?, set]

/-- Setting a key that is there keeps what is picked from the table, if the new value gives the same as
the old one. -/
theorem filterMap_set {β : Type} {table : Table κ α} {key : κ} {old value : α}
    (there : table.get? key = some old) {pick : κ × α → Option β}
    (same : pick (key, value) = pick (key, old)) :
    (table.set key value).filterMap pick = List.filterMap pick table := by
  induction table with
  | nil => cases there
  | cons entry rest ih =>
    obtain ⟨other, kept⟩ := entry
    by_cases here : other = key
    · subst here
      simp only [get?, ↓reduceIte, Option.some.injEq] at there
      simp only [set, ↓reduceIte, List.filterMap_cons, same, there]
    · simp only [get?, here, ↓reduceIte] at there
      simp only [set, here, ↓reduceIte, List.filterMap_cons, ih there]

/-- In a table that holds no key twice, what stands under a key is found there. -/
theorem get?_eq_some_iff {table : Table κ α} (nodup : (table.map Prod.fst).Nodup) {key : κ}
    {value : α} : table.get? key = some value ↔ (key, value) ∈ table := by
  refine ⟨mem_of_get?, fun member => ?_⟩
  induction table with
  | nil => cases member
  | cons first rest ih =>
    rw [List.map_cons, List.nodup_cons] at nodup
    rcases List.mem_cons.mp member with rfl | later
    · simp [get?]
    · have apart : first.1 ≠ key := fun same => nodup.1 (same ▸ List.mem_map_of_mem later)
      simp [get?, apart, ih nodup.2 later]

theorem keys_set (table : Table κ α) (key : κ) (value : α) :
    (table.set key value).map Prod.fst =
      if key ∈ table.map Prod.fst then table.map Prod.fst else table.map Prod.fst ++ [key] := by
  induction table with
  | nil => rfl
  | cons first rest ih => grind [set]

/-- Setting a key brings no key twice into a table. -/
theorem nodup_set {table : Table κ α} (nodup : (table.map Prod.fst).Nodup) (key : κ) (value : α) :
    ((table.set key value).map Prod.fst).Nodup := by
  rw [keys_set]
  split
  · exact nodup
  · next new =>
    refine List.nodup_append.mpr ⟨nodup, by simp, fun other before last there same => ?_⟩
    rw [List.mem_singleton.mp there] at same
    exact new (same ▸ before)

end Table

end ComponentCatalog
