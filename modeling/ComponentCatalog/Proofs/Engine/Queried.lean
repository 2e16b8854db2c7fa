import ComponentCatalog.Proofs.Component.Name
import ComponentCatalog.Proofs.Component.Selected
import ComponentCatalog.Proofs.Engine.Registered

/-! # A query finds the component that it names

The registry takes components with display names alone, and a snapshot takes their names from it, each
once. So a published component is found by every spelling of its name, a query that is not blank finds
no other component than the one that it asks for, and no two components are spelled alike.
-/

namespace ComponentCatalog

open Component

/-- Components stand under display names, each under its own, and no two under one. -/
structure Snapshot.Named (components : Table String SnapshotEntry) : Prop where
  nodup : (components.map Prod.fst).Nodup
  own : ∀ item ∈ components, item.1 = item.2.identity.name
  display : ∀ item ∈ components, isDisplayName item.1 = true

namespace Snapshot.Named

theorem nil : Named [] := ⟨List.nodup_nil, by simp, by simp⟩

/-- A snapshot that comes by a component with a display name takes it under that name. -/
theorem collect {shown : Table String SnapshotEntry} (named : Named shown) (cache : Cache)
    {identity : Identity} (display : isDisplayName identity.name = true) :
    Named (cache.collect shown identity) where
  nodup := by
    unfold Cache.collect
    split
    · exact Table.nodup_set named.nodup _ _
    · exact named.nodup
  own := by
    intro item member
    rcases Cache.eq_of_mem_collect member with before | ⟨key, rfl, -⟩
    · exact named.own item before
    · exact key
  display := by
    intro item member
    rcases Cache.eq_of_mem_collect member with before | ⟨key, -, -⟩
    · exact named.display item before
    · rwa [key]

end Snapshot.Named

/-- A query that is not blank is answered with what stands under the name that it asks for. -/
theorem RecordSet.lookup_eq_one_iff {records : RecordSet} {query : String}
    (asks : (Text.trimmed query.toList).isEmpty = false) (record : Record) :
    records.lookup (some query) = .one record ↔ Table.get? records (queriedName query) = some record := by
  unfold RecordSet.lookup
  simp only [Option.filter_some, asks, Bool.not_false, if_true]
  cases Table.get? records (queriedName query) with
  | none => simp
  | some found => simp

namespace Engine

/-- Known components, those that snapshots have yet to come by, and those that are shown have display
names. -/
structure Named (engine : Engine) : Prop where
  registry : engine.registry.WellFormed engine.registry.filter
  collecting : ∀ id pending revision rest shown,
    engine.calls.get? id = some (.publishing pending (.collecting revision rest shown)) →
      (∀ identity ∈ rest, isDisplayName identity.name = true) ∧ Snapshot.Named shown
  published : Snapshot.Named engine.published.components

variable {engine : Engine}

/-- No event brings in a component without a display name. -/
theorem Named.act (named : engine.Named) (event : Event) : (engine.act event).Named where
  registry := by
    rcases engine.act_registry event with same | ⟨descriptors, registered⟩
    · rw [same]
      exact named.registry
    · rw [registered]
      exact named.registry.register descriptors
  collecting := by
    intro id pending revision rest shown now
    have effect := act_effect engine event
    generalize engine.act event = next at effect now
    cases effect with
    | move moved how =>
      rcases moved.was now with ⟨rfl, rfl⟩ | ⟨-, before⟩
      · exact named.collecting _ _ _ _ _ how.collecting
      · exact named.collecting _ _ _ _ _ before
    | turn _ _ =>
      rw [calls_setCall] at now
      split at now
      · cases now
        exact ⟨fun identity member => (named.registry.allowed identity member).display, .nil⟩
      · exact named.collecting _ _ _ _ _ now
    | collect was =>
      rw [calls_setCall] at now
      split at now
      · cases now
        obtain ⟨ahead, before⟩ := named.collecting _ _ _ _ _ was
        rw [List.forall_mem_cons] at ahead
        exact ⟨ahead.2, before.collect engine.cache ahead.1⟩
      · exact named.collecting _ _ _ _ _ now
    | publish _ =>
      rw [calls_setCall] at now
      split at now
      · cases now
      · exact named.collecting _ _ _ _ _ now
  published := by
    rcases (act_effect engine event).published with same | ⟨id, _, _, _, _, -, through⟩
    · rw [same]
      exact named.published
    · exact (named.collecting _ _ _ _ _ through).2

theorem Created.named (created : engine.Created) : engine.Named where
  registry := by
    obtain ⟨_, _, _, _, _, rfl⟩ := created
    exact Registry.wellFormed _ []
  collecting := by
    intro id pending revision rest shown now
    cases (created.calls id).symm.trans now
  published := by
    rw [created.published]
    exact .nil

theorem Named.run (named : engine.Named) (events : List Event) : (engine.run events).Named :=
  (Follows.free events).preserves (fun _ event before _ => before.act event) named

/-- Just the names of published components are found, each with the record of its component. -/
theorem Named.get?_records (named : engine.Named) (name : String) (record : Record) :
    engine.records.get? name = some record ↔
      ∃ entry, (name, entry) ∈ engine.published.components ∧
        record = .ofEntry engine.rootDir name entry := by
  have keys : engine.records.map Prod.fst = engine.published.components.map Prod.fst := by
    simp [records, RecordSet.ofSnapshot, Function.comp_def]
  rw [Table.get?_eq_some_iff (keys ▸ named.published.nodup), records, RecordSet.ofSnapshot,
    List.mem_map]
  constructor
  · rintro ⟨⟨_, entry⟩, member, ⟨⟩⟩
    exact ⟨entry, member, rfl⟩
  · rintro ⟨entry, member, rfl⟩
    exact ⟨(name, entry), member, rfl⟩

/-- Whatever happens to an engine, a query that is not blank finds a record if and only if it asks for
the name of a published component, and then the record of that component. Each spelling of the name of
a published component finds it, and no two published components are spelled alike in lower case. -/
theorem lookup_published (created : engine.Created) (events : List Event) :
    let now := engine.run events
    let components := now.published.components
    (∀ item ∈ components, item.1 = item.2.identity.name) ∧
    (∀ query, (Text.trimmed query.toList).isEmpty = false → ∀ record,
      now.records.lookup (some query) = .one record ↔
        ∃ entry, (queriedName query, entry) ∈ components ∧
          record = .ofEntry now.rootDir (queriedName query) entry) ∧
    (∀ name entry, (name, entry) ∈ components → ∀ query, Spells query name →
      now.records.lookup (some query) = .one (.ofEntry now.rootDir name entry)) ∧
    (∀ a ∈ components, ∀ b ∈ components, kebabCase a.1 = kebabCase b.1 → a = b) := by
  have named := created.named.run events
  have found (query : String) (asks : (Text.trimmed query.toList).isEmpty = false)
      (record : Record) :=
    (RecordSet.lookup_eq_one_iff asks record).trans (named.get?_records (queriedName query) record)
  refine ⟨named.published.own, found, fun name entry member query spells => ?_, ?_⟩
  · have display := named.published.display _ member
    rw [found query (not_blank_of_spells display spells), queriedName_of_spells display spells]
    exact ⟨entry, member, rfl⟩
  · intro a left b right same
    have name := kebabCase_inj (named.published.display a left) (named.published.display b right) same
    exact List.inj_on_of_nodup_map named.published.nodup left right name

/-- The first component of the gallery is found by its name in lower case, with all that may stand around
it; the one that was taken away is not found. -/
theorem lookup_published_gallery :
    bareEngine.Created ∧
    (∃ entry, ("Card", entry) ∈ gallery.published.components ∧
      gallery.records.lookup (some " //card.json\n") = .one (.ofEntry gallery.rootDir "Card" entry)) ∧
    ∀ record, gallery.records.lookup (some "form.json") ≠ .one record := by
  have created : bareEngine.Created := ⟨_, _, _, _, _, rfl⟩
  obtain ⟨-, found, spelled, -⟩ := lookup_published created opening
  have names : gallery.published.components.map Prod.fst = ["Card", "Menu"] := by decide +kernel
  refine ⟨created, ?_, fun record answer => ?_⟩
  · obtain ⟨⟨_, entry⟩, member, rfl⟩ :=
      List.mem_map.mp (names ▸ List.mem_cons_self .. : "Card" ∈ gallery.published.components.map Prod.fst)
    refine ⟨entry, member, spelled _ entry member _ ?_⟩
    exact ⟨[' '], ['/', '/'], "card", ".json".toList, ['\n'], by decide, List.all_eq_true.mp rfl,
      List.all_eq_true.mp rfl, by simp, .inr (by decide), .inr rfl⟩
  · obtain ⟨entry, member, -⟩ := (found "form.json" (by decide) record).mp answer
    have key : queriedName "form.json" ∈ ["Card", "Menu"] :=
      names ▸ List.mem_map_of_mem (f := Prod.fst) member
    exact absurd key (by decide)

end Engine

end ComponentCatalog
