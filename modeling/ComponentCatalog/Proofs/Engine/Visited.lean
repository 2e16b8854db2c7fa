import ComponentCatalog.Proofs.Engine.Sole

/-! # What a call leaves behind it

Seen beside the files of a store, a call that is made between calls takes over what is found there and may
write to it. A file may be lost at any time, and the writing of one may come to an end too early. If what
is stored is what would be found, so it stays; and then the call comes to its fate, by every run of its steps,
and each run can go on until it does.
-/

namespace ComponentCatalog

open Component

namespace Engine

open Cache

/-! ## What is stored -/

/-- Each file holds the beginning of one of its entries, unless it is a published one. -/
def Genuine (entries : Path → Store.Entry → Prop) (held : Path → Option ByteArray) : Prop :=
  ∀ path bytes, held path = some bytes → IsOutput path ∨ ∃ entry, entries path entry ∧ entry.Begins bytes

/-- What the analyzer finds for a component that a call gets is an entry of its file, and entries of the file
that fit the source are such. -/
structure Shares (outside : Outside) (known : Identity → Prop) (entries : Path → Store.Entry → Prop)
    (setup : Setup) : Prop where
  admits : ∀ {store identity source time metadata}, setup.store? = some store → known identity →
    outside.source identity.path = .ok source → time ≤ Doc.greatestWord →
    setup.Finds outside.answer identity source metadata →
    entries (store.file identity.path) ⟨.compute identity.path source, time, metadata⟩
  fits : ∀ {store identity source entry}, setup.store? = some store → known identity →
    outside.source identity.path = .ok source → entries (store.file identity.path) entry → entry.Fits
  found : ∀ {store identity source entry}, setup.store? = some store → known identity →
    outside.source identity.path = .ok source → entries (store.file identity.path) entry →
    entry.fingerprint = .compute identity.path source →
    setup.Finds outside.answer identity source entry.metadata

variable {outside : Outside} {known : Identity → Prop} {entries : Path → Store.Entry → Prop}
  {engine : Engine} {held : Path → Option ByteArray} {id index : Nat}

/-- What is stored can be trusted. -/
theorem Shares.trusts {setup : Setup} (shares : Shares outside known entries setup)
    (genuine : Genuine entries held) {identity : Identity} {source : String} (knows : known identity)
    (read : outside.source identity.path = .ok source) :
    setup.Trusts outside.answer held identity source := by
  intro store bytes metadata stores there taken
  rcases genuine _ _ there with ⟨dir, output⟩ | ⟨entry, own, begins⟩
  · exact absurd rfl (store_file_ne output store identity.path)
  · obtain ⟨fingerprint, rfl⟩ := (shares.fits stores knows read own).metadataFor?_begins begins taken
    exact shares.found stores knows read own fingerprint

/-- What a call that is alone writes is a published file or an entry of its file. -/
theorem Sole.write {file : Path} {text : String} (sole : engine.Sole outside known id)
    (shares : Shares outside known entries engine.setup)
    (needs : engine.need? id index = some (.write file text)) :
    IsOutput file ∨ ∃ entry, entries file entry ∧ text = entry.text := by
  obtain ⟨⟨call, now, phase⟩, -⟩ := sole
  simp only [need?, now] at needs
  have own : ∀ {artifact : Artifact}, IsOutput artifact.file → artifact.need = .write file text →
      IsOutput file := by
    intro artifact output writes
    unfold Artifact.need at writes
    split at writes <;> cases writes
    exact output
  cases call with
  | getting goal gets =>
    obtain ⟨-, own, among, -⟩ := phase
    obtain ⟨get, this, mine⟩ := Option.bind_eq_some_iff.mp needs
    have member := List.mem_of_getElem? this
    obtain ⟨store, source, time, metadata, stores, rfl, read, clock, finds, rfl⟩ :=
      (own.faithful get member).writes (own.alone get member) mine
    exact .inr ⟨_, shares.admits stores (among get member) read clock finds, rfl⟩
  | forgetting paths diff? =>
    cases paths with
    | nil => cases needs
    | cons path rest =>
      simp only [Option.some.injEq] at needs
      split at needs <;> cases needs
  | publishing pending publication =>
    cases publication with
    | waiting =>
      simp only at needs
      split at needs <;> cases needs
    | collecting revision rest shown => cases needs
    | writing snapshot artifacts =>
      cases artifacts with
      | nil => cases needs
      | cons artifact rest =>
        exact .inl (own (phase.2 artifact List.mem_cons_self) (Option.some.inj needs))
  | lookingForStub artifact => cases needs
  | writingStub artifact => exact .inl (own phase.2 (Option.some.inj needs))
  | finished result => cases needs

/-! ## Changes -/

/-- What a path holds behind a need: what it held, nothing, or the beginning of what was to be written. -/
def Remains (need : Need) (path : Path) (before after : Option ByteArray) : Prop :=
  after = before ∨ after = none ∨ ∃ text, need = .write path text ∧
    ∃ bytes behind, after = some bytes ∧ bytes ++ behind = text.toUTF8

/-- What remains of what is stored is still that. -/
theorem Sole.genuine (sole : engine.Sole outside known id)
    (shares : Shares outside known entries engine.setup) {need : Need}
    (needs : engine.need? id index = some need) (genuine : Genuine entries held)
    {held' : Path → Option ByteArray} (remains : ∀ path, Remains need path (held path) (held' path)) :
    Genuine entries held' := by
  intro path bytes there
  rcases remains path with same | lost | ⟨text, rfl, begun, behind, now, begins⟩
  · exact genuine path bytes (same ▸ there)
  · cases lost.symm.trans there
  · cases now.symm.trans there
    rcases sole.write shares needs with output | ⟨entry, own, rfl⟩
    · exact .inl output
    · exact .inr ⟨entry, own, behind, begins⟩

namespace Site

/-- A call takes a step and is told what it needs. -/
def Told (outside : Outside) (output : Output) (id : Nat) (site : Site) (change : Change) : Prop :=
  ∃ index reply need call, change.event = .step id index reply ∧
    site.engine.calls.get? id = some call ∧ site.engine.need? id index = some need ∧
    call.Told outside output site.files need reply ∧
    ∀ path, Remains need path (site.files path) (change.files path)

/-- A call is alone and comes to its fate, and what is stored is genuine. -/
structure Visited (outside : Outside) (output : Output) (known : Identity → Prop)
    (entries : Path → Store.Entry → Prop) (id : Nat) (fate : Fate) (site : Site) : Prop where
  sole : site.engine.Sole outside known id
  shares : Shares outside known entries site.engine.setup
  genuine : Genuine entries site.files
  fate : site.engine.fate? outside output id = some fate

variable {site : Site} {change : Change} {output : Output} {fate : Fate}

/-- What a call that is alone gets can be trusted. -/
private theorem Visited.trusting (visited : site.Visited outside output known entries id fate) {call : Call}
    (now : site.engine.calls.get? id = some call) : call.Trusting outside site.files site.engine := by
  obtain ⟨⟨_, now', phase⟩, -⟩ := visited.sole
  cases now.symm.trans now'
  rintro goal gets rfl
  obtain ⟨-, own, among, -⟩ := phase
  refine ⟨own, fun get member source read => ?_⟩
  exact visited.shares.trusts visited.genuine (among get member) ((own.faithful get member).read source read)

theorem Told.fits (told : site.Told outside output id change)
    (fits : ∀ file (need : Need), need.Fits (output file need)) :
    ∃ index reply need, change.event = .step id index reply ∧
      site.engine.need? id index = some need ∧ need.Fits reply := by
  obtain ⟨index, reply, need, call, event, -, needs, told, -⟩ := told
  refine ⟨index, reply, need, event, needs, ?_⟩
  unfold Call.Told at told
  split at told
  · exact told ▸ fits _ _
  · exact Outside.Tells.fits told

/-- Each step takes the call on. -/
theorem Visited.act (visited : site.Visited outside output known entries id fate)
    (fits : ∀ file (need : Need), need.Fits (output file need)) (told : site.Told outside output id change) :
    (site.act change).Visited outside output known entries id fate := by
  obtain ⟨index, reply, need, call, event, now, needs, told, remains⟩ := told
  have setup := setup_step site.engine id index reply
  have fate := (fate?_step now (visited.trusting now) needs told fits).trans visited.fate
  have sole := visited.sole.step now
    (fun _ _ knows read => visited.shares.trusts visited.genuine knows read) needs told
  have genuine := visited.sole.genuine visited.shares needs visited.genuine remains
  rw [Site.act, event]
  exact ⟨sole, by rw [Engine.act, setup]; exact visited.shares, genuine, fate⟩

/-- Each step leaves less to do. -/
theorem Visited.toGo_act (visited : site.Visited outside output known entries id fate)
    (fits : ∀ file (need : Need), need.Fits (output file need)) (told : site.Told outside output id change) :
    (site.act change).engine.toGo id < site.engine.toGo id := by
  obtain ⟨index, reply, need, event, needs, answers⟩ := told.fits fits
  rw [Site.act, event]
  exact visited.sole.toGo_step needs answers

/-- Something can be told about every need. -/
private theorem exists_told (outside : Outside) (output : Output) (held : Path → Option ByteArray)
    (call : Call) (need : Need) : ∃ reply, call.Told outside output held need reply := by
  unfold Call.Told
  split
  · exact ⟨_, rfl⟩
  · cases need with
    | nothing => exact ⟨.nothing, trivial⟩
    | readText path => exact ⟨_, rfl⟩
    | readBytes path =>
      cases there : held path with
      | some bytes => exact ⟨_, .ok bytes, rfl, by rintro _ ⟨⟩; exact there⟩
      | none => exact ⟨_, .error .missing, rfl, by rintro _ ⟨⟩⟩
    | look path => exact ⟨.there false, trivial⟩
    | describe task request => exact ⟨_, 0, Nat.zero_le _, rfl⟩
    | _ => exact ⟨.done (.ok ()), trivial⟩

/-- A call that can take no step has come to its fate, and the engine is between calls. -/
theorem Visited.ends (visited : site.Visited outside output known entries id fate)
    (stuck : ∀ change, ¬ site.Told outside output id change) :
    site.engine.result? id = some fate.result ∧ site.engine.standing = fate.standing ∧
      site.engine.Resting := by
  have answered : (site.engine.result? id).isSome := by
    cases going : site.engine.result? id with
    | some result => rfl
    | none =>
      obtain ⟨index, need, needs⟩ := visited.sole.exists_need going
      obtain ⟨⟨call, now, -⟩, -⟩ := visited.sole
      obtain ⟨reply, told⟩ := exists_told outside output site.files call need
      exact (stuck ⟨.step id index reply, site.files⟩
        ⟨index, reply, need, call, rfl, now, needs, told, fun _ => .inl rfl⟩).elim
  obtain ⟨⟨call, now, phase⟩, _, orderly⟩ := visited.sole
  have fate := visited.fate
  have idle := orderly.idle_of_result answered
  rw [result?, now, Option.bind_some] at answered ⊢
  rw [fate?, now, Option.map_some, Option.some.injEq] at fate
  cases call with
  | finished result =>
    subst fate
    exact ⟨rfl, rfl, ⟨_, _, orderly⟩, idle, phase⟩
  | _ => cases answered

/-- What is left to do bounds the steps of a call, and it comes to its end. -/
theorem Visited.exists_run (visited : site.Visited outside output known entries id fate)
    (fits : ∀ file (need : Need), need.Fits (output file need)) :
    ∃ changes, Follows Site.act (Told outside output id) site changes ∧
      ∀ change, ¬ (site.run changes).Told outside output id change := by
  induction left : site.engine.toGo id using Nat.strongRecOn generalizing site with
  | ind steps ih =>
    by_cases stuck : ∀ change, ¬ site.Told outside output id change
    · exact ⟨[], trivial, stuck⟩
    · obtain ⟨change, told⟩ := not_forall_not.mp stuck
      have less := visited.toGo_act fits told
      obtain ⟨changes, follows, ended⟩ := ih _ (left ▸ less) (visited.act fits told) rfl
      exact ⟨change :: changes, ⟨told, follows⟩, ended⟩

end Site

end Engine

end ComponentCatalog
