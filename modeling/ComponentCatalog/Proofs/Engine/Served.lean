import ComponentCatalog.Proofs.Engine.Ending
import ComponentCatalog.Proofs.Engine.Outcome
import ComponentCatalog.Proofs.Engine.Reached

/-! # Calls that are served

Whatever a call needs, something outside replies to it. So a call that gets all components can be driven
on as long as it has no result, and what is left to do bounds the steps until it has one.
-/

namespace ComponentCatalog

open Component

namespace Engine

open Cache

namespace Site

variable {outside : Outside} {failing : Prop} {before site : Site} {id index : Nat} {change : Change}
  {changes : List Change}

/-! ## Serving -/

/-- The reply to a need that tells what is outside and what the files hold, and what they hold behind
it. Nothing fails. -/
def serve (outside : Outside) (files : Path → Option ByteArray) :
    Need → Reply × (Path → Option ByteArray)
  | .nothing => (.nothing, files)
  | .readText path => (.text (outside.source path), files)
  | .readBytes path =>
    match files path with
    | some bytes => (.bytes (.ok bytes), files)
    | none => (.bytes (.error .missing), files)
  | .describe _ request => (.answered (outside.answer request) 0, files)
  | .look path => (.there (files path).isSome, files)
  | .makeDirs _ => (.done (.ok ()), files)
  | .write path text =>
    (.done (.ok ()), fun other => if path = other then some text.toUTF8 else files other)
  | .remove path => (.done (.ok ()), fun other => if path = other then none else files other)

private theorem serve_replies (outside : Outside) (files : Path → Option ByteArray) (need : Need) :
    outside.Replies files need (serve outside files need).1 ∧
      (∀ path, Leaves need (serve outside files need).1 path (files path)
        ((serve outside files need).2 path)) ∧
      ∀ cause, (serve outside files need).1 ≠ .done (.error cause) := by
  cases need with
  | nothing => exact ⟨trivial, fun _ => rfl, by simp [serve]⟩
  | readText path => exact ⟨rfl, fun _ => rfl, by simp [serve]⟩
  | readBytes path =>
    cases held : files path with
    | some bytes =>
      simp only [serve, held]
      exact ⟨⟨_, rfl, held.symm⟩, fun other => ⟨rfl, fun same => same ▸ held⟩, by simp⟩
    | none =>
      simp only [serve, held]
      exact ⟨⟨_, rfl, held.symm⟩, fun _ => rfl, by simp⟩
  | describe task request => exact ⟨⟨0, rfl⟩, fun _ => rfl, by simp [serve]⟩
  | look path => exact ⟨trivial, fun other => ⟨rfl, fun same => same ▸ rfl⟩, by simp [serve]⟩
  | makeDirs dir => exact ⟨trivial, fun _ _ => rfl, by simp [serve]⟩
  | write path text => exact ⟨trivial, fun _ => rfl, by simp [serve]⟩
  | remove path =>
    refine ⟨trivial, fun other => ?_, by simp [serve]⟩
    by_cases same : path = other
    · exact .inl same
    · exact .inr (if_neg same)

/-- The step of a call at an index, with the reply to what it needs. -/
def served? (outside : Outside) (id : Nat) (site : Site) (index : Nat) : Option Change :=
  (site.engine.need? id index).map fun need =>
    ⟨.step id index (serve outside site.files need).1, (serve outside site.files need).2⟩

theorem replied_of_served
    (served : site.served? outside id index = some change) : Replied outside failing id site change := by
  obtain ⟨need, needs, rfl⟩ := Option.map_eq_some_iff.mp served
  obtain ⟨replies, leaves, works⟩ := serve_replies outside site.files need
  exact ⟨index, _, need, rfl, needs, replies, leaves, fun _ cause fails => absurd fails (works cause)⟩

/-- The steps of a call at indices, in their order, as far as it can take them. -/
def served (outside : Outside) (id : Nat) (site : Site) : List Nat → List Change
  | [] => []
  | index :: rest =>
    match site.served? outside id index with
    | some change => change :: served outside id (site.act change) rest
    | none => served outside id site rest

theorem follows_served (outside : Outside) (failing : Prop) (id : Nat) (site : Site)
    (indices : List Nat) :
    Follows Site.act (Replied outside failing id) site (site.served outside id indices) := by
  induction indices generalizing site with
  | nil => trivial
  | cons index rest ih =>
    unfold served
    split
    · next served => exact ⟨replied_of_served served, ih _⟩
    · exact ih site

/-! ## Whole calls -/

/-- What the call does without regard to what it gets. -/
private theorem GetsAll.fetches (getsAll : GetsAll outside failing before id site) :
    before.engine.Fetches id site.engine := by
  obtain ⟨call, there, phase⟩ := getsAll
  refine ⟨call, there, ?_⟩
  cases call with
  | getting goal gets => exact ⟨⟨_, phase.1⟩, phase.2.1.beside, phase.2.2⟩
  | publishing pending publication =>
    cases publication with
    | waiting => exact phase.2.2.2.2.2
    | _ => trivial
  | finished result => trivial
  | _ => exact phase.elim

/-- While the call has no result, there is a step that it can take. -/
theorem GetsAll.exists_replied (getsAll : GetsAll outside failing before id site)
    (free : before.engine.publisher? = none) (going : site.engine.result? id = none) :
    ∃ change, Replied outside failing id site change := by
  obtain ⟨index, need, needs⟩ := getsAll.fetches.exists_need free going
  have served : site.served? outside id index = some _ := congrArg (Option.map _) needs
  exact ⟨_, replied_of_served served⟩

/-- A call that has its result takes no step. -/
theorem not_replied_of_result (answered : (site.engine.result? id).isSome) (change : Change) :
    ¬ Replied outside failing id site change := by
  rintro ⟨index, -, need, -, needs, -⟩
  cases (need?_of_result answered).symm.trans needs

/-- What is outside tells a call its sources. -/
theorem informed_of_replied (replied : Replied outside failing id site change) :
    site.engine.Informed outside.source id change.event := by
  obtain ⟨index, reply, need, event, needs, replies, leaves, -⟩ := replied
  refine ⟨index, reply, need, event, needs, (leaves ⟨""⟩).fits, ?_⟩
  rintro path rfl
  exact replies

theorem follows_events (follows : Follows Site.act (Replied outside failing id) site changes) :
    Follows Engine.act (Informed outside.source id) site.engine (changes.map Change.event) := by
  induction changes generalizing site with
  | nil => trivial
  | cons change rest ih => exact ⟨informed_of_replied follows.1, ih follows.2⟩

theorem engine_run (site : Site) (changes : List Change) :
    (site.run changes).engine = site.engine.run (changes.map Change.event) := by
  induction changes generalizing site with
  | nil => rfl
  | cons change rest ih => exact ih (site.act change)

/-- What is left to do bounds the steps of a call. -/
theorem GetsAll.run (getsAll : GetsAll outside failing before id site) (ready : before.Ready)
    (follows : Follows Site.act (Replied outside failing id) site changes) :
    GetsAll outside failing before id (site.run changes) ∧
      changes.length + (site.run changes).engine.left id ≤ site.engine.left id := by
  refine ⟨follows.preserves (fun _ _ getsAll replied => getsAll.act ready replied) getsAll, ?_⟩
  have bound := getsAll.fetches.bounded ready.distinct (follows_events follows)
  rwa [List.length_map, ← engine_run] at bound

end Site

/-- What is ready when every call has ended and nothing is on its way. -/
theorem Reached.ready {engine : Engine} (reached : engine.Reached)
    (landed : ∀ path, (engine.cache.slot path).inFlight? = none)
    (stores : ∀ store, engine.setup.store? = some store →
      (engine.registry.list.map fun identity => store.file identity.path).Nodup)
    (files : Path → Option ByteArray) : Site.Ready ⟨engine, files⟩ :=
  ⟨reached.numbered.sound, reached.numbered.distinct, landed, stores⟩

end Engine

end ComponentCatalog
