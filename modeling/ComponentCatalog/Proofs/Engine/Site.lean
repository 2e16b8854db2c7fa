import ComponentCatalog.Proofs.Digest.Fingerprint
import ComponentCatalog.Proofs.Engine.Publisher

/-! # An engine and the files that it publishes

What an engine reads and writes is seen here beside it: every path holds the bytes of a file, or
nothing. An event goes along with what the paths hold behind it. Any reply may be a fault; a reply that
is none tells the truth about the published files, and nothing changes them but what the engine asked
for. Of all that calls need, only the writing of published files itself does change them.
-/

namespace ComponentCatalog

open Component

/-! ## Names of files -/

theorem Path.text_join (base : Path) (below : String) :
    ∃ front : String, (base.join below).text = front ++ below := by
  unfold join
  split
  · exact ⟨"", by simp⟩
  · split
    · exact ⟨base.text, rfl⟩
    · exact ⟨base.text ++ "/", rfl⟩

/-- Names that differ at a place, counted from their ends, lead to different files. -/
theorem Path.join_ne_join {base other : Path} {a b : String} (place : Nat) (inA : place < a.length)
    (inB : place < b.length) (differ : a.toList.reverse[place]? ≠ b.toList.reverse[place]?) :
    base.join a ≠ other.join b := by
  intro same
  obtain ⟨front, left⟩ := base.text_join a
  obtain ⟨front', right⟩ := other.text_join b
  have texts : front ++ a = front' ++ b := by rw [← left, ← right, same]
  have chars := congrArg (fun text => text.toList.reverse[place]?) texts
  simp only [String.toList_append, List.reverse_append] at chars
  rw [List.getElem?_append_left (by rwa [List.length_reverse, String.length_toList]),
    List.getElem?_append_left (by rwa [List.length_reverse, String.length_toList])] at chars
  exact differ chars

namespace Engine

/-- The module and the file with the records. -/
def outputFiles (dir : Path) : List Path := [dir.join moduleFile, dir.join jsonFile]

theorem module_ne_json (dir : Path) : dir.join moduleFile ≠ dir.join jsonFile :=
  Path.join_ne_join 0 (by decide) (by decide) (by decide)

/-- No file of a store is a published one: in front of its extension stands a digit. -/
theorem store_file_ne {dir path : Path} (output : path ∈ outputFiles dir) (store : Store)
    (component : Path) : store.file component ≠ path := by
  obtain ⟨n, name⟩ : ∃ n, store.fileName component = Digest.hexText 16 n ++ ".json" := ⟨_, rfl⟩
  have width := Digest.le_length_hexText 16 n
  simp only [outputFiles, List.mem_cons, List.not_mem_nil, or_false] at output
  unfold Store.file
  rw [name]
  rcases output with rfl | rfl
  · refine Path.join_ne_join 0 ?_ (by decide) ?_
    · rw [String.length_append]
      omega
    · rw [String.toList_append, List.reverse_append, List.getElem?_append_left (by decide)]
      decide
  · refine Path.join_ne_join 6 ?_ (by decide) ?_
    · rw [String.length_append]
      omega
    · intro same
      have letter : jsonFile.toList.reverse[6]? = some 't' := by decide
      have other : ∀ digit < 16, 't' ≠ digit.digitChar := by decide
      rw [letter, String.toList_append, List.reverse_append,
        List.getElem?_append_right (by decide)] at same
      have member := List.mem_reverse.mp (List.mem_of_getElem? same)
      obtain ⟨digit, small, same⟩ := Digest.exists_digit_of_mem_hexText member
      exact other digit small same

/-! ## What needs leave behind -/

/-- What a path holds behind a need and its reply. A reply that does not fit the need leaves nothing. -/
def Leaves (need : Need) (reply : Reply) (path : Path) (before after : Option ByteArray) : Prop :=
  match need, reply with
  | .nothing, .nothing | .readText _, .text _ | .describe .., .answered .. => after = before
  | .readBytes file, .bytes (.ok bytes) => after = before ∧ (file = path → before = some bytes)
  | .readBytes _, .bytes (.error _) => after = before
  | .look file, .there yes => after = before ∧ (file = path → yes = before.isSome)
  -- A directory that was missing can be on the way to a file that is there.
  | .makeDirs _, .done _ => before.isSome → after = before
  | .write file text, .done (.ok ()) => after = if file = path then some text.toUTF8 else before
  -- What was begun may have been written in part.
  | .write file _, .done (.error _) | .remove file, .done _ => file = path ∨ after = before
  | _, _ => False

/-- A need that does not change what a path holds. -/
def Spares (path : Path) : Need → Prop
  | .makeDirs _ => False
  | .write file _ | .remove file => file ≠ path
  | _ => True

theorem Leaves.spared {need : Need} {reply : Reply} {path : Path} {before after : Option ByteArray}
    (leaves : Leaves need reply path before after) (spares : Spares path need) : after = before := by
  unfold Leaves at leaves
  split at leaves
  · exact leaves
  · exact leaves
  · exact leaves
  · exact leaves.1
  · exact leaves
  · exact leaves.1
  · cases spares
  · rwa [if_neg spares] at leaves
  · exact leaves.resolve_left spares
  · exact leaves.resolve_left spares
  · cases leaves

variable {artifact : Artifact} {reply : Reply} {path : Path} {before after : Option ByteArray}

/-- When a file is written, it holds its text. -/
theorem Leaves.written (leaves : Leaves artifact.need reply artifact.file before after)
    (written : artifact.step reply = .written) : after = some artifact.text.toUTF8 := by
  rcases Artifact.reply_of_written written with ⟨stage, rfl⟩ | ⟨stage, rfl⟩
  · simp only [Artifact.need, stage] at leaves
    exact leaves.1.trans (leaves.2 rfl)
  · simpa [Artifact.need, stage, Leaves] using leaves

/-- While a file is being written, the others that are there stay as they are. -/
theorem Leaves.beside (leaves : Leaves artifact.need reply path before after)
    (another : artifact.file ≠ path) (there : before.isSome) : after = before := by
  cases stage : artifact.stage with
  | reading =>
    simp only [Artifact.need, stage] at leaves
    exact leaves.spared trivial
  | makingDirs dir =>
    simp only [Artifact.need, stage] at leaves
    cases reply with
    | done result => exact leaves there
    | _ => cases leaves
  | writing =>
    simp only [Artifact.need, stage] at leaves
    exact leaves.spared another

/-- What an analysis needs spares published files. -/
private theorem spares_analysis {dir : Path} (output : path ∈ outputFiles dir)
    (analysis : Cache.Analysis) (setup : Cache.Setup) (task : Nat) :
    Spares path (analysis.need setup task) := by
  unfold Cache.Analysis.need
  cases analysis.stage with
  | storing metadata time =>
    cases setup.store? with
    | none => trivial
    | some store => exact store_file_ne output store _
  | created => cases setup.store? <;> trivial
  | asked request => trivial
  | found result => trivial
  | recorded result => trivial

/-- What getting an entry needs spares published files. -/
private theorem spares_get {dir : Path} (output : path ∈ outputFiles dir) {get : Cache.Get}
    {setup : Cache.Setup} {cache : Cache} {need : Need} (needs : get.need? setup cache = some need) :
    Spares path need := by
  unfold Cache.Get.need? at needs
  cases stage : get.stage with
  | reading =>
    rw [stage] at needs
    cases needs
    trivial
  | looking source =>
    rw [stage] at needs
    cases needs
    trivial
  | waiting source task joined =>
    rw [stage] at needs
    obtain ⟨analysis, -, rfl⟩ := Option.map_eq_some_iff.mp needs
    exact spares_analysis output analysis setup task
  | done result =>
    rw [stage] at needs
    cases needs

/-- What a call needs that writes no published file spares all of them. -/
theorem spares_of_quiet {engine : Engine} {dir : Path} {id index : Nat} {need : Need}
    (quiet : (engine.calls.get? id).bind Call.artifact? = none)
    (needs : engine.need? id index = some need) (output : path ∈ outputFiles dir) :
    Spares path need := by
  cases now : engine.calls.get? id with
  | none => simp [need?, now] at needs
  | some call =>
    rw [now] at quiet
    simp only [need?, now] at needs
    cases call with
    | getting goal gets =>
      obtain ⟨get, -, needs⟩ := Option.bind_eq_some_iff.mp needs
      exact spares_get output needs
    | forgetting paths diff? =>
      cases paths with
      | nil =>
        cases needs
        trivial
      | cons first rest =>
        cases needs
        cases engine.setup.store? with
        | none => trivial
        | some store => exact store_file_ne output store first
    | publishing pending publication =>
      cases publication with
      | waiting =>
        simp only at needs
        split at needs <;> cases needs
        trivial
      | collecting _ _ _ =>
        cases needs
        trivial
      | writing snapshot artifacts =>
        cases artifacts with
        | nil =>
          cases needs
          trivial
        | cons _ _ => cases quiet
    | lookingForStub artifact =>
      cases needs
      trivial
    | writingStub artifact => cases quiet
    | finished result => cases needs

/-! ## Events beside files -/

/-- An engine, and what the paths hold. -/
structure Site where
  engine : Engine
  files : Path → Option ByteArray

namespace Site

/-- An event, and what the paths hold behind it. -/
structure Change where
  event : Event
  files : Path → Option ByteArray

/-- The site behind a change. -/
def act (site : Site) (change : Change) : Site := ⟨site.engine.act change.event, change.files⟩

/-- The site behind changes. -/
def run (site : Site) (changes : List Change) : Site := changes.foldl act site

/-- The published files stay as they are. -/
def Keeps (dir : Path) (site : Site) (change : Change) : Prop :=
  ∀ path ∈ outputFiles dir, change.files path = site.files path

/-- What a call needs gets a reply that is allowed. -/
def Serves (dir : Path) (replies : Need → Reply → Prop) (site : Site) (id index : Nat) (reply : Reply)
    (change : Change) : Prop :=
  ∃ need, site.engine.need? id index = some need ∧ replies need reply ∧
    ∀ path ∈ outputFiles dir, Leaves need reply path (site.files path) (change.files path)

/-- Calls are made under new numbers, for the jobs that are allowed, and get the replies that are. What
a call needs when it is dropped may be replied to, or not. -/
def Allows (dir : Path) (jobs : Job → Prop) (replies : Need → Reply → Prop) (site : Site)
    (change : Change) : Prop :=
  match change.event with
  | .start id job => site.engine.calls.get? id = none ∧ jobs job ∧ site.Keeps dir change
  | .step id index reply => site.Serves dir replies id index reply change
  | .drop id => site.Keeps dir change ∨ ∃ index reply, site.Serves dir replies id index reply change
  | _ => site.Keeps dir change

variable {site : Site} {dir : Path} {jobs : Job → Prop} {replies : Need → Reply → Prop}
  {change : Change}

theorem run_concat (site : Site) (changes : List Change) (change : Change) :
    site.run (changes ++ [change]) = (site.run changes).act change := by
  simp [run]

theorem outputDir_run (site : Site) (changes : List Change) :
    (site.run changes).engine.outputDir? = site.engine.outputDir? := by
  induction changes generalizing site with
  | nil => rfl
  | cons change rest ih =>
    exact (ih (site.act change)).trans (site.engine.act_effect change.event).outputDir

/-- A change keeps the published files, or a call gets a reply by it. -/
theorem Allows.keeps_or_serves (allows : site.Allows dir jobs replies change) :
    site.Keeps dir change ∨ ∃ id index reply,
      site.engine.touched? change.event = (site.engine.calls.get? id).bind Call.artifact? ∧
        site.Serves dir replies id index reply change := by
  unfold Allows at allows
  split at allows
  · exact .inl allows.2.2
  · next event => exact .inr ⟨_, _, _, by rw [event]; rfl, allows⟩
  · next event =>
    rcases allows with kept | ⟨index, reply, serves⟩
    · exact .inl kept
    · exact .inr ⟨_, index, reply, by rw [event]; rfl, serves⟩
  · exact .inl allows

/-- While no published file is being written, they stay as they are. -/
theorem Allows.keeps (allows : site.Allows dir jobs replies change)
    (quiet : site.engine.touched? change.event = none) : site.Keeps dir change := by
  rcases allows.keeps_or_serves with kept | ⟨id, index, reply, touched, need, needs, -, leaves⟩
  · exact kept
  · intro path output
    exact (leaves path output).spared (spares_of_quiet (touched.symm.trans quiet) needs output)

/-- An engine without components, and no files at all. -/
def emptySite : Site := ⟨.create { outputDir? := some ⟨"/out"⟩ } [] [] .none (.ok ()), fun _ => none⟩

theorem created_emptySite : emptySite.engine.Created :=
  ⟨{ outputDir? := some ⟨"/out"⟩ }, [], [], .none, .ok (), rfl⟩

end Site

end Engine

end ComponentCatalog
