import ComponentCatalog.Proofs.Engine.Site

/-! # When the published module is replaced by an empty one

A call that is to write a module without components looks first whether there is one. It does not wait
for calls that publish: if one of these writes the module behind the look, the call still writes its own
over it. Once there is a module, that happens exactly if some call has looked before and is not through.
-/

namespace ComponentCatalog

open Component

/-! ## The empty module -/

private theorem Json.indentedText_object (entry : String × Json) (rest : List (String × Json)) :
    ∃ tail, indentedText 0 (.object (entry :: rest)) = '{' :: '\n' :: tail := by
  obtain ⟨key, value⟩ := entry
  cases rest <;> exact ⟨_, rfl⟩

private theorem RecordSet.toList_moduleText (records : RecordSet) :
    records.moduleText.toList =
      "export default ".toList ++ (Json.indentedText 0 records.toJson ++ "\n".toList) := by
  unfold moduleText text Json.indented
  simp only [String.toList_append, List.append_assoc, String.toList_ofList]

/-- The module of no records is that of no other ones. -/
theorem RecordSet.moduleText_ne {records : RecordSet} (some_ : records ≠ []) :
    records.moduleText.toUTF8 ≠ (moduleText []).toUTF8 := by
  obtain ⟨entry, rest, rfl⟩ := List.exists_cons_of_ne_nil some_
  intro same
  have chars := congrArg String.toList (String.toByteArray_inj.mp same)
  rw [toList_moduleText, toList_moduleText, List.append_cancel_left_eq] at chars
  obtain ⟨tail, opened⟩ : ∃ tail,
      Json.indentedText 0 (RecordSet.toJson (entry :: rest)) = '{' :: '\n' :: tail :=
    Json.indentedText_object _ _
  have empty : Json.indentedText 0 (RecordSet.toJson []) = ['{', '}'] := rfl
  rw [opened, empty] at chars
  simp at chars

namespace Engine

/-! ## Calls for the empty module -/

/-- Calls that are to write the module without components write that into a directory. -/
def StubsIn (dir : Path) (engine : Engine) : Prop :=
  ∀ id call artifact, engine.calls.get? id = some call → call.stub? = some artifact →
    artifact.output = (dir.join moduleFile, RecordSet.moduleText [])

variable {engine : Engine} {dir : Path} {id index : Nat}

theorem StubsIn.act (stubs : engine.StubsIn dir) (out : engine.outputDir? = some dir)
    (event : Event) : (engine.act event).StubsIn dir := by
  intro id call artifact now stub
  rcases (engine.act_effect event).was now with before | publishes | how
  · exact stubs id call artifact before stub
  · cases publishes.stub?.symm.trans stub
  · cases how with
    | rest same _ => exact stubs id call artifact same.symm stub
    | start calm _ => cases calm.stub?.symm.trans stub
    | look out' =>
      cases stub
      cases out.symm.trans out'
      rfl
    | calm _ _ calm _ => cases calm.stub?.symm.trans stub
    | missing was =>
      cases stub
      exact stubs id _ _ was rfl
    | stub was going =>
      cases stub
      exact (Artifact.output_of_going going).trans (stubs id _ _ was rfl)
    | _ => cases stub

/-- What a call needs that writes a published file. -/
theorem need?_of_artifact? {artifact : Artifact}
    (writes : (engine.calls.get? id).bind Call.artifact? = some artifact) :
    engine.need? id index = some artifact.need := by
  obtain ⟨call, now, writes⟩ := Option.bind_eq_some_iff.mp writes
  unfold Call.artifact? at writes
  split at writes
  · cases writes
    simp [need?, now]
  · cases writes
    simp [need?, now]
  · cases writes

/-- No write fails. -/
def WritesSucceed (need : Need) (reply : Reply) : Prop :=
  match need, reply with
  | .write .., .done (.error _) => False
  | _, _ => True

/-- What is there stays there while a file is being written. -/
theorem Leaves.there {artifact : Artifact} {reply : Reply} {path : Path}
    {before after : Option ByteArray} (leaves : Leaves artifact.need reply path before after)
    (succeeds : WritesSucceed artifact.need reply) (there : before.isSome) : after.isSome := by
  by_cases another : artifact.file = path
  · cases stage : artifact.stage with
    | reading =>
      simp only [Artifact.need, stage] at leaves
      rwa [leaves.spared trivial]
    | makingDirs dir =>
      simp only [Artifact.need, stage] at leaves
      cases reply with
      | done result => rwa [show after = before from leaves there]
      | _ => cases leaves
    | writing =>
      simp only [Artifact.need, stage] at leaves succeeds
      cases reply with
      | done result =>
        cases result with
        | ok done =>
          rw [show after = _ from leaves, if_pos another]
          rfl
        | error cause => cases succeeds
      | _ => cases leaves
  · rwa [leaves.beside another there]

namespace Site

variable {site : Site} {jobs : Job → Prop} {change : Change}

/-- A step of a call for the module without components puts that in the place of something else. -/
def Replaces (dir : Path) (site : Site) (change : Change) : Prop :=
  ∃ id index reply artifact bytes, change.event = .step id index reply ∧
    site.engine.calls.get? id = some (.writingStub artifact) ∧
    site.files (dir.join moduleFile) = some bytes ∧ bytes ≠ (RecordSet.moduleText []).toUTF8 ∧
    change.files (dir.join moduleFile) = some (RecordSet.moduleText []).toUTF8

/-- There is a module, and no call is still writing one without components. -/
structure Safe (dir : Path) (site : Site) : Prop where
  out : site.engine.outputDir? = some dir
  stubs : site.engine.StubsIn dir
  there : (site.files (dir.join moduleFile)).isSome
  through : ∀ id artifact, site.engine.calls.get? id ≠ some (.writingStub artifact)

private theorem Safe.there_act (safe : site.Safe dir)
    (allows : site.Allows dir jobs WritesSucceed change) :
    (change.files (dir.join moduleFile)).isSome := by
  have kept (keeps : site.Keeps dir change) : (change.files (dir.join moduleFile)).isSome := by
    rw [keeps _ List.mem_cons_self]
    exact safe.there
  cases touches : site.engine.touched? change.event with
  | none => exact kept (allows.keeps touches)
  | some artifact =>
    rcases allows.keeps_or_serves with
      keeps | ⟨id, index, reply, touched, need, needs, succeeds, leaves⟩
    · exact kept keeps
    · have own : site.engine.need? id index = some artifact.need :=
        need?_of_artifact? (touched.symm.trans touches)
      cases own.symm.trans needs
      exact (leaves _ List.mem_cons_self).there succeeds safe.there

/-- Every change with no write failing keeps it. -/
theorem Safe.act (safe : site.Safe dir) (allows : site.Allows dir jobs WritesSucceed change) :
    (site.act change).Safe dir where
  out := (site.engine.act_effect change.event).outputDir.trans safe.out
  stubs := safe.stubs.act safe.out change.event
  there := safe.there_act allows
  through := by
    obtain ⟨event, files⟩ := change
    intro id artifact now
    rcases (site.engine.act_effect event).was now with before | publishes | how
    · exact safe.through id artifact before
    · cases publishes
    · cases how with
      | rest same _ => exact safe.through id artifact same.symm
      | start calm _ => cases calm
      | calm _ _ calm _ => cases calm
      | @missing _ index _ was =>
        obtain ⟨need, needs, -, leaves⟩ := allows
        have same : Need.look artifact.file = need := by simpa [need?, was] using needs
        subst same
        have file := congrArg Prod.fst (safe.stubs id _ artifact was rfl)
        have gone := (leaves _ List.mem_cons_self).2 file
        rw [safe.there] at gone
        cases gone
      | stub was _ => exact safe.through id _ was

/-- With no write failing, some changes go on until a step replaces the module. -/
def CanBeReplaced (dir : Path) (site : Site) : Prop :=
  ∃ changes change,
    Follows act (Allows dir (fun _ => True) WritesSucceed) site (changes ++ [change]) ∧
      (site.run changes).Replaces dir change

/-! ## Driving a call to its end -/

private theorem CanBeReplaced.of_act (allows : site.Allows dir (fun _ => True) WritesSucceed change)
    (later : (site.act change).CanBeReplaced dir) : site.CanBeReplaced dir := by
  obtain ⟨changes, last, follows, replaces⟩ := later
  exact ⟨change :: changes, last, ⟨allows, follows⟩, replaces⟩

variable {artifact next : Artifact} {reply : Reply} {bytes : ByteArray}

/-- A step that takes the writing on can leave all files as they are. -/
private theorem canBeReplaced_of_going
    (now : site.engine.calls.get? id = some (.writingStub artifact))
    (leaves : ∀ path, Leaves artifact.need reply path (site.files path) (site.files path))
    (succeeds : WritesSucceed artifact.need reply) (going : artifact.step reply = .going next)
    (later : ∀ site' : Site, site'.engine.calls.get? id = some (.writingStub next) →
      site'.files = site.files → site'.CanBeReplaced dir) : site.CanBeReplaced dir := by
  have needs : site.engine.need? id 0 = some artifact.need := by simp [need?, now]
  have allows : site.Allows dir (fun _ => True) WritesSucceed ⟨.step id 0 reply, site.files⟩ :=
    ⟨_, needs, succeeds, fun path _ => leaves path⟩
  refine .of_act allows (later _ ?_ rfl)
  show (site.engine.step id 0 reply).calls.get? id = _
  simp only [step, now, stepStub, going, calls_setCall, if_pos]

private theorem canBeReplaced_writing
    (now : site.engine.calls.get? id = some (.writingStub artifact))
    (own : artifact.output = (dir.join moduleFile, RecordSet.moduleText []))
    (held : site.files (dir.join moduleFile) = some bytes)
    (other : bytes ≠ (RecordSet.moduleText []).toUTF8) (stage : artifact.stage = .writing) :
    site.CanBeReplaced dir := by
  obtain ⟨file, text⟩ := Prod.mk.inj own
  have needs : site.engine.need? id 0 =
      some (.write (dir.join moduleFile) (RecordSet.moduleText [])) := by
    simp only [need?, now, Artifact.need, stage, file, text]
  refine ⟨[], ⟨.step id 0 (.done (.ok ())), fun path => if dir.join moduleFile = path then
    some (RecordSet.moduleText []).toUTF8 else site.files path⟩, ⟨?_, trivial⟩, ?_⟩
  · exact ⟨_, needs, trivial, fun path _ => rfl⟩
  · exact ⟨id, 0, _, _, bytes, rfl, now, held, other, if_pos rfl⟩

private theorem canBeReplaced_makingDirs {parent : Path}
    (now : site.engine.calls.get? id = some (.writingStub artifact))
    (own : artifact.output = (dir.join moduleFile, RecordSet.moduleText []))
    (held : site.files (dir.join moduleFile) = some bytes)
    (other : bytes ≠ (RecordSet.moduleText []).toUTF8) (stage : artifact.stage = .makingDirs parent) :
    site.CanBeReplaced dir := by
  have need : artifact.need = .makeDirs parent := by simp only [Artifact.need, stage]
  have going : artifact.step (.done (.ok ())) = .going { artifact with stage := .writing } := by
    simp only [Artifact.step, stage]
  refine canBeReplaced_of_going now ?_ ?_ going fun site' now' same => ?_
  · rw [need]
    exact fun path _ => rfl
  · rw [need]
    trivial
  · exact canBeReplaced_writing now' own (same ▸ held) other rfl

/-- A call that is writing the module without components can replace another one. -/
theorem canBeReplaced_of_writingStub
    (now : site.engine.calls.get? id = some (.writingStub artifact))
    (own : artifact.output = (dir.join moduleFile, RecordSet.moduleText []))
    (held : site.files (dir.join moduleFile) = some bytes)
    (other : bytes ≠ (RecordSet.moduleText []).toUTF8) : site.CanBeReplaced dir := by
  cases stage : artifact.stage with
  | writing => exact canBeReplaced_writing now own held other stage
  | makingDirs parent => exact canBeReplaced_makingDirs now own held other stage
  | reading =>
    obtain ⟨file, text⟩ := Prod.mk.inj own
    have need : artifact.need = .readBytes (dir.join moduleFile) := by
      simp only [Artifact.need, stage, file]
    have going := Artifact.going_of_other stage (text ▸ other)
    refine canBeReplaced_of_going now ?_ ?_ going fun site' now' same => ?_
    · rw [need]
      rintro path
      refine ⟨rfl, ?_⟩
      rintro rfl
      exact held
    · rw [need]
      trivial
    · have own' := artifact.output_replace.trans own
      rcases artifact.stage_replace with ⟨parent, making⟩ | writing
      · exact canBeReplaced_makingDirs now' own' (same ▸ held) other making
      · exact canBeReplaced_writing now' own' (same ▸ held) other writing

/-! ## When the module can be replaced -/

theorem stubsIn_run (created : site.engine.Created) (out : site.engine.outputDir? = some dir)
    (changes : List Change) : (site.run changes).engine.StubsIn dir := by
  have none : site.engine.StubsIn dir := by
    intro id _ _ now
    cases (created.calls id).symm.trans now
  clear created
  induction changes generalizing site with
  | nil => exact none
  | cons change rest ih =>
    have out' := (site.engine.act_effect change.event).outputDir.trans out
    exact ih out' (none.act out change.event)

/-- Once there is the module of some components, a call for the module without any can replace it
exactly if one has looked for a module, found none, and is not through. -/
theorem canBeReplaced_iff (created : site.engine.Created) (out : site.engine.outputDir? = some dir)
    (changes : List Change) {records : RecordSet} (some_ : records ≠ [])
    (held : (site.run changes).files (dir.join moduleFile) = some records.moduleText.toUTF8) :
    (site.run changes).CanBeReplaced dir ↔
      ∃ id artifact, (site.run changes).engine.calls.get? id = some (.writingStub artifact) := by
  have stubs := stubsIn_run created out changes
  constructor
  · rintro ⟨more, change, follows, id, _, _, artifact, _, -, now, -⟩
    -- If no call were writing it now, none ever would: each that looks from now on finds the module.
    refine Classical.byContradiction fun through => ?_
    have safe : (site.run changes).Safe dir :=
      ⟨(outputDir_run site changes).trans out, stubs, by simp [held],
        fun id artifact now => through ⟨id, artifact, now⟩⟩
    have earlier := (Follows.concat_iff.mp follows).1
    have later := earlier.preserves (fun _ _ safe allows => Safe.act safe allows) safe
    exact later.through id artifact now
  · rintro ⟨id, artifact, now⟩
    exact canBeReplaced_of_writingStub now (stubs id _ artifact now rfl) held
      (RecordSet.moduleText_ne some_)

/-- A call looks for a module and finds none. Then a component is read, and published by the call that
is to write the module now. -/
def lateLook : List Change :=
  [⟨.start 0 .stub, fun _ => none⟩, ⟨.step 0 0 (.there false), fun _ => none⟩,
    ⟨.start 1 (.parse ⟨"Card", ⟨"/Card.vue"⟩, false⟩), fun _ => none⟩,
    ⟨.step 1 0 (.text (.error .missing)), fun _ => none⟩,
    ⟨.start 2 (.sync [⟨"Card", ⟨"/Card.vue"⟩, false⟩]), fun _ => none⟩,
    ⟨.step 1 0 .nothing, fun _ => none⟩, ⟨.step 1 0 .nothing, fun _ => none⟩,
    ⟨.step 1 0 .nothing, fun _ => none⟩, ⟨.step 1 0 (.bytes (.error .missing)), fun _ => none⟩,
    ⟨.step 1 0 (.done (.ok ())), fun _ => none⟩]

/-- The records that are published then. -/
def lateRecords : RecordSet := (emptySite.run lateLook).engine.records

/-- The module is written. -/
def lateModule : List Change :=
  lateLook ++ [⟨.step 1 0 (.done (.ok ())), fun path =>
    if Path.join ⟨"/out"⟩ moduleFile = path then some lateRecords.moduleText.toUTF8 else none⟩]

/-- Is the module being written, with nothing left to do before? -/
def writesModule : Option Call → Bool
  | some (.publishing _ (.writing _ [first, _])) => first.stage == .writing
  | _ => false

private theorem need_lateLook : (emptySite.run lateLook).engine.need? 1 0 =
    some (.write (Path.join ⟨"/out"⟩ moduleFile) lateRecords.moduleText) := by
  have writes : writesModule ((emptySite.run lateLook).engine.calls.get? 1) = true := by
    decide +kernel
  have locked : (emptySite.run lateLook).engine.Locked :=
    created_emptySite.locked.run (lateLook.map Change.event)
  unfold writesModule at writes
  split at writes
  · next pending snapshot first second now =>
    obtain ⟨file, text⟩ := Prod.mk.inj (locked.module_first (outputDir_run emptySite lateLook) now)
    simp only [need?, now, Artifact.need, beq_iff_eq.mp writes, file, text, lateRecords]
  · cases writes

private theorem follows_lateModule :
    Follows act (Allows ⟨"/out"⟩ (fun _ => True) WritesSucceed) emptySite lateModule := by
  refine Follows.append ?_ ⟨⟨_, need_lateLook, trivial, fun path _ => rfl⟩, trivial⟩
  refine ⟨⟨rfl, trivial, fun _ _ => rfl⟩, ?_⟩
  refine ⟨⟨_, rfl, trivial, fun _ _ => ⟨rfl, fun _ => rfl⟩⟩, ?_⟩
  refine ⟨⟨rfl, trivial, fun _ _ => rfl⟩, ?_⟩
  refine ⟨⟨_, rfl, trivial, fun _ _ => rfl⟩, ?_⟩
  refine ⟨⟨rfl, trivial, fun _ _ => rfl⟩, ?_⟩
  refine ⟨⟨.nothing, by decide +kernel, trivial, fun _ _ => rfl⟩, ?_⟩
  refine ⟨⟨.nothing, by decide +kernel, trivial, fun _ _ => rfl⟩, ?_⟩
  refine ⟨⟨.nothing, by decide +kernel, trivial, fun _ _ => rfl⟩, ?_⟩
  refine ⟨⟨.readBytes ⟨"/out/component-meta.mjs"⟩, by decide +kernel, trivial, fun _ _ => rfl⟩, ?_⟩
  exact ⟨⟨.makeDirs ⟨"/out"⟩, by decide +kernel, trivial, fun _ _ _ => rfl⟩, trivial⟩

private theorem held_lateModule :
    (emptySite.run lateModule).files (Path.join ⟨"/out"⟩ moduleFile) =
      some lateRecords.moduleText.toUTF8 := by
  rw [lateModule, run_concat]
  exact if_pos rfl

private theorem lateRecords_ne : lateRecords ≠ [] := by decide +kernel

/-- Behind the late look, the module of the component can be replaced. -/
theorem canBeReplaced_iff_late :
    emptySite.engine.Created ∧ emptySite.engine.outputDir? = some ⟨"/out"⟩ ∧ lateRecords ≠ [] ∧
      (emptySite.run lateModule).files (Path.join ⟨"/out"⟩ moduleFile) =
        some lateRecords.moduleText.toUTF8 ∧
      ((emptySite.run lateModule).CanBeReplaced ⟨"/out"⟩ ↔
        ∃ id artifact, (emptySite.run lateModule).engine.calls.get? id =
          some (.writingStub artifact)) :=
  ⟨created_emptySite, rfl, lateRecords_ne, held_lateModule,
    canBeReplaced_iff created_emptySite rfl lateModule lateRecords_ne held_lateModule⟩

private theorem records_lateModule : (emptySite.run lateModule).engine.records = lateRecords := by
  decide +kernel

/-- Is the module without components being written? -/
def writesStub : Option Call → Bool
  | some (.writingStub _) => true
  | _ => false

private theorem writingStub_lateModule : ∃ artifact,
    (emptySite.run lateModule).engine.calls.get? 0 = some (.writingStub artifact) := by
  have writes : writesStub ((emptySite.run lateModule).engine.calls.get? 0) = true := by
    decide +kernel
  unfold writesStub at writes
  split at writes
  · next artifact now => exact ⟨artifact, now⟩
  · cases writes

/-- The module of published components can be replaced by the one without any, with no write
failing. -/
theorem published_module_replaced :
    ¬ ∀ (site : Site) (dir : Path), site.engine.Created → site.engine.outputDir? = some dir →
      ∀ changes, Follows act (Allows dir (fun _ => True) WritesSucceed) site changes →
        (site.run changes).engine.published.isStub = false →
        (site.run changes).files (dir.join moduleFile) =
          some (site.run changes).engine.records.moduleText.toUTF8 →
        ∀ more change,
          Follows act (Allows dir (fun _ => True) WritesSucceed) (site.run changes)
            (more ++ [change]) →
          ¬ ((site.run changes).run more).Replaces dir change := by
  intro always
  obtain ⟨artifact, now⟩ := writingStub_lateModule
  have own : artifact.output = (Path.join ⟨"/out"⟩ moduleFile, RecordSet.moduleText []) :=
    stubsIn_run created_emptySite rfl lateModule 0 _ artifact now rfl
  obtain ⟨more, change, follows, replaces⟩ := canBeReplaced_of_writingStub now own held_lateModule
    (RecordSet.moduleText_ne lateRecords_ne)
  refine always emptySite ⟨"/out"⟩ created_emptySite rfl lateModule follows_lateModule
    (by decide +kernel) ?_ more change follows replaces
  rw [records_lateModule]
  exact held_lateModule

end Site

end Engine

end ComponentCatalog
