import ComponentCatalog.Proofs.Engine.Site
import ComponentCatalog.Proofs.Engine.Snapshot
import Mathlib.Data.List.Induction

/-! # When the published files are up to date

A snapshot is published before its files are written, and as long as nothing changes no later call
writes them: the published snapshot will do. So if a call breaks off the writing, the files stay as they
are until another snapshot is published. That is the only way in which they come to hold anything else
than the published snapshot while no call publishes.
-/

namespace ComponentCatalog

open Component

namespace Engine

/-- A call that writes the files of a snapshot. -/
def Call.Writing : Call → Prop
  | .publishing _ (.writing ..) => True
  | _ => False

theorem Call.Writing.publishes {call : Call} (writing : call.Writing) : call.Publishes := by
  cases call with
  | publishing pending publication =>
    cases publication with
    | writing _ _ => trivial
    | _ => cases writing
  | _ => cases writing

theorem Call.Calm.not_writing {call : Call} (calm : call.Calm) : ¬ call.Writing :=
  fun writing => calm.not_publishes writing.publishes

theorem Call.writing_of_artifact? {call : Call} {artifact : Artifact}
    (writes : call.artifact? = some artifact) (stubless : call.stub? = none) : call.Writing := by
  unfold Call.artifact? at writes
  split at writes
  · trivial
  · cases stubless
  · cases writes

/-- A call writes the files of a snapshot now. -/
def Writing (engine : Engine) (id : Nat) : Prop :=
  ∃ call, engine.calls.get? id = some call ∧ call.Writing

variable {engine next : Engine} {id : Nat}

theorem Locked.writing_unique (locked : engine.Locked) {other : Nat} (left : engine.Writing id)
    (right : engine.Writing other) : id = other := by
  obtain ⟨call, now, writing⟩ := left
  obtain ⟨call', now', writing'⟩ := right
  exact locked.unique now writing.publishes now' writing'.publishes

/-- If the one call that changed wrote no files before and writes none now, those that do are the
same. -/
theorem writing_iff {call? : Option Call}
    (calls : ∀ other, next.calls.get? other = if id = other then call? else engine.calls.get? other)
    (before : ∀ call, engine.calls.get? id = some call → ¬ call.Writing)
    (behind : ∀ call, call? = some call → ¬ call.Writing) (other : Nat) (call : Call)
    (writing : call.Writing) :
    next.calls.get? other = some call ↔ engine.calls.get? other = some call := by
  rw [calls]
  split
  · next same =>
    subst same
    exact iff_of_false (fun now => behind call now writing) fun now => before call now writing
  · exact Iff.rfl

/-- When the call that was writing moves on to something else, none writes any more. -/
theorem Locked.none_writing (locked : engine.Locked) {call? : Option Call}
    (moved : engine.Moved next id call?) (was : engine.Writing id)
    (behind : ∀ call, call? = some call → ¬ call.Writing) (other : Nat) : ¬ next.Writing other := by
  rintro ⟨call, now, writing⟩
  rcases moved.was now with ⟨-, same⟩ | ⟨another, before⟩
  · exact behind call same writing
  · exact another (locked.writing_unique was ⟨call, before, writing⟩)

namespace Site

/-- The published files hold the published snapshot. -/
def Holds (site : Site) : Prop :=
  ∀ output ∈ site.engine.outputs, site.files output.1 = some output.2.toUTF8

/-- A call that was writing published files ends with a fault or is dropped, and leaves them with
something else. -/
def Breaks (site : Site) (change : Change) : Prop :=
  ∃ id, site.engine.Writing id ∧
    (change.event = .drop id ∨
      ∃ fault, (site.act change).engine.calls.get? id = some (.finished (.error fault))) ∧
    ¬ (site.act change).Holds

/-- The writing of the published snapshot was broken off. -/
def BrokenOff (site : Site) (changes : List Change) : Prop :=
  ∃ before change after, changes = before ++ change :: after ∧ (site.run before).Breaks change ∧
    (site.run before).engine.published = (site.run changes).engine.published

/-- The files of the published snapshot that are not left to write hold their texts, and calls that
write files or showed a snapshot did so of a real one. -/
structure Sound (dir : Path) (site : Site) : Prop where
  out : site.engine.outputDir? = some dir
  locked : site.engine.Locked
  stubless : ∀ id call, site.engine.calls.get? id = some call → call.stub? = none
  real : ∀ id call, site.engine.calls.get? id = some call → call.Writing ∨ call.Showed →
    site.engine.published.isStub = false
  written : ∀ id pending snapshot artifacts,
    site.engine.calls.get? id = some (.publishing pending (.writing snapshot artifacts)) →
      ∀ output ∈ site.engine.outputs, output ∈ artifacts.map Artifact.output ∨
        site.files output.1 = some output.2.toUTF8

/-- What a change can be to the writing of published files. -/
inductive Course (dir : Path) (site : Site) (change : Change) : Prop
  /-- Nothing. -/
  | quiet
      (published : (site.act change).engine.published = site.engine.published)
      (outputs : (site.act change).engine.outputs = site.engine.outputs)
      (keeps : site.Keeps dir change)
      (calls : ∀ id call, call.Writing →
        ((site.act change).engine.calls.get? id = some call ↔
          site.engine.calls.get? id = some call))
  /-- A call goes on writing. -/
  | going {id : Nat} {pending : Pending} {snapshot : Snapshot} {artifacts : List Artifact}
      (was : site.engine.Writing id)
      (now : (site.act change).engine.calls.get? id =
        some (.publishing pending (.writing snapshot artifacts)))
      (published : (site.act change).engine.published = site.engine.published)
      (written : ∀ output ∈ (site.act change).engine.outputs,
        output ∈ artifacts.map Artifact.output ∨
          (site.act change).files output.1 = some output.2.toUTF8)
  /-- The call that was writing ends. -/
  | ends {id : Nat}
      (was : site.engine.Writing id)
      (none : ∀ other, ¬ (site.act change).engine.Writing other)
      (published : (site.act change).engine.published = site.engine.published)
      (outcome : (site.act change).Holds ∨ site.Breaks change)
  /-- Another snapshot is published. -/
  | publishes {id : Nat} {pending : Pending}
      (now : (site.act change).engine.calls.get? id =
        some (.publishing pending (.writing (site.act change).engine.published
          ((site.act change).engine.artifacts (site.act change).engine.published))))
      (generation : (site.act change).engine.published.generation =
        site.engine.cache.generation + 1)

variable {site : Site} {dir : Path} {replies : Need → Reply → Prop} {change : Change}

theorem output_mem (out : site.engine.outputDir? = some dir) {output : Path × String}
    (member : output ∈ site.engine.outputs) : output.1 ∈ outputFiles dir := by
  rw [outputs_eq out] at member
  simp only [List.mem_cons, List.not_mem_nil, or_false] at member
  rcases member with rfl | rfl <;> simp [outputFiles]

/-- Of the files of a snapshot no two are the same. -/
theorem output_eq (out : site.engine.outputDir? = some dir) {output output' : Path × String}
    (member : output ∈ site.engine.outputs) (member' : output' ∈ site.engine.outputs)
    (same : output.1 = output'.1) : output = output' := by
  rw [outputs_eq out] at member member'
  simp only [List.mem_cons, List.not_mem_nil, or_false] at member member'
  rcases member with rfl | rfl <;> rcases member' with rfl | rfl
  · rfl
  · exact absurd same (module_ne_json dir)
  · exact absurd same.symm (module_ne_json dir)
  · rfl

theorem Holds.congr (out : site.engine.outputDir? = some dir)
    (outputs : (site.act change).engine.outputs = site.engine.outputs)
    (keeps : site.Keeps dir change) : (site.act change).Holds ↔ site.Holds := by
  unfold Holds
  rw [outputs]
  refine forall₂_congr fun output member => ?_
  show change.files output.1 = _ ↔ _
  rw [keeps _ (output_mem out member)]

/-- While a call goes on writing a file, each file of the snapshot is left to write or holds its
text. -/
private theorem Sound.going (sound : site.Sound dir) {id index : Nat} {reply : Reply}
    {pending : Pending} {snapshot : Snapshot} {artifact : Artifact} {rest left : List Artifact}
    (now : site.engine.calls.get? id =
      some (.publishing pending (.writing snapshot (artifact :: rest))))
    (progress : (∃ going, artifact.step reply = .going going ∧ left = going :: rest) ∨
      artifact.step reply = .written ∧ left = rest)
    (serves : site.Serves dir replies id index reply change) {output : Path × String}
    (member : output ∈ site.engine.outputs) :
    output ∈ left.map Artifact.output ∨ change.files output.1 = some output.2.toUTF8 := by
  obtain ⟨need, needs, -, leaves⟩ := serves
  have same : artifact.need = need := by simpa [need?, now] using needs
  subst same
  have own : artifact.output ∈ site.engine.outputs :=
    (sound.locked.writing id _ _ _ now).2.subset List.mem_cons_self
  -- The file that the reply is about, or the other one: that is left for later, or held already, and
  -- then stays as it is.
  by_cases this : output = artifact.output
  · subst this
    rcases progress with ⟨going, step, rfl⟩ | ⟨step, rfl⟩
    · exact .inl (Artifact.output_of_going step ▸ List.mem_cons_self)
    · exact .inr ((leaves _ (output_mem sound.out own)).written step)
  · rcases sound.written id _ _ _ now output member with unwritten | held
    · have behind := (List.mem_cons.mp unwritten).resolve_left this
      refine .inl ?_
      rcases progress with ⟨going, -, rfl⟩ | ⟨-, rfl⟩
      · exact List.mem_cons_of_mem _ behind
      · exact behind
    · have another : artifact.file ≠ output.1 :=
        fun same => this (output_eq sound.out member own same.symm)
      have kept := (leaves _ (output_mem sound.out member)).beside another (by simp [held])
      exact .inr (kept.trans held)

/-- A call that was writing ends with a fault or is dropped: unless the files hold what they should, it
breaks off. -/
private theorem Sound.broken (sound : site.Sound dir) {id : Nat} {call? : Option Call}
    (moved : site.engine.Moved (site.act change).engine id call?) (was : site.engine.Writing id)
    (behind : ∀ call, call? = some call → ¬ call.Writing)
    (ending : change.event = .drop id ∨ ∃ fault, call? = some (.finished (.error fault))) :
    site.Course dir change := by
  refine .ends was (sound.locked.none_writing moved was behind) moved.published ?_
  by_cases holds : (site.act change).Holds
  · exact .inl holds
  · refine .inr ⟨id, was, ending.imp_right ?_, holds⟩
    rintro ⟨fault, rfl⟩
    exact ⟨fault, (moved.calls id).trans (if_pos rfl)⟩

private theorem Sound.course_move (sound : site.Sound dir) {event : Event}
    {files : Path → Option ByteArray} {id : Nat} {call? : Option Call}
    (allows : site.Allows dir (· ≠ .stub) replies ⟨event, files⟩)
    (moved : site.engine.Moved (site.act ⟨event, files⟩).engine id call?)
    (how : site.engine.Move event id call?) : site.Course dir ⟨event, files⟩ := by
  -- No published file is touched, and the call that moved writes none before and behind.
  have quiet (quiet : site.engine.touched? event = none)
      (before : ∀ call, site.engine.calls.get? id = some call → ¬ call.Writing)
      (behind : ∀ call, call? = some call → ¬ call.Writing) : site.Course dir ⟨event, files⟩ :=
    .quiet moved.published moved.outputs (allows.keeps quiet)
      (writing_iff moved.calls before behind)
  cases how with
  | rest same untouched =>
    refine .quiet moved.published moved.outputs (allows.keeps untouched) fun other call _ => ?_
    rw [moved.calls, same]
    split
    · next here => rw [here]
    · exact Iff.rfl
  | start calm _ =>
    refine quiet rfl ?_ ?_
    · intro before now
      cases allows.1.symm.trans now
    · rintro _ ⟨⟩
      exact calm.not_writing
  | look _ => exact absurd rfl allows.2.1
  | drop =>
    by_cases was : site.engine.Writing id
    · exact sound.broken moved was (by rintro _ ⟨⟩) (.inl rfl)
    · refine quiet ?_ (fun call now writing => was ⟨call, now, writing⟩) (by rintro _ ⟨⟩)
      by_contra touched
      obtain ⟨artifact, touched⟩ := Option.ne_none_iff_exists'.mp touched
      obtain ⟨call, now, writes⟩ := Option.bind_eq_some_iff.mp touched
      exact was ⟨call, now, Call.writing_of_artifact? writes (sound.stubless id call now)⟩
  | calm now was calm _ =>
    refine quiet ?_ ?_ ?_
    · simp [touched?, now, was.artifact?]
    · intro _ there
      cases now.symm.trans there
      exact was.not_writing
    · rintro _ ⟨⟩
      exact calm.not_writing
  | write now progress =>
    refine .going ⟨_, now, trivial⟩ ((moved.calls id).trans (if_pos rfl)) moved.published ?_
    rw [moved.outputs]
    exact fun output member => sound.going now progress allows member
  | failed now _ =>
    refine sound.broken moved ⟨_, now, trivial⟩ ?_ (.inr ⟨_, rfl⟩)
    rintro _ ⟨⟩
    exact not_false
  | deliver now =>
    have was : site.engine.Writing id := ⟨_, now, trivial⟩
    refine .ends was (sound.locked.none_writing moved was ?_) moved.published (.inl ?_)
    · rintro _ ⟨⟩
      exact not_false
    · have keeps := allows.keeps (by simp [touched?, now, Call.artifact?])
      refine (Holds.congr sound.out moved.outputs keeps).mpr fun output member => ?_
      exact (sound.written _ _ _ _ now output member).resolve_left List.not_mem_nil
  | there now => cases sound.stubless id _ now
  | missing now => cases sound.stubless id _ now
  | stub now _ => cases sound.stubless id _ now
  | stubbed now _ => cases sound.stubless id _ now

/-- A call sets about taking a snapshot, or comes by one more component. -/
private theorem Allows.course_collecting (allows : site.Allows dir (· ≠ .stub) replies change)
    {id : Nat} {pending : Pending} {before : Publication} {revision : Nat} {rest : List Identity}
    {shown : Table String SnapshotEntry} {middle : Engine}
    (next : (site.act change).engine =
      middle.setCall id (.publishing pending (.collecting revision rest shown)))
    (same : middle.calls = site.engine.calls) (published : middle.published = site.engine.published)
    (outputs : middle.outputs = site.engine.outputs)
    (now : site.engine.calls.get? id = some (.publishing pending before))
    (wrote : ¬ (Call.publishing pending before).Writing)
    (quiet : site.engine.touched? change.event = none) : site.Course dir change := by
  have calls (other : Nat) : (site.act change).engine.calls.get? other =
      if id = other then some (.publishing pending (.collecting revision rest shown))
      else site.engine.calls.get? other := by
    rw [next, calls_setCall, same]
  refine .quiet ?_ ?_ (allows.keeps quiet) (writing_iff calls ?_ ?_)
  · rw [next]
    exact published
  · rw [next]
    exact outputs
  · intro call there
    cases now.symm.trans there
    exact wrote
  · rintro _ ⟨⟩
    exact not_false

/-- Each change that is allowed, with calls for all but the module without components, is one of
these. -/
theorem Sound.course (sound : site.Sound dir) (allows : site.Allows dir (· ≠ .stub) replies change) :
    site.Course dir change := by
  obtain ⟨event, files⟩ := change
  have effect := site.engine.act_effect event
  generalize next : site.engine.act event = engine' at effect
  have act : (site.act ⟨event, files⟩).engine = engine' := next
  cases effect with
  | move moved how =>
    subst next
    exact sound.course_move allows moved how
  | turn now _ =>
    exact allows.course_collecting act rfl rfl rfl now not_false
      (by simp [touched?, now, Call.artifact?])
  | collect now =>
    exact allows.course_collecting act rfl rfl rfl now not_false
      (by simp [touched?, now, Call.artifact?])
  | @publish id index reply pending revision shown now =>
    refine @Course.publishes dir site ⟨.step id index reply, files⟩ id pending ?_ ?_
    · rw [act, calls_setCall, if_pos rfl]
      rfl
    · rw [act]
      rfl

private theorem Sound.stubless_act (sound : site.Sound dir)
    (allows : site.Allows dir (· ≠ .stub) replies change) {id : Nat} {call : Call}
    (now : (site.act change).engine.calls.get? id = some call) : call.stub? = none := by
  obtain ⟨event, files⟩ := change
  rcases (site.engine.act_effect event).was now with before | publishes | how
  · exact sound.stubless id call before
  · exact publishes.stub?
  · cases how with
    | rest same _ => exact sound.stubless id call same.symm
    | start calm _ => exact calm.stub?
    | look _ => exact absurd rfl allows.2.1
    | calm _ _ calm _ => exact calm.stub?
    | missing was => cases sound.stubless id _ was
    | stub was _ => cases sound.stubless id _ was
    | _ => rfl

/-- A call shows a snapshot only once a real one is published. -/
private theorem Sound.showed_act (sound : site.Sound dir)
    (allows : site.Allows dir (· ≠ .stub) replies change) {id : Nat} {call : Call}
    (now : (site.act change).engine.calls.get? id = some call) (showed : call.Showed) :
    (site.act change).engine.published.isStub = false := by
  obtain ⟨event, files⟩ := change
  have effect := site.engine.act_effect event
  refine effect.real ?_
  rcases effect.was now with before | publishes | how
  · exact sound.real id call before (.inr showed)
  · obtain ⟨_, rfl⟩ := showed
    cases publishes
  · cases how with
    | rest same _ => exact sound.real id call same.symm (.inr showed)
    | start _ stub => exact absurd (stub showed) allows.2.1
    | calm _ _ _ current => exact (current showed).1
    | deliver was => exact sound.real id _ was (.inl trivial)
    | there was => cases sound.stubless id _ was
    | stubbed was _ => cases sound.stubless id _ was
    | look _ => exact absurd rfl allows.2.1
    | _ =>
      obtain ⟨_, same⟩ := showed
      cases same

/-- A call writes the files of a real snapshot. -/
private theorem Sound.writing_act (sound : site.Sound dir)
    (allows : site.Allows dir (· ≠ .stub) replies change)
    (now : (site.act change).engine.Writing id) :
    (site.act change).engine.published.isStub = false := by
  obtain ⟨call, there, writing⟩ := now
  cases sound.course allows with
  | quiet published _ _ calls =>
    rw [published]
    exact sound.real id call ((calls id call writing).mp there) (.inl writing)
  | going was _ published _ =>
    obtain ⟨before, wrote, writes⟩ := was
    rw [published]
    exact sound.real _ before wrote (.inl writes)
  | ends _ none _ _ => exact absurd ⟨call, there, writing⟩ (none id)
  | publishes _ generation => simp [Snapshot.isStub, generation]

/-- What is not left to write is written. -/
private theorem Sound.written_act (sound : site.Sound dir)
    (allows : site.Allows dir (· ≠ .stub) replies change) {pending : Pending} {snapshot : Snapshot}
    {artifacts : List Artifact}
    (now : (site.act change).engine.calls.get? id =
      some (.publishing pending (.writing snapshot artifacts))) {output : Path × String}
    (member : output ∈ (site.act change).engine.outputs) :
    output ∈ artifacts.map Artifact.output ∨
      (site.act change).files output.1 = some output.2.toUTF8 := by
  have locked := sound.locked.act change.event
  cases sound.course allows with
  | quiet _ outputs keeps calls =>
    rw [outputs] at member
    have was := (calls id (.publishing pending (.writing snapshot artifacts)) trivial).mp now
    refine (sound.written id _ _ _ was output member).imp_right fun held => ?_
    exact (keeps _ (output_mem sound.out member)).trans held
  | going _ there _ written =>
    obtain rfl := locked.unique now trivial there trivial
    cases now.symm.trans there
    exact written output member
  | ends _ none _ _ => exact absurd ⟨_, now, trivial⟩ (none id)
  | publishes there _ =>
    obtain rfl := locked.unique now trivial there trivial
    cases now.symm.trans there
    exact .inl member

/-- Every change that is allowed keeps it. -/
theorem Sound.act (sound : site.Sound dir) (allows : site.Allows dir (· ≠ .stub) replies change) :
    (site.act change).Sound dir where
  out := (site.engine.act_effect change.event).outputDir.trans sound.out
  locked := sound.locked.act change.event
  stubless := fun _ _ now => sound.stubless_act allows now
  real := by
    rintro id call now (writing | showed)
    · exact sound.writing_act allows ⟨call, now, writing⟩
    · exact sound.showed_act allows now showed
  written := fun _ _ _ _ now _ member => sound.written_act allows now member

variable {changes : List Change}

/-- A writing was broken off in a run: it was in the last change, or earlier. -/
theorem brokenOff_concat_iff :
    site.BrokenOff (changes ++ [change]) ↔
      (site.run changes).Breaks change ∧ (site.run changes).engine.published =
        (site.run (changes ++ [change])).engine.published ∨
      ∃ before earlier after, changes = before ++ earlier :: after ∧
        (site.run before).Breaks earlier ∧ (site.run before).engine.published =
          (site.run (changes ++ [change])).engine.published := by
  constructor
  · rintro ⟨before, last, after, split, breaks, same⟩
    rcases List.eq_nil_or_concat after with rfl | ⟨later, final, rfl⟩
    · obtain ⟨rfl, tail⟩ := List.append_inj' split rfl
      cases tail
      exact .inl ⟨breaks, same⟩
    · have split' : changes ++ [change] = (before ++ last :: later) ++ [final] := by
        simpa using split
      obtain ⟨rfl, -⟩ := List.append_inj' split' rfl
      exact .inr ⟨before, last, later, rfl, breaks, same⟩
  · rintro (⟨breaks, same⟩ | ⟨before, earlier, after, rfl, breaks, same⟩)
    · exact ⟨changes, change, [], rfl, breaks, same⟩
    · exact ⟨before, earlier, after ++ [change], by simp, breaks, same⟩

/-- While the same snapshot is published, its writing was broken off before, or is now. -/
theorem brokenOff_concat_iff_of_same (published : ((site.run changes).act change).engine.published =
    (site.run changes).engine.published) : site.BrokenOff (changes ++ [change]) ↔
      (site.run changes).Breaks change ∨ site.BrokenOff changes := by
  rw [brokenOff_concat_iff, run_concat, published]
  exact or_congr (and_iff_left rfl) Iff.rfl

/-- Does a run keep account of the published files? They hold what they should, unless the writing was
broken off; and no writing goes on that was. -/
structure Accounted (dir : Path) (site : Site) (changes : List Change) : Prop where
  sound : (site.run changes).Sound dir
  older : ∀ before, before <+: changes → (site.run before).engine.published.generation ≤
    (site.run changes).engine.cache.generation
  writing : ∀ id, (site.run changes).engine.Writing id → ¬ site.BrokenOff changes
  idle : (∀ id, ¬ (site.run changes).engine.Writing id) →
    (site.run changes).engine.published.isStub = false →
      ((site.run changes).Holds ↔ ¬ site.BrokenOff changes)

/-- A call that goes on writing breaks nothing off. -/
private theorem not_breaks_of_writing (locked : site.engine.Locked) {id : Nat}
    (was : site.engine.Writing id) (now : (site.act change).engine.Writing id) :
    ¬ site.Breaks change := by
  rintro ⟨other, was', ending, -⟩
  obtain rfl := locked.writing_unique was was'
  obtain ⟨call, there, writing⟩ := now
  rcases ending with dropped | ⟨fault, finished⟩
  · have gone : (site.act change).engine.calls.get? id = none := by
      show (site.engine.act change.event).calls.get? id = none
      rw [dropped]
      exact (calls_drop ..).trans (if_pos rfl)
    cases gone.symm.trans there
  · cases finished.symm.trans there
    exact writing

/-- A snapshot that is just published was not broken off. -/
private theorem Accounted.fresh (accounted : site.Accounted dir changes)
    (generation : ((site.run changes).act change).engine.published.generation =
      (site.run changes).engine.cache.generation + 1) : ¬ site.BrokenOff (changes ++ [change]) := by
  have newer : ∀ before, before <+: changes → (site.run before).engine.published ≠
      ((site.run changes).act change).engine.published := by
    intro before part same
    have older := accounted.older before part
    rw [same] at older
    omega
  rw [brokenOff_concat_iff, run_concat]
  rintro (⟨-, same⟩ | ⟨before, earlier, after, rfl, -, same⟩)
  · exact newer changes (List.prefix_refl _) same
  · exact newer before (List.prefix_append ..) same

/-- A call that goes on writing does not write what was broken off. -/
private theorem Accounted.goes_on (accounted : site.Accounted dir changes)
    (was : (site.run changes).engine.Writing id)
    (now : ((site.run changes).act change).engine.Writing id)
    (published : ((site.run changes).act change).engine.published =
      (site.run changes).engine.published) : ¬ site.BrokenOff (changes ++ [change]) := by
  rw [brokenOff_concat_iff_of_same published]
  rintro (breaks | earlier)
  · exact not_breaks_of_writing accounted.sound.locked was now breaks
  · exact accounted.writing id was earlier

private theorem Accounted.writing_concat (accounted : site.Accounted dir changes)
    (allows : (site.run changes).Allows dir (· ≠ .stub) replies change)
    (now : ((site.run changes).act change).engine.Writing id) :
    ¬ site.BrokenOff (changes ++ [change]) := by
  cases accounted.sound.course allows with
  | quiet published _ _ calls =>
    obtain ⟨call, there, writing⟩ := now
    have was := (calls id call writing).mp there
    exact accounted.goes_on ⟨call, was, writing⟩ ⟨call, there, writing⟩ published
  | going was there published _ => exact accounted.goes_on was ⟨_, there, trivial⟩ published
  | ends _ none _ _ => exact absurd now (none id)
  | publishes _ generation => exact accounted.fresh generation

private theorem Accounted.idle_concat (accounted : site.Accounted dir changes)
    (allows : (site.run changes).Allows dir (· ≠ .stub) replies change)
    (none : ∀ id, ¬ ((site.run changes).act change).engine.Writing id)
    (real : ((site.run changes).act change).engine.published.isStub = false) :
    ((site.run changes).act change).Holds ↔ ¬ site.BrokenOff (changes ++ [change]) := by
  cases accounted.sound.course allows with
  | quiet published outputs keeps calls =>
    have before : ∀ id, ¬ (site.run changes).engine.Writing id := by
      rintro id ⟨call, there, writing⟩
      exact none id ⟨call, (calls id call writing).mpr there, writing⟩
    have unbroken : ¬ (site.run changes).Breaks change := fun ⟨id, was, _⟩ => before id was
    rw [brokenOff_concat_iff_of_same published, or_iff_right unbroken,
      Holds.congr accounted.sound.out outputs keeps]
    exact accounted.idle before (published ▸ real)
  | going _ there _ _ => exact absurd ⟨_, there, trivial⟩ (none _)
  | ends was _ published outcome =>
    rw [brokenOff_concat_iff_of_same published, or_iff_left (accounted.writing _ was)]
    constructor
    · rintro holds ⟨-, -, -, wrong⟩
      exact wrong holds
    · exact fun unbroken => outcome.resolve_right unbroken
  | publishes there _ => exact absurd ⟨_, there, trivial⟩ (none _)

/-- Every change that is allowed keeps account. -/
theorem Accounted.concat (accounted : site.Accounted dir changes)
    (allows : (site.run changes).Allows dir (· ≠ .stub) replies change) :
    site.Accounted dir (changes ++ [change]) := by
  have sound := accounted.sound.act allows
  have generation := ((site.run changes).engine.act_effect change.event).generation
  have behind := site.run_concat changes change
  refine ⟨behind ▸ sound, ?_, ?_, ?_⟩
  · intro before part
    rw [behind]
    rcases List.prefix_concat_iff.mp part with rfl | earlier
    · rw [behind]
      exact sound.locked.generation
    · exact Nat.le_trans (accounted.older before earlier) generation
  · rw [behind]
    exact fun id now => accounted.writing_concat allows now
  · rw [behind]
    exact accounted.idle_concat allows

end Site

end Engine

end ComponentCatalog
