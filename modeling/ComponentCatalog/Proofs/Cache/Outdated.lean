import ComponentCatalog.Proofs.Cache.Drive
import ComponentCatalog.Proofs.Cache.Seeking

/-! # When an outdated source can still be recorded

Sources are read before the slot is looked up, and a call that waited for an analysis of another
source looks up again without reading again. So a call can bring a source to the slot that the file
does not hold any more. `Exposed` is the exact extent: an entry of the source is recorded, an
analysis of it is on its way, or a call in progress owes it. As long as the file holds another text
and nothing is invalidated or removed, a fingerprint is recorded later exactly if it is exposed now.
-/

namespace ComponentCatalog

open Component

namespace Cache

/-- The slot of a path shows an entry of a source with the fingerprint. -/
def Records (cache : Cache) (path : Path) (fingerprint : Fingerprint) : Prop :=
  ∃ entry, (cache.slot path).last? = some entry ∧ entry.fingerprint? = some fingerprint

/-- An analysis of a source with the fingerprint is on its way to the slot, and has not ended for
want of an analyzer. -/
def Flies (cache : Cache) (path : Path) (fingerprint : Fingerprint) : Prop :=
  ∃ flight analysis, (cache.slot path).inFlight? = some flight ∧
    flight.fingerprint = fingerprint ∧ cache.tasks.get? flight.task = some analysis ∧
    ¬ analysis.Unavailable

/-- A call is to look up a source that it read: next, or once an analysis that it joined turns out
to be of another source. -/
def Get.Owes (cache : Cache) (path : Path) (fingerprint : Fingerprint) (get : Get) : Prop :=
  get.identity.path.parts = path.parts ∧ ∃ source, get.fingerprint source = fingerprint ∧
    (get.stage = .looking source ∨
      ∃ task analysis, get.stage = .waiting source task true ∧
        cache.tasks.get? task = some analysis ∧ analysis.fingerprint ≠ fingerprint ∧
        ¬ analysis.Unavailable)

namespace Session

/-- A source with the fingerprint is recorded, analyzed or still to be looked up. -/
inductive Exposed (session : Session) (path : Path) (fingerprint : Fingerprint) : Prop
  | recorded (records : session.cache.Records path fingerprint)
  | flying (flies : session.cache.Flies path fingerprint)
  | owed {id : Nat} {get : Get} (known : session.get? id = some get)
      (owes : get.Owes session.cache path fingerprint)

/-- The file holds a text, which fingerprints tell from the outdated one; calls on the path are made,
take steps and are dropped, and its entry is neither invalidated nor removed. -/
def Steady (path : Path) (text : String) (outdated : Fingerprint) (session : Session) : Move → Prop
  | .step id reply => ∀ get, session.get? id = some get → get.stage = .reading →
      get.identity.path.parts = path.parts →
        reply = .text (.ok text) ∧ get.fingerprint text ≠ outdated
  | .call _ | .drop _ | .snapshot _ => True
  | .invalidate other | .remove other => other.parts ≠ path.parts
  | .invalidateAll => False

/-! ## Nothing new is exposed -/

section

variable {setup : Setup} {cache cache' : Cache} {get : Get} {reply : Reply} {stage : Get.Stage}
  {path : Path} {fingerprint : Fingerprint}

/-- A call owes what it seeks. -/
private theorem owes_iff : get.Owes cache path fingerprint ↔
    get.identity.path.parts = path.parts ∧
      ∃ source, get.fingerprint source = fingerprint ∧ get.Seeks cache source := by
  constructor
  · rintro ⟨parts, source, rfl, stages⟩
    exact ⟨parts, source, rfl, stages⟩
  · rintro ⟨parts, source, rfl, seeks⟩
    exact ⟨parts, source, rfl, seeks⟩

private theorem owes_before (waits : get.Sound cache) (grows : cache.Extends cache')
    (owes : get.Owes cache' path fingerprint) : get.Owes cache path fingerprint := by
  obtain ⟨parts, source, hashed, seeks⟩ := owes_iff.mp owes
  exact owes_iff.mpr ⟨parts, source, hashed, seeks.before waits grows⟩

private theorem flies_before (sound : cache.Sound) (grows : cache.Extends cache')
    (same : (cache'.slot path).inFlight? = (cache.slot path).inFlight?)
    (flies : cache'.Flies path fingerprint) : cache.Flies path fingerprint := by
  obtain ⟨flight, later, flying, hashed, there, available⟩ := flies
  rw [same] at flying
  obtain ⟨analysis, present, _, _, _⟩ := (sound.slot path).flight flight flying
  obtain ⟨after, there', goes⟩ := grows.tasks present
  cases there.symm.trans there'
  exact ⟨flight, analysis, flying, hashed, present,
    fun unavailable => available (goes.unavailable unavailable)⟩

/-- What a step records was recorded before, or was on its way. -/
private theorem records_before (sound : cache.Sound)
    (change : Get.SlotChange cache cache' get reply stage path)
    (records : cache'.Records path fingerprint) :
    cache.Records path fingerprint ∨ cache.Flies path fingerprint := by
  obtain ⟨entry, last, hashed⟩ := records
  cases change with
  | kept same => exact .inl ⟨entry, same ▸ last, hashed⟩
  | unreadable _ _ _ _ now =>
    rw [now] at last
    cases last
    cases hashed
  | started _ _ _ _ now _ =>
    rw [now] at last
    exact .inl ⟨entry, last, hashed⟩
  | @recorded flight analysis _ flying present found now _ =>
    rw [now] at last
    cases last
    obtain ⟨outcome, rfl⟩ := (sound.analyses present).found entry
      (Analysis.result?_of_found found)
    obtain ⟨flown, there, _, prints, _⟩ := (sound.slot path).flight flight flying
    cases present.symm.trans there
    refine .inr ⟨flight, analysis, flying, prints.symm.trans (Option.some.inj hashed), present, ?_⟩
    rintro ⟨reason, unavailable⟩
    simp [Analysis.result?, found] at unavailable
  | landed _ _ _ now _ =>
    rw [now] at last
    exact .inl ⟨entry, last, hashed⟩

/-- What a step puts on its way was on its way before, or was owed by the call. -/
private theorem flies_or_owes_before (sound : cache.Sound) (grows : cache.Extends cache')
    (change : Get.SlotChange cache cache' get reply stage path)
    (flies : cache'.Flies path fingerprint) :
    cache.Flies path fingerprint ∨ get.Owes cache path fingerprint := by
  cases change with
  | kept same => exact .inl (flies_before sound grows (congrArg Slot.inFlight? same) flies)
  | @started source parts looking idle miss now _ =>
    obtain ⟨flight, later, flying, hashed, -⟩ := flies
    rw [now] at flying
    cases flying
    exact .inr ⟨parts, source, hashed, .inl looking⟩
  | unreadable _ _ _ _ now =>
    obtain ⟨flight, later, flying, -⟩ := flies
    simp [now, Slot.unreadable] at flying
  | recorded _ _ _ now _ =>
    obtain ⟨flight, later, flying, -⟩ := flies
    simp [now, Slot.recorded] at flying
  | landed _ _ _ now _ =>
    obtain ⟨flight, later, flying, -⟩ := flies
    simp [now, Slot.landed] at flying

/-- What the call owes after its step it owed before: it reads nothing that is outdated. -/
private theorem stepped_owes_before (sound : cache.Sound) (waits : get.Sound cache)
    (step : Get.Transition setup cache get reply cache' stage)
    (steady : get.stage = .reading → get.identity.path.parts = path.parts →
      ∃ text, reply = .text (.ok text) ∧ get.fingerprint text ≠ fingerprint)
    (owes : Get.Owes cache' path fingerprint { get with stage }) :
    get.Owes cache path fingerprint := by
  obtain ⟨parts, source, hashed, seeks⟩ := owes_iff.mp owes
  rcases step.seeks_before sound waits seeks with before | ⟨reading, read⟩
  · exact owes_iff.mpr ⟨parts, source, hashed, before⟩
  · obtain ⟨text, is_, apart⟩ := steady reading parts
    cases read.symm.trans is_
    exact absurd hashed apart

end

private theorem Exposed.of_cache {session : Session} {path : Path} {fingerprint : Fingerprint}
    (sound : session.Sound) {cache : Cache} (grows : session.cache.Extends cache)
    (same : cache.slot path = session.cache.slot path)
    (exposed : Exposed { session with cache } path fingerprint) :
    session.Exposed path fingerprint := by
  cases exposed with
  | recorded records =>
    obtain ⟨entry, last, hashed⟩ := records
    exact .recorded ⟨entry, same ▸ last, hashed⟩
  | flying flies => exact .flying (flies_before sound.cache grows (congrArg Slot.inFlight? same) flies)
  | owed known owes => exact .owed known (owes_before (sound.calls known) grows owes)

private theorem exposed_before_step {setup : Setup} {session : Session} {path : Path}
    {text : String} {fingerprint : Fingerprint} (sound : session.Sound) {id : Nat} {reply : Reply}
    (steady : Steady path text fingerprint session (.step id reply)) {get : Get}
    (known : session.get? id = some get)
    (exposed : (session.stepped id (get.step setup session.cache reply)).Exposed path fingerprint) :
    session.Exposed path fingerprint := by
  have step := get.step_transition setup session.cache reply
  have grows := step.grows sound.cache
  have change := step.slotChange path
  cases exposed with
  | recorded records =>
    exact (records_before sound.cache change records).elim .recorded .flying
  | flying flies =>
    exact (flies_or_owes_before sound.cache grows change flies).elim .flying (.owed known)
  | @owed other get' known' owes =>
    rw [get?_stepped session known] at known'
    split at known'
    · cases known'
      refine .owed known (stepped_owes_before sound.cache (sound.calls known) step ?_ ?_)
      · exact fun reading parts => ⟨text, steady get known reading parts⟩
      · rw [← get.identity_step setup session.cache reply]
        exact owes
    · exact .owed known' (owes_before (sound.calls known') grows owes)

/-- A steady move exposes nothing. -/
theorem exposed_before {setup : Setup} {session : Session} {path : Path} {text : String}
    {fingerprint : Fingerprint} (sound : session.Sound) (next : Move)
    (steady : Steady path text fingerprint session next)
    (exposed : (session.move setup next).Exposed path fingerprint) :
    session.Exposed path fingerprint := by
  cases next with
  | call identity =>
    cases exposed with
    | recorded records => exact .recorded records
    | flying flies => exact .flying flies
    | owed known owes =>
      rw [get?_call] at known
      split at known
      · cases known
        obtain ⟨_, _, _, looking | ⟨_, _, waiting, _⟩⟩ := owes
        · cases looking
        · cases waiting
      · exact .owed known owes
  | step id reply =>
    cases known : session.get? id with
    | none => rwa [move_step_none setup reply known] at exposed
    | some get =>
      rw [move_step setup reply known] at exposed
      exact exposed_before_step sound steady known exposed
  | drop id =>
    cases exposed with
    | recorded records => exact .recorded records
    | flying flies => exact .flying flies
    | owed known owes =>
      rw [get?_drop] at known
      split at known
      · cases known
      · exact .owed known owes
  | invalidate other =>
    refine .of_cache sound (.invalidate ..) ?_ exposed
    simp only [Cache.slot, slot?_invalidate, if_neg steady]
  | invalidateAll => exact steady.elim
  | remove other =>
    refine .of_cache sound (.remove ..) ?_ exposed
    simp only [Cache.slot, slot?_remove, if_neg steady]
  | snapshot components =>
    have grows : session.cache.Extends (session.cache.snapshot components).1 :=
      .of_tasks_eq rfl (Nat.le_refl _) (Nat.le_refl _)
    exact .of_cache sound grows rfl exposed

/-- In a steady run nothing is recorded later that is not exposed now. -/
theorem exposed_of_records {setup : Setup} {session : Session} (sound : session.Sound) {path : Path}
    {text : String} {fingerprint : Fingerprint} {moves : List Move}
    (steady : Follows (move setup) (Steady path text fingerprint) session moves)
    (records : (session.run setup moves).cache.Records path fingerprint) :
    session.Exposed path fingerprint := by
  induction moves generalizing session with
  | nil => exact .recorded records
  | cons next rest ih =>
    exact exposed_before sound next steady.1 (ih (sound.move setup next) steady.2 records)

/-! ## Whatever is exposed can be recorded -/

section

variable {setup : Setup} {session : Session} {path : Path} {text : String}
  {fingerprint : Fingerprint}

private theorem steady_of_drives {id : Nat} (session : Session) (move : Move)
    (drives : Drives id session move) : Steady path text fingerprint session move := by
  obtain ⟨reply, get, source, task, joined, rfl, known, waiting⟩ := drives
  intro other known' reading
  cases known.symm.trans known'
  cases waiting.symm.trans reading

variable (path text fingerprint) in
/-- A call that waits for the task on its way to the slot takes it to its end. -/
private theorem drive_flight (reached : session.Reached setup) {id : Nat} {get : Get}
    {source : String} {joined : Bool} {flight : InFlight}
    (known : session.get? id = some get)
    (flying : (session.cache.slot path).inFlight? = some flight)
    (waiting : get.stage = .waiting source flight.task joined) :
    ∃ moves, Follows (move setup) (Steady path text fingerprint) session moves ∧
      (∀ other, (session.run setup moves).get? other = session.get? other) ∧
      ((session.run setup moves).cache.slot path).inFlight? = none ∧
      (session.cache.Flies path fingerprint →
        (session.run setup moves).cache.Records path fingerprint) := by
  obtain ⟨analysis, present, parts, hashed, opened⟩ :=
    (reached.sound.cache.slot path).flight flight flying
  obtain ⟨moves, result, follows, driven⟩ := drive reached known waiting present
  obtain ⟨landed, last⟩ := driven.slot path flight flying rfl
  refine ⟨moves, follows.mono steady_of_drives, driven.calls, landed, ?_⟩
  rintro ⟨flight', analysis', flying', hashed', present', available⟩
  cases flying.symm.trans flying'
  cases present.symm.trans present'
  obtain ⟨entry, ok⟩ := driven.available available
  obtain ⟨later, there, grows, recorded⟩ := driven.ended
  obtain ⟨outcome, same⟩ := ((reached.run moves).sound.cache.analyses there).found entry
    (ok ▸ Analysis.result?_of_recorded recorded)
  exact ⟨entry, last entry ok, by rw [same, Analysis.entry, grows.fingerprint, hashed, hashed']⟩

variable (setup) in
/-- A new call reads the text and joins what is on its way. -/
private theorem ask (apart : Fingerprint.compute path text ≠ fingerprint) {flight : InFlight}
    (flying : (session.cache.slot path).inFlight? = some flight) :
    ∃ moves, Follows (move setup) (Steady path text fingerprint) session moves ∧
      session.run setup moves =
        session.pushed ⟨⟨"", path, false⟩, .waiting text flight.task true⟩ := by
  let identity : Identity := ⟨"", path, false⟩
  have last : ∀ stage, (session.pushed ⟨identity, stage⟩).get? session.calls.length =
      some ⟨identity, stage⟩ := fun stage => (get?_pushed ..).trans (if_pos rfl)
  have join : Get.step ⟨identity, .looking text⟩ setup session.cache .nothing =
      (session.cache, ⟨identity, .waiting text flight.task true⟩) :=
    Get.step_join setup .nothing rfl flying
  have reads : (session.pushed ⟨identity, .reading⟩).move setup
      (.step session.calls.length (.text (.ok text))) = session.pushed ⟨identity, .looking text⟩ :=
    move_pushed setup session ⟨identity, .reading⟩ (.text (.ok text))
  have joins : (session.pushed ⟨identity, .looking text⟩).move setup
      (.step session.calls.length .nothing) =
        session.pushed ⟨identity, .waiting text flight.task true⟩ := by
    rw [move_pushed, join]
  refine ⟨[.call identity, .step session.calls.length (.text (.ok text)),
    .step session.calls.length .nothing], ⟨trivial, ?_, ?_, trivial⟩, ?_⟩
  · intro get known _ _
    have known' : (session.pushed ⟨identity, .reading⟩).get? session.calls.length = some get := known
    cases (last .reading).symm.trans known'
    exact ⟨rfl, apart⟩
  · intro get known reading _
    have known' : (session.pushed ⟨identity, .looking text⟩).get? session.calls.length = some get :=
      reads ▸ known
    cases (last _).symm.trans known'
    cases reading
  · exact (congrArg (Session.move setup · (.step session.calls.length .nothing)) reads).trans joins

/-- A new call takes what is on its way to its end, and no other call goes on. -/
private theorem land (reached : session.Reached setup)
    (apart : Fingerprint.compute path text ≠ fingerprint) {flight : InFlight}
    (flying : (session.cache.slot path).inFlight? = some flight) :
    ∃ moves, Follows (move setup) (Steady path text fingerprint) session moves ∧
      (∀ id get, session.get? id = some get → (session.run setup moves).get? id = some get) ∧
      ((session.run setup moves).cache.slot path).inFlight? = none ∧
      (session.cache.Flies path fingerprint →
        (session.run setup moves).cache.Records path fingerprint) := by
  obtain ⟨asking, steady, asked⟩ := ask setup apart flying
  have reached' := reached.run asking
  rw [asked] at reached'
  obtain ⟨moves, follows, calls, landed, recorded⟩ :=
    drive_flight path text fingerprint reached'
      ((get?_pushed ..).trans (if_pos rfl)) flying rfl
  rw [← asked] at follows
  refine ⟨asking ++ moves, steady.append follows, ?_, ?_, ?_⟩
  · intro id get known
    have older := lt_of_get? known
    rw [run_append, asked, calls, get?_pushed, if_neg (by omega)]
    exact known
  · rw [run_append, asked]
    exact landed
  · rw [run_append, asked]
    exact recorded

/-- A call that looks up while nothing is on its way finds its source recorded, or has it analyzed. -/
private theorem records_of_idle (reached : session.Reached setup) {id : Nat} {get : Get}
    {source : String} (known : session.get? id = some get)
    (parts : get.identity.path.parts = path.parts) (looking : get.stage = .looking source)
    (hashed : get.fingerprint source = fingerprint)
    (idle : (session.cache.slot path).inFlight? = none) :
    ∃ moves, Follows (move setup) (Steady path text fingerprint) session moves ∧
      (session.run setup moves).cache.Records path fingerprint := by
  rw [← slot_congr session.cache parts] at idle
  cases hit : (session.cache.slot get.identity.path).hit? get.identity (get.fingerprint source) with
  | some entry =>
    have held := (Slot.hit?_eq_some hit).1
    rw [slot_congr session.cache parts, hashed] at held
    exact ⟨[], trivial, (reached.sound.cache.slot path).held fingerprint held⟩
  | none =>
    have started := Get.step_start setup .nothing looking idle hit
    have moved := move_step setup .nothing known
    rw [started] at moved
    have reached' := reached.move (.step id .nothing)
    rw [moved] at reached'
    obtain ⟨moves, follows, -, -, recorded⟩ :=
      drive_flight path text fingerprint reached'
        ((get?_stepped session known _ id).trans (if_pos rfl))
        (congrArg Slot.inFlight? (slot_eq _ ((slot?_launched ..).trans (if_pos parts)))) rfl
    refine ⟨.step id .nothing :: moves, ⟨?_, moved ▸ follows⟩, ?_⟩
    · intro other known' reading
      cases known.symm.trans known'
      cases looking.symm.trans reading
    · rw [run_cons, moved]
      refine recorded ⟨_, _,
        congrArg Slot.inFlight? (slot_eq _ ((slot?_launched ..).trans (if_pos parts))), hashed,
        (tasks_launched ..).trans (if_pos rfl), ?_⟩
      rintro ⟨reason, unavailable⟩
      cases unavailable

private theorem records_of_looking (reached : session.Reached setup)
    (apart : Fingerprint.compute path text ≠ fingerprint) {id : Nat} {get : Get} {source : String}
    (known : session.get? id = some get) (parts : get.identity.path.parts = path.parts)
    (looking : get.stage = .looking source) (hashed : get.fingerprint source = fingerprint) :
    ∃ moves, Follows (move setup) (Steady path text fingerprint) session moves ∧
      (session.run setup moves).cache.Records path fingerprint := by
  cases flying : (session.cache.slot path).inFlight? with
  | none => exact records_of_idle reached known parts looking hashed flying
  | some flight =>
    obtain ⟨moves, steady, calls, landed, -⟩ := land reached apart flying
    obtain ⟨rest, steady', records⟩ :=
      records_of_idle (reached.run moves) (calls id get known) parts looking hashed landed
    exact ⟨moves ++ rest, steady.append steady', by rwa [run_append]⟩

/-- Whatever is exposed a steady run can record. -/
theorem records_of_exposed (reached : session.Reached setup)
    (apart : Fingerprint.compute path text ≠ fingerprint)
    (exposed : session.Exposed path fingerprint) :
    ∃ moves, Follows (move setup) (Steady path text fingerprint) session moves ∧
      (session.run setup moves).cache.Records path fingerprint := by
  cases exposed with
  | recorded records => exact ⟨[], trivial, records⟩
  | flying flies =>
    obtain ⟨flight, analysis, flying, -⟩ := id flies
    obtain ⟨moves, steady, -, -, recorded⟩ := land reached apart flying
    exact ⟨moves, steady, recorded flies⟩
  | @owed id get known owes =>
    obtain ⟨parts, source, hashed, looking | ⟨task, analysis, waiting, present, other, available⟩⟩ :=
      owes
    · exact records_of_looking reached apart known parts looking hashed
    · obtain ⟨moves, result, drives, driven⟩ := drive reached known waiting present
      obtain ⟨entry, rfl⟩ := driven.available available
      obtain ⟨later, there, grows, recorded⟩ := driven.ended
      have reached' := reached.run moves
      have known' := (driven.calls id).trans known
      obtain ⟨outcome, rfl⟩ := (reached'.sound.cache.analyses there).found entry
        (Analysis.result?_of_recorded recorded)
      have looks : get.afterTask source true (.ok (later.entry outcome)) =
          { get with stage := .looking source } := by
        rw [← grows.fingerprint] at other
        simp [Get.afterTask, Analysis.entry, hashed, other]
      have moved := move_step setup .nothing known'
      rw [Get.step_take setup .nothing waiting there recorded, looks] at moved
      have known'' : ((session.run setup moves).move setup (.step id .nothing)).get? id =
          some { get with stage := .looking source } := by
        rw [moved, get?_stepped _ known', if_pos rfl]
      obtain ⟨rest, steady, records⟩ :=
        records_of_looking (reached'.move (.step id .nothing)) apart known'' parts rfl hashed
      refine ⟨moves ++ .step id .nothing :: rest,
        (drives.mono steady_of_drives).append ⟨?_, steady⟩, by rwa [run_append, run_cons]⟩
      intro get' there' reading
      cases known'.symm.trans there'
      cases waiting.symm.trans reading

end

/-- While the file holds a text, an outdated source is recorded in some later session exactly if it
is recorded, analyzed or owed by a call now. -/
theorem records_later_iff_exposed {setup : Setup} {session : Session}
    (reached : session.Reached setup) (path : Path) (text : String) (outdated : Fingerprint)
    (apart : Fingerprint.compute path text ≠ outdated) :
    (∃ moves, Follows (move setup) (Steady path text outdated) session moves ∧
      (session.run setup moves).cache.Records path outdated) ↔
      session.Exposed path outdated := by
  constructor
  · rintro ⟨moves, steady, records⟩
    exact exposed_of_records reached.sound steady records
  · exact records_of_exposed reached apart

/-- A file held one text, another one, and the first one again; three calls read it in this order.
The second and the third joined the analysis of the first, and the third has returned. -/
def rereadMoves : List Move :=
  [.call ⟨"Card", ⟨"/a"⟩, false⟩, .step 0 (.text (.ok "one")), .step 0 .nothing,
    .call ⟨"Card", ⟨"/a"⟩, false⟩, .step 1 (.text (.ok "two")), .step 1 .nothing,
    .call ⟨"Card", ⟨"/a"⟩, false⟩, .step 2 (.text (.ok "one")), .step 2 .nothing,
    .step 0 .nothing, .step 0 (.answered (.failed (.parse "")) 0), .step 0 .nothing,
    .step 0 .nothing, .step 2 .nothing]

/-- There the second text can be recorded exactly as far as it is exposed. -/
theorem records_later_iff_exposed_reread :
    let session := ({} : Session).run .plain rereadMoves
    let outdated := Fingerprint.compute ⟨"/a"⟩ "two"
    (∃ moves, Follows (move .plain) (Steady ⟨"/a"⟩ "one" outdated) session moves ∧
      (session.run .plain moves).cache.Records ⟨"/a"⟩ outdated) ↔
      session.Exposed ⟨"/a"⟩ outdated :=
  records_later_iff_exposed ⟨_, rfl⟩ ⟨"/a"⟩ "one" _ (by decide +kernel)

/-- A call has returned the entry of a text and the file keeps that text; yet a text that was read
before can be recorded, by the call that read it. -/
theorem outdated_recorded :
    ¬ ∀ (setup : Setup) (before after : List Move) (path : Path) (old text : String) (id : Nat)
      (entry : Entry),
      (∃ reader, .step reader (.text (.ok old)) ∈ before) →
      (({} : Session).run setup before).returned? id = some entry →
      entry.fingerprint? = some (Fingerprint.compute path text) →
      Fingerprint.compute path text ≠ Fingerprint.compute path old →
      Follows (move setup) (Steady path text (Fingerprint.compute path old))
        (({} : Session).run setup before) after →
      ¬ ((({} : Session).run setup before).run setup after).cache.Records path
        (Fingerprint.compute path old) := by
  intro never
  let session := ({} : Session).run .plain rereadMoves
  have apart : Fingerprint.compute ⟨"/a"⟩ "one" ≠ Fingerprint.compute ⟨"/a"⟩ "two" := by
    decide +kernel
  have got : (session.returned? 2).map Entry.fingerprint? =
      some (some (Fingerprint.compute ⟨"/a"⟩ "one")) := by decide +kernel
  obtain ⟨entry, returned, hashed⟩ := Option.map_eq_some_iff.mp got
  have owes : session.Exposed ⟨"/a"⟩ (Fingerprint.compute ⟨"/a"⟩ "two") := by
    refine @Exposed.owed _ _ _ 1 _ rfl ⟨rfl, "two", rfl, .inr ⟨1, _, rfl, rfl, apart, ?_⟩⟩
    rintro ⟨reason, unavailable⟩
    cases unavailable
  obtain ⟨after, steady, records⟩ := records_of_exposed ⟨rereadMoves, rfl⟩ apart owes
  exact never .plain rereadMoves after ⟨"/a"⟩ "two" "one" 2 entry ⟨1, by simp [rereadMoves]⟩ returned hashed
    apart steady records

end Session

end Cache

end ComponentCatalog
