import ComponentCatalog.Cli.Run
import ComponentCatalog.Proofs.Json.Value
import ComponentCatalog.Proofs.Metadata.Json
import Mathlib.Control.Traversable.Basic

/-! # The analyzer as a program of its own

The program gets the request as JSON and reads it back, analyzes it as the analyzer in the engine does,
and prints the description, or an object with the reason for which the script does not parse. What the
engine makes of that is what its own analyzer would have answered: no text of the request or of the
description is lost on the way, and no description looks like an error.
-/

namespace ComponentCatalog

open Doc

/-! ## The request -/

namespace Analyzer

namespace Request

theorem whole_toJson (request : Request) : request.toJson.Whole := by
  have ignore := Json.wholeItems_map (fun text => show (Json.string text).Whole from trivial)
    request.ignore
  simp [toJson, Metadata.Fields.toJson, Json.strings, Json.Whole, Json.WholeEntries, ignore]

theorem decoder_toJson (request : Request) : decoder (ofJson 0 request.toJson) = .ok request := by
  have path : Options.pathDecoder (ofJson 1 (.string request.path.text)) = .ok request.path := rfl
  have source : asString (ofJson 1 (.string request.source)) = .ok request.source := rfl
  have fields := request.fields.decoder_toJson (show 1 < depthLimit by decide)
  have ignore : Doc.list asString (ofJson 1 (.strings request.ignore)) = .ok request.ignore :=
    list_ofJson (by decide) fun _ _ => rfl
  have flag (b : Bool) : asBool (ofJson 1 (.bool b)) = .ok b := rfl
  rw [toJson, ofJson, atDepth_of_lt (by decide), decoder, record]
  simp only [ofEntries]
  rw [readEntriesInto_cons rfl rfl path, readEntriesInto_cons rfl rfl source,
    readEntriesInto_cons rfl rfl fields, readEntriesInto_cons rfl rfl ignore,
    readEntriesInto_cons rfl rfl (flag request.forceUseTs),
    readEntriesInto_cons rfl rfl (flag request.strict)]
  rfl

/-- A program reads the request that it is sent. -/
theorem decode_compact (request : Request) :
    Doc.decode decoder request.toJson.compact = .ok request := by
  rw [Doc.decode_compact request.whole_toJson, decoder_toJson]

end Request

/-! ## The description -/

section

variable (fields : Metadata.Fields) (interface : Sfc.Interface)

private theorem whole_describeProp (prop : Sfc.DeclaredProp) : (describeProp prop).Whole := by
  obtain ⟨name, type, required, default?⟩ := prop
  cases default? <;> simp [describeProp, Json.optionalString, Json.Whole, Json.WholeEntries]

private theorem whole_describeMember (member : Sfc.Member) : (describeMember member).Whole := by
  simp [describeMember, Json.Whole, Json.WholeEntries]

/-- A description holds no numbers. -/
theorem whole_describe : (describe fields interface).Whole := by
  have props := Json.wholeItems_map whole_describeProp interface.props
  have members := Json.wholeItems_map whole_describeMember
  obtain ⟨p, s, e, x⟩ := fields
  cases p <;> cases s <;> cases e <;> cases x <;>
    simp [describe, Json.Whole, Json.WholeEntries, props, members]

private theorem ordered_describeProp (prop : Sfc.DeclaredProp) : (describeProp prop).Ordered 1 := by
  have keys : ["default", "name", "required", "type"].Pairwise (· < ·) := by decide
  have preset : (Json.optionalString prop.default?).Ordered 0 := by
    cases prop.default? <;> exact trivial
  exact ⟨by decide, keys, preset, trivial, trivial, trivial, trivial⟩

private theorem ordered_describeMember (member : Sfc.Member) : (describeMember member).Ordered 1 := by
  have keys : ["name", "type"].Pairwise (· < ·) := by decide
  exact ⟨by decide, keys, trivial, trivial, trivial⟩

/-- The keys of a description are in order. -/
theorem ordered_describe : (describe fields interface).Ordered 3 := by
  have props := Json.orderedItems_map ordered_describeProp interface.props
  have members := Json.orderedItems_map ordered_describeMember
  have all : ["events", "exposed", "props", "slots"].Pairwise (· < ·) := by decide
  obtain ⟨p, s, e, x⟩ := fields
  refine ⟨by decide, all.sublist ?_, ?_⟩
  · cases p <;> cases s <;> cases e <;> cases x <;> simp
  · cases p <;> cases s <;> cases e <;> cases x <;>
      simp [Json.Ordered, Json.OrderedEntries, props, members]

/-- No description looks like an error. -/
theorem printedError?_describe : Command.printedError? (.ok (describe fields interface)) = none := by
  obtain ⟨p, s, e, x⟩ := fields
  cases p <;> cases s <;> cases e <;> cases x <;> rfl

end

/-! ## The program -/

namespace Command

variable {program : String} {printed complaint : ByteArray}

/-- A description that a program printed before it ended well is its answer. -/
theorem answer_of_described {raw : Json} (reads : Doc.decodeBytes Doc.value printed = .ok raw)
    (clean : printedError? (.ok raw) = none) :
    answer program (.ended (.exited 0) printed complaint) = .described raw := by
  unfold answer
  dsimp only
  rw [reads, clean]
  rfl

/-- However a program ended, an error that it printed is its answer. -/
theorem answer_of_error {ending : Ending} {reason : String}
    (reports : printedError? (Doc.decodeBytes Doc.value printed) = some reason) :
    answer program (.ended ending printed complaint) = .failed (.parse reason) := by
  unfold answer
  dsimp only
  rw [reports]

end Command

/-- What an analyzer comes to as the answer that an engine goes on with. -/
def answerOf : Except Fault Json → Answer
  | .ok raw => .described raw
  | .error fault => .failed fault

/-- The only fault of the analyzer in the engine is that a script does not parse. -/
theorem builtin_eq_error {request : Request} {fault : Fault} (failed : builtin request = .error fault) :
    ∃ reason, fault = .parse reason := by
  unfold builtin at failed
  split at failed
  · cases failed
  · cases failed
    exact ⟨_, rfl⟩

theorem builtin_eq_ok {request : Request} {raw : Json} (described : builtin request = .ok raw) :
    ∃ interface, raw = describe request.fields interface := by
  unfold builtin at described
  split at described
  · cases described
    exact ⟨_, rfl⟩
  · cases described

/-- An engine makes of what the program prints for a request what its own analyzer says of it. -/
theorem answer_analyze (program : String) (request : Request) (complaint : ByteArray) :
    let output := Cli.analyze request.toJson.compact
    Command.answer program (.ended (.exited output.status) output.printed.toUTF8 complaint) =
      answerOf (builtin request) := by
  simp only [Cli.analyze, request.decode_compact]
  cases came : builtin request with
  | ok raw =>
    obtain ⟨interface, rfl⟩ := builtin_eq_ok came
    have printed := decodeBytes_line (whole_describe request.fields interface)
      (ordered_describe request.fields interface) (by decide)
    exact Command.answer_of_described printed (printedError?_describe request.fields interface)
  | error fault =>
    obtain ⟨reason, rfl⟩ := builtin_eq_error came
    have whole : (Json.object [("error", .string reason)]).Whole := ⟨trivial, trivial⟩
    have ordered : (Json.object [("error", .string reason)]).Ordered 1 :=
      ⟨by decide, List.pairwise_singleton .., trivial, trivial⟩
    have printed := decodeBytes_line whole ordered (by decide)
    exact Command.answer_of_error (congrArg Command.printedError? printed)

section

variable {m : Type → Type} [Monad m] [LawfulMonad m]

/-- The program reads a request from its input and prints what comes of it. It asks its host for
nothing. -/
theorem run_analyze (host : Host m) (input : String) :
    Cli.run host (pure (Files.textOf input.toUTF8).toOption) ["analyze"] =
      pure (Cli.analyze input) := by
  have valid : String.fromUTF8? input.toUTF8 = some input := dif_pos input.isValidUTF8
  have text : (Files.textOf input.toUTF8).toOption = some input := by
    rw [Files.textOf, valid]
    rfl
  have invoked : Cli.Invocation.ofArguments ["analyze"] = .ok { kind := .analyze } := rfl
  rw [text]
  simp [Cli.run, invoked, Cli.loadOptions]

/-- An engine that asks a program for descriptions, and for each has that program analyze one request,
gets what an engine with the analyzer of its own gets: the same description, or the same reason for
which a script does not parse. Whatever the program complains of does not count. -/
theorem describe_command_eq_builtin (outer inner : Host m) (program : String)
    (complaint : String → ByteArray)
    (runs : ∀ input, outer.execute program ["analyze"] input =
      (fun output => .ended (.exited output.status) output.printed.toUTF8 (complaint input)) <$>
        Cli.run inner (pure (Files.textOf input.toUTF8).toOption) ["analyze"])
    (request : Request) :
    outer.describe (.command program ["analyze"]) request = outer.describe .builtin request := by
  have answers := answer_analyze program request (complaint request.toJson.compact)
  simp only [Host.describe, runs, run_analyze, map_pure, pure_bind, answers]
  cases builtin request <;> rfl

end

/-- A host with no files and no programs. -/
def bareHost : Host Id where
  files _ := none
  discover _ := ([], [])
  execute _ _ _ := .missing
  now := (0 : Nat)
  tell _ := ()

/-- A host on which every program is this one. It complains of nothing. -/
def selfHost : Host Id :=
  { bareHost with
    execute := fun _ arguments input =>
      let output : Cli.Output :=
        Cli.run bareHost (pure (Files.textOf input.toUTF8).toOption) arguments
      .ended (.exited output.status) output.printed.toUTF8 ByteArray.empty }

/-- A component with a slot whose script breaks off. -/
def brokenRequest : Request :=
  { path := ⟨"/Card.vue"⟩, source := "<script setup>f(</script><template><slot /></template>", fields := {} }

/-- A component with a slot and no script, of which only slots are asked for. -/
def slotRequest : Request :=
  { path := ⟨"/Card.vue"⟩, source := "<template><slot name=\"head\" /></template>",
    fields := ⟨false, true, false, false⟩ }

private theorem builtin_brokenRequest :
    builtin brokenRequest = .error (.parse "Unexpected eof") := by
  have fault : (match builtin brokenRequest with
      | .error fault => some fault
      | .ok _ => none) = some (.parse "Unexpected eof") := by decide +kernel
  cases came : builtin brokenRequest with
  | ok raw => simp [came] at fault
  | error found =>
    simp only [came, Option.some.injEq] at fault
    rw [fault]

/-- The program describes the slot, and says that the script breaks off. -/
theorem describe_command_eq_builtin_selfHost :
    (∀ input, selfHost.execute "component-meta" ["analyze"] input =
      (fun output => .ended (.exited output.status) output.printed.toUTF8 ByteArray.empty) <$>
        Cli.run bareHost (pure (Files.textOf input.toUTF8).toOption) ["analyze"]) ∧
    selfHost.describe (.command "component-meta" ["analyze"]) slotRequest =
      .described (.object [("slots",
        .array [.object [("name", .string "head"), ("type", .string "\x7b\x7d")]])]) ∧
    selfHost.describe (.command "component-meta" ["analyze"]) brokenRequest =
      .failed (.parse "Unexpected eof") := by
  have runs : ∀ input, selfHost.execute "component-meta" ["analyze"] input =
      (fun output => .ended (.exited output.status) output.printed.toUTF8 ByteArray.empty) <$>
        Cli.run bareHost (pure (Files.textOf input.toUTF8).toOption) ["analyze"] := fun _ => rfl
  have same := describe_command_eq_builtin selfHost bareHost "component-meta"
    (fun _ => ByteArray.empty) runs
  refine ⟨runs, (same slotRequest).trans rfl, (same brokenRequest).trans ?_⟩
  rw [Host.describe, builtin_brokenRequest]
  rfl

end Analyzer

end ComponentCatalog
