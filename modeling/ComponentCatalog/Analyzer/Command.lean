import ComponentCatalog.Host.Exchange
import ComponentCatalog.Text.Scan
import ComponentCatalog.Text.Utf8
import ComponentCatalog.Version

/-!
# Analyzers that run as programs

A program gets the request as JSON and prints the description as JSON, or an object with an error. A
program that fails without saying why is as good as none.
-/

namespace ComponentCatalog.Analyzer

namespace Command

/-- How a program came to its end. -/
inductive Ending where
  | exited (status : Nat)
  | stopped (signal : Nat)
  deriving Repr, DecidableEq

/-- What came of running a program. -/
inductive Run where
  /-- There is no such program. -/
  | missing
  | notStarted (cause : Files.Fault)
  | late
  | ended (ending : Ending) (printed complaint : ByteArray)

def signalName (signal : Nat) : String :=
  let names := ["SIGHUP", "SIGINT", "SIGQUIT", "SIGILL", "SIGTRAP", "SIGABRT", "SIGBUS", "SIGFPE",
    "SIGKILL", "SIGUSR1", "SIGSEGV", "SIGUSR2", "SIGPIPE", "SIGALRM", "SIGTERM"]
  match names[signal - 1]? with
  | some name => " (" ++ name ++ ")"
  | none => ""

def Ending.text : Ending → String
  | exited status => "exit status: " ++ toString status
  | stopped signal => "signal: " ++ toString signal ++ signalName signal

/-- The error that a program printed in the place of a description. -/
def printedError? : Except JsonFault Json → Option String
  | .ok (.object entries) =>
    match entries.lookup "error" with
    | some (.string reason) => some reason
    | _ => none
  | _ => none

/-- The sentence that reports how a program failed. -/
def failureText (program : String) (ending : Ending) (complaint : ByteArray) : String :=
  "\x60" ++ program ++ "\x60 exited with " ++ ending.text ++ ": " ++
    String.ofList (Text.trimmed (Text.Utf8.lossy complaint).toList)

/-- What a program answered by its run. -/
def answer (program : String) : Run → Answer
  | .missing => .failed (.unavailable ("analyzer \x60" ++ program ++ "\x60 not found"))
  | .notStarted cause =>
    .failed (.unavailable ("cannot start \x60" ++ program ++ "\x60: " ++ cause.message))
  | .late => .late
  | .ended ending printed complaint =>
    let parsed := Doc.decodeBytes Doc.value printed
    match printedError? parsed with
    | some reason => .failed (.parse reason)
    | none =>
      if ending != .exited 0 then .failed (.unavailable (failureText program ending complaint))
      else match parsed with
        | .ok raw => .described raw
        | .error fault => .failed (.parse ("analyzer printed invalid JSON: " ++ fault.message))

/-- What tells a program with its arguments from another one. -/
def key (program : String) (args : List String) : String :=
  "command/" ++ program ++ String.join (args.map (" " ++ ·))

end Command

/-- What tells the analyzer that the options ask for from another one. -/
def key : Options.AnalyzerConfig → String
  | .builtin => "builtin/" ++ version
  | .command program args => Command.key program args

end ComponentCatalog.Analyzer
