import ComponentCatalog.Path
import ComponentCatalog.Version

/-!
# The command line

The arguments name a command and say on what it works. Flags may stand in front of the command or
behind it. Arguments that make no sense are refused; help and the version are asked for like flags.
-/

namespace ComponentCatalog.Cli

/-- What can be done. -/
inductive Kind where
  | scan
  | query
  | module
  | analyze
  deriving Repr, DecidableEq

/-- The commands with their names. -/
def kinds : List (String × Kind) :=
  [("scan", .scan), ("query", .query), ("module", .module), ("analyze", .analyze)]

/-- What is to be done. -/
structure Invocation where
  kind : Kind
  options? : Option Path := none
  verbose : Bool := false
  dirs : List Path := []
  /-- What a query asks for. -/
  name? : Option String := none
  deriving Repr, DecidableEq

/-! ## Help -/

def program : String := "component-meta"

/-- What a command does, for its help. -/
def Kind.about : Kind → String
  | scan => "Discover and analyze components, print the queryable record set"
  | query => "Print one component record"
  | module => "Print the generated module"
  | analyze => "Analyze one request read as JSON from STDIN with the built-in analyzer"

def commonFlags : List String :=
  ["      --options <OPTIONS>  JSON options file (camelCase engine options)",
    "  -v, --verbose            Log at info level unless RUST_LOG says otherwise",
    "  -h, --help               Print help"]

def dirFlag : List String :=
  ["      --dir <DIRS>         Component directory, repeatable; overrides \x60componentDirs\x60 from the",
    "                           options"]

def lines (all : List String) : String := String.join (all.map (· ++ "\n"))

def help : String :=
  lines <| ["component metadata engine", "", "Usage: " ++ program ++ " [OPTIONS] <COMMAND>", "",
    "Commands:",
    "  scan     " ++ Kind.scan.about,
    "  query    " ++ Kind.query.about,
    "  module   " ++ Kind.module.about,
    "  analyze  " ++ Kind.analyze.about,
    "  help     Print this message or the help of the given subcommand(s)", "",
    "Options:"] ++ commonFlags ++ ["  -V, --version            Print version"]

def Kind.help (kind : Kind) : String :=
  let usage (name arguments : String) := "Usage: " ++ program ++ " " ++ name ++ " [OPTIONS]" ++ arguments
  let options (flags : List String) := ["", "Options:"] ++ flags ++ commonFlags
  lines <| [kind.about, ""] ++ match kind with
    | scan => [usage "scan" ""] ++ options dirFlag
    | query => [usage "query" " [NAME]", "", "Arguments:",
        "  [NAME]  Display name, kebab-case name or \x60<name>.json\x60"] ++ options dirFlag
    | module => [usage "module" ""] ++ options dirFlag
    | analyze => [usage "analyze" ""] ++ options []

def versionLine : String := lines [program ++ " " ++ version]

/-! ## Reading -/

/-- Why arguments name nothing that is to be done. -/
inductive Stop where
  | shown (text : String)
  | refused
  deriving Repr, DecidableEq

/-- A flag that takes a value. -/
inductive ValueFlag where
  | options
  | dir
  deriving Repr, DecidableEq

/-- Arguments as far as they are read. -/
structure Draft where
  kind? : Option Kind := none
  /-- Is help asked for as a command? -/
  asksHelp : Bool := false
  /-- The flags in front of the command. -/
  outerOptions? : Option Path := none
  outerVerbose : Bool := false
  options? : Option Path := none
  verbose : Bool := false
  dirs : List Path := []
  name? : Option String := none
  /-- The flag whose value is the next argument. -/
  awaited? : Option ValueFlag := none
  /-- Are the arguments to come no flags? -/
  literal : Bool := false

namespace Draft

def help (draft : Draft) : String :=
  match draft.kind? with
  | some kind => kind.help
  | none => Cli.help

/-- Does the command work on directories? -/
def takesDirs (draft : Draft) : Bool :=
  match draft.kind? with
  | some .analyze | none => false
  | some _ => true

/-- Takes the value of a flag. -/
def takeValue (draft : Draft) (flag : ValueFlag) (value : String) : Except Stop Draft :=
  if value.isEmpty then .error .refused
  else match flag with
    | .options =>
      if draft.options?.isSome then .error .refused
      else .ok { draft with options? := some ⟨value⟩, awaited? := none }
    | .dir => .ok { draft with dirs := draft.dirs ++ [⟨value⟩], awaited? := none }

def takeSwitch (draft : Draft) : String → Except Stop Draft
  | "verbose" => if draft.verbose then .error .refused else .ok { draft with verbose := true }
  | "help" => .error (.shown draft.help)
  | "version" => if draft.kind?.isNone then .error (.shown versionLine) else .error .refused
  | _ => .error .refused

/-- The flag of a name that takes a value, if the command has it. -/
def valueFlag? (draft : Draft) (name : String) : Option ValueFlag :=
  if name == "options" then some .options
  else if name == "dir" && draft.takesDirs then some .dir
  else none

/-- Takes a flag with a long name, which may have its value behind an equals sign. -/
def takeLong (draft : Draft) (text : List Char) : Except Stop Draft :=
  let name := String.ofList (text.takeWhile (· != '='))
  match draft.valueFlag? name, text.dropWhile (· != '=') with
  | some flag, _ :: value => draft.takeValue flag (String.ofList value)
  | some flag, [] => .ok { draft with awaited? := some flag }
  | none, [] => draft.takeSwitch name
  | none, _ :: _ => .error .refused

/-- Takes a flag with a name of one letter. -/
def takeLetter (draft : Draft) : Char → Except Stop Draft
  | 'v' => draft.takeSwitch "verbose"
  | 'h' => draft.takeSwitch "help"
  | 'V' => draft.takeSwitch "version"
  | _ => .error .refused

/-- Takes an argument that is no flag. -/
def takeWord (draft : Draft) (word : String) : Except Stop Draft :=
  match draft.kind? with
  | some .query =>
    if draft.name?.isSome then .error .refused else .ok { draft with name? := some word }
  | some _ => .error .refused
  | none =>
    if draft.literal then .error .refused
    else match kinds.lookup word with
      | some kind =>
        if draft.asksHelp then .error (.shown kind.help)
        -- The flags of the command may say again what was said in front of it.
        else .ok { draft with
          kind? := some kind
          outerOptions? := draft.options?
          outerVerbose := draft.verbose
          options? := none
          verbose := false }
      | none =>
        if word == "help" && !draft.asksHelp then .ok { draft with asksHelp := true }
        else .error .refused

/-- Takes one argument. -/
def take (draft : Draft) (argument : String) : Except Stop Draft :=
  match draft.awaited?, argument.toList with
  -- A value does not look like a flag, but for the hyphen alone.
  | some _, '-' :: _ :: _ => .error .refused
  | some flag, _ => draft.takeValue flag argument
  | none, '-' :: c :: rest =>
    if draft.literal then draft.takeWord argument
    else if c == '-' then
      if rest.isEmpty then .ok { draft with literal := true } else draft.takeLong rest
    else (c :: rest).foldlM takeLetter draft
  | none, _ => draft.takeWord argument

/-- What is to be done once all arguments are taken. -/
def finish (draft : Draft) : Except Stop Invocation :=
  match draft.kind?, draft.awaited? with
  | some kind, none => .ok
      { kind
        options? := draft.options?.or draft.outerOptions?
        verbose := draft.verbose || draft.outerVerbose
        dirs := draft.dirs
        name? := draft.name? }
  | _, _ => if draft.asksHelp then .error (.shown Cli.help) else .error .refused

end Draft

/-- What arguments ask for. -/
def Invocation.ofArguments (arguments : List String) : Except Stop Invocation :=
  arguments.foldlM Draft.take {} >>= Draft.finish

end ComponentCatalog.Cli
