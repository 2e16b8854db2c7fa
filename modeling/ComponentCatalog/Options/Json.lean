import ComponentCatalog.Digest.Xxh
import ComponentCatalog.Json.Decode
import ComponentCatalog.Options.Basic
import ComponentCatalog.Options.Exclude

/-!
# Options as JSON

Options are read from an object and written as one. What an analysis depends on has a digest, so
that stored results of other options are told apart.
-/

namespace ComponentCatalog.Options

/-! ## Writing -/

def StepConfig.toJson : StepConfig → Json
  | contentSlot => .object [("kind", .string "contentSlot")]
  | replace name? pattern replacement =>
    .object [("kind", .string "replace"), ("name", .optionalString name?),
      ("pattern", .string pattern), ("replacement", .string replacement)]

def AnalyzerConfig.toJson : AnalyzerConfig → Json
  | builtin => .object [("kind", .string "builtin")]
  | command program args =>
    .object [("kind", .string "command"), ("program", .string program), ("args", .strings args)]

def Checker.toJson (checker : Checker) : Json :=
  .object [("forceUseTs", .bool checker.forceUseTs), ("strict", .bool checker.strict),
    ("schema", .object [("ignore", .strings checker.ignore)])]

def optionalPath (path? : Option Path) : Json := .optionalString (path?.map Path.text)

def toJson (options : Options) : Json :=
  .object [
    ("rootDir", .string options.rootDir.text),
    ("outputDir", optionalPath options.outputDir?),
    ("cacheDir", optionalPath options.cacheDir?),
    ("componentDirs", .strings (options.componentDirs.map Path.text)),
    ("silent", .bool options.silent),
    ("exclude", .strings options.exclude),
    ("metaFields", options.metaFields.toJson),
    ("transformers", .array (options.transformers.map StepConfig.toJson)),
    ("checkerOptions", options.checkerOptions.toJson),
    ("globalsOnly", .bool options.globalsOnly),
    ("analyzerTimeoutMs", .int options.analyzerTimeoutMs),
    ("analyzer", options.analyzer.toJson)]

/-- What the result of an analysis depends on. -/
def keyJson (options : Options) : Json :=
  .object [
    ("meta_fields", options.metaFields.toJson),
    ("transformers", .array (options.transformers.map StepConfig.toJson)),
    ("checker_options", options.checkerOptions.toJson),
    ("analyzer", options.analyzer.toJson)]

/-- The text whose digest tells apart options under which results differ. -/
def keyText (options : Options) : String := options.keyJson.compact

def analysisDigest (options : Options) : UInt64 := Digest.digest64 options.keyText.toUTF8

/-! ## Reading -/

def pathDecoder : Decoder Path := fun doc => Path.mk <$> doc.asPath

/-- A `replace` step that is being read. -/
structure Replacing where
  name? : Option String := none
  pattern : String := ""
  replacement : String := ""

def StepConfig.decoder : Decoder StepConfig :=
  let replacing : Decoder Replacing :=
    Doc.variantRecord "struct variant TransformConfig::Replace"
      [Doc.field "name" false (Doc.optional Doc.asString) fun name? r => { r with name? },
       Doc.field "pattern" true Doc.asString fun pattern r => { r with pattern },
       Doc.field "replacement" true Doc.asString fun replacement r => { r with replacement }]
      {}
  Doc.choice "TransformConfig" "kind"
    [Doc.plainVariant "contentSlot" .contentSlot,
     ⟨"replace", fun doc => do
      let r ← replacing doc
      return .replace r.name? r.pattern r.replacement⟩]

def AnalyzerConfig.decoder : Decoder AnalyzerConfig :=
  let command : Decoder (String × List String) :=
    Doc.variantRecord "struct variant AnalyzerConfig::Command"
      [Doc.field "program" true Doc.asString fun program c => (program, c.2),
       Doc.field "args" false (Doc.list Doc.asString) fun args c => (c.1, args)]
      ("", [])
  Doc.choice "AnalyzerConfig" "kind"
    [Doc.plainVariant "builtin" .builtin,
     ⟨"command", fun doc => do
      let (program, args) ← command doc
      return .command program args⟩]

/-- Reads the list of types that are not expanded. -/
def schemaDecoder : Decoder (List String) :=
  Doc.record "struct SchemaOptions"
    [Doc.field "ignore" false (Doc.list Doc.asString) fun ignore _ => ignore]
    defaultIgnore

def Checker.decoder : Decoder Checker :=
  Doc.record "struct CheckerOptions"
    [Doc.field "forceUseTs" false Doc.asBool fun forceUseTs c => { c with forceUseTs },
     Doc.field "strict" false Doc.asBool fun strict c => { c with strict },
     Doc.field "schema" false schemaDecoder fun ignore c => { c with ignore }]
    {}

def decoder : Decoder Options :=
  Doc.record "struct EngineOptions"
    [Doc.field "rootDir" false pathDecoder fun rootDir o => { o with rootDir },
     Doc.field "outputDir" false (Doc.optional pathDecoder) fun outputDir? o =>
      { o with outputDir? },
     Doc.field "cacheDir" false (Doc.optional pathDecoder) fun cacheDir? o => { o with cacheDir? },
     Doc.field "componentDirs" false (Doc.list pathDecoder) fun componentDirs o =>
      { o with componentDirs },
     Doc.field "silent" false Doc.asBool fun silent o => { o with silent },
     Doc.field "exclude" false (Doc.list Doc.asString) fun exclude o => { o with exclude },
     Doc.field "metaFields" false Metadata.Fields.decoder fun metaFields o =>
      { o with metaFields },
     Doc.field "transformers" false (Doc.list StepConfig.decoder) fun transformers o =>
      { o with transformers },
     Doc.field "checkerOptions" false Checker.decoder fun checkerOptions o =>
      { o with checkerOptions },
     Doc.field "globalsOnly" false Doc.asBool fun globalsOnly o => { o with globalsOnly },
     Doc.field "analyzerTimeoutMs" false Doc.asWord fun analyzerTimeoutMs o =>
      { o with analyzerTimeoutMs },
     Doc.field "analyzer" false AnalyzerConfig.decoder fun analyzer o => { o with analyzer }]
    {}

/-- What is left out, read from the options. -/
def excludes (options : Options) : Except Fault (List Exclude) :=
  options.exclude.mapM fun text =>
    match Exclude.ofText? text with
    | some exclude => .ok exclude
    | none => .error (.pattern text)

/-- Checks what options say beyond their form. -/
def validate (options : Options) : Except Fault Unit := do
  if options.analyzerTimeoutMs == 0 then throw (.nonPositive "analyzerTimeoutMs")
  let _ ← options.excludes

def ofText (source : String) : Except Fault Options := do
  match Doc.decode decoder source with
  | .error fault => throw (.malformed fault)
  | .ok options =>
    options.validate
    return options

end ComponentCatalog.Options
