import ComponentCatalog.Json.Doc
import ComponentCatalog.Json.Print
import ComponentCatalog.Text.Quoted
import ComponentCatalog.Text.Utf8

/-!
# Decoding JSON

A decoder goes through a text's tree in order and turns it into a value of the program. Records are
read from objects, in any order of their keys, or from lists of their fields; keys that a record does
not know are passed over. A choice between records is told by a key of its own.
-/

namespace ComponentCatalog

/-- What turns a text's tree into a value. -/
abbrev Decoder (α : Type) := Doc → Except JsonFault α

namespace Doc

/-- What a value is called in a report. -/
def found : Doc → String
  | null => "null"
  | bool b => "boolean `" ++ toString b ++ "`"
  | number (.whole n) => "integer `" ++ toString n ++ "`"
  | number (.real x) => "floating point `" ++ String.ofList (Json.realText x) ++ "`"
  | string text => "string " ++ Text.quoted text
  | array _ _ => "sequence"
  | object _ _ => "map"
  | flawed _ inner => found inner
  | broken fault => fault.message

/-- Stops at a value that is not wanted, or at what stopped its reading. -/
def refuse {α : Type} (wanted : String) : Doc → Except JsonFault α
  | broken fault | flawed fault _ => .error fault
  | doc => .error (.wrongKind doc.found wanted)

mutual

/-- Passes over a value. -/
def ignored : Doc → Except JsonFault Unit
  | broken fault => .error fault
  | flawed _ inner => ignored inner
  | array items stop? => do
    ignoredItems items
    stopAt stop?
  | object entries stop? => do
    ignoredEntries entries
    stopAt stop?
  | _ => .ok ()

def ignoredItems : List Doc → Except JsonFault Unit
  | [] => .ok ()
  | item :: rest => do
    ignored item
    ignoredItems rest

def ignoredEntries : List (Doc × Doc) → Except JsonFault Unit
  | [] => .ok ()
  | (key, value) :: rest => do
    ignored key
    ignored value
    ignoredEntries rest

/-- Stops if the reading stopped. -/
def stopAt : Option JsonFault → Except JsonFault Unit
  | some fault => .error fault
  | none => .ok ()

end

def text (wanted : String) : Decoder String
  | string value => .ok value
  | doc => doc.refuse wanted

def asString : Decoder String := text "a string"

def asPath : Decoder String := text "path string"

def asBool : Decoder Bool
  | bool b => .ok b
  | doc => doc.refuse "a boolean"

/-- A whole number without a sign that fits into 64 bits. -/
def asWord : Decoder Nat
  | number (.whole n) =>
    if n < 0 then .error (.wrongValue ("integer `" ++ toString n ++ "`") "u64") else .ok n.toNat
  | doc => doc.refuse "u64"

/-- A value that may be null. -/
def optional {α : Type} (decoder : Decoder α) : Decoder (Option α)
  | null => .ok none
  | doc => some <$> decoder doc

def list {α : Type} (decoder : Decoder α) : Decoder (List α)
  | array items stop? => do
    let values ← items.mapM decoder
    stopAt stop?
    return values
  | doc => doc.refuse "a sequence"

mutual

def value : Doc → Except JsonFault Json
  | null => .ok .null
  | bool b => .ok (.bool b)
  | number n => .ok (.number n)
  | string s => .ok (.string s)
  | array items stop? => do
    let items ← values items
    stopAt stop?
    return .array items
  | object entries stop? => do
    let entries ← entryValues entries
    stopAt stop?
    return .object (Json.sortedEntries entries)
  | broken fault | flawed fault _ => .error fault

def values : List Doc → Except JsonFault (List Json)
  | [] => .ok []
  | item :: rest => do
    let first ← value item
    return first :: (← values rest)

def entryValues : List (Doc × Doc) → Except JsonFault (List (String × Json))
  | [] => .ok []
  | (key, item) :: rest => do
    let key ← asString key
    let first ← value item
    return (key, first) :: (← entryValues rest)

end

/-! ## Records -/

/-- A field of a record that is being read. -/
structure Field (σ : Type) where
  key : String
  required : Bool
  read : Doc → σ → Except JsonFault σ

/-- A field that is decoded and put into the record. -/
def field {σ α : Type} (key : String) (required : Bool) (decoder : Decoder α)
    (put : α → σ → σ) : Field σ :=
  ⟨key, required, fun doc record => do return put (← decoder doc) record⟩

/-- Reads the entries of an object into a record. -/
def readEntriesInto {σ : Type} (fields : List (Field σ)) :
    List (Doc × Doc) → List String → σ → Except JsonFault (List String × σ)
  | [], seen, record => .ok (seen, record)
  | (key, doc) :: rest, seen, record => do
    let key ← asString key
    match fields.find? (·.key == key) with
    | some field =>
      if seen.contains key then throw (.duplicate key)
      let record ← field.read doc record
      readEntriesInto fields rest (key :: seen) record
    | none =>
      doc.ignored
      readEntriesInto fields rest seen record

/-- The first field that is required and was not seen. -/
def missing? {σ : Type} (fields : List (Field σ)) (seen : List String) : Option String :=
  ((fields.filter (·.required)).map Field.key).find? (!seen.contains ·)

/-- The number of fields in a report. -/
def elements (count : Nat) : String :=
  toString count ++ (if count == 1 then " element" else " elements")

/-- Reads the items of a list into the fields of a record, and returns those that are left. -/
def readItemsInto {σ : Type} (wanted : String) (stop? : Option JsonFault) :
    List (Field σ) → Nat → List Doc → σ → Except JsonFault (List Doc × σ)
  | [], _, items, record => .ok (items, record)
  | field :: fields, index, item :: items, record => do
    let record ← field.read item record
    readItemsInto wanted stop? fields (index + 1) items record
  | field :: fields, index, [], record => do
    stopAt stop?
    if field.required then throw (.wrongLength index wanted)
    readItemsInto wanted stop? fields (index + 1) [] record

/-- What is wrong behind the last field of a record that is read from a list. -/
def behindFields (items : List Doc) (stop? : Option JsonFault) : Except JsonFault Unit :=
  match items, stop? with
  | [], none => .ok ()
  | [], some .trailingComma => .error .trailingComma
  | [], some .listEnd => .error .listEnd
  | _, _ => .error .trailingText

/-- A record: an object with its fields, or a list of them. -/
def record {σ : Type} (wanted : String) (fields : List (Field σ)) (start : σ) : Decoder σ
  | object entries stop? => do
    let (seen, record) ← readEntriesInto fields entries [] start
    stopAt stop?
    match missing? fields seen with
    | some key => throw (.missing key)
    | none => return record
  | array items stop? => do
    let (rest, record) ←
      readItemsInto (wanted ++ " with " ++ elements fields.length) stop? fields 0 items start
    behindFields rest stop?
    return record
  | doc => doc.refuse wanted

/-! ## Choices between records -/

/-- One of the records between which a key chooses; `none` stands for a record without fields. -/
structure Variant (α : Type) where
  name : String
  /-- Decodes the fields: an object, or the items of a list. -/
  read : Doc → Except JsonFault α

/-- A record of a choice from its fields, all of which have been read. -/
def variantRecord {σ : Type} (wanted : String) (fields : List (Field σ)) (start : σ) :
    Decoder σ
  | array items _ => do
    let (rest, record) ←
      readItemsInto (wanted ++ " with " ++ elements fields.length) none fields 0 items start
    unless rest.isEmpty do
      throw (.wrongLength items.length (elements fields.length ++ " in sequence"))
    return record
  | doc => record wanted fields start doc

/-- The variant that a value names. -/
def variantNamed {α : Type} (variants : List (Variant α)) (doc : Doc) :
    Except JsonFault (Variant α) := do
  let name ← text "variant identifier" doc
  match variants.find? (·.name == name) with
  | some variant => return variant
  | none => throw (.unknownVariant name (variants.map Variant.name))

/-- Goes through the entries of an object for the one that chooses, and keeps the others. -/
def splitTag {α : Type} (tag : String) (variants : List (Variant α)) :
    List (Doc × Doc) → Option (Variant α) → Except JsonFault (Option (Variant α) × List (Doc × Doc))
  | [], chosen? => .ok (chosen?, [])
  | (key, doc) :: rest, chosen? => do
    let name ← asString key
    if name == tag then
      if chosen?.isSome then throw (.duplicate tag)
      splitTag tag variants rest (some (← variantNamed variants doc))
    else
      let _ ← doc.value
      let (chosen?, kept) ← splitTag tag variants rest chosen?
      return (chosen?, (key, doc) :: kept)

/-- A choice between records, told by the value of a key. -/
def choice {α : Type} (name tag : String) (variants : List (Variant α)) : Decoder α
  | object entries stop? => do
    let (chosen?, kept) ← splitTag tag variants entries none
    stopAt stop?
    match chosen? with
    | some variant => variant.read (.object kept none)
    | none => throw (.missing tag)
  | array items stop? => do
    match items with
    | [] =>
      stopAt stop?
      throw (.missing tag)
    | first :: rest =>
      let variant ← variantNamed variants first
      let _ ← values rest
      stopAt stop?
      variant.read (.array rest none)
  | doc => doc.refuse ("internally tagged enum " ++ name)

/-- A variant without fields. -/
def plainVariant {α : Type} (name : String) (result : α) : Variant α :=
  ⟨name, fun
    | array items _ =>
      if items.isEmpty then .ok result
      else .error (.wrongLength items.length (elements 0 ++ " in sequence"))
    | _ => .ok result⟩

/-- Decodes a whole text. -/
def decode {α : Type} (decoder : Decoder α) (source : String) : Except JsonFault α := do
  let (doc, behind?) := ofText source
  let result ← decoder doc
  stopAt behind?
  return result

/-- Decodes whole bytes. What is no text is either out of place or within a string. -/
def decodeBytes {α : Type} (decoder : Decoder α) (bytes : ByteArray) : Except JsonFault α := do
  let result ← decode decoder (Text.Utf8.lossy bytes)
  if bytes.validateUTF8 then return result else throw .noText

end Doc

/-- Reads any value from a text. -/
def Json.parse (source : String) : Except JsonFault Json := Doc.decode Doc.value source

end ComponentCatalog
