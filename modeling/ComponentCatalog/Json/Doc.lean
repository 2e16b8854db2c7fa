import ComponentCatalog.Json.Fault
import ComponentCatalog.Json.Value

/-!
# Reading JSON

A text is read once from left to right. What stops the reading is kept at its place in the tree, so
that a decoder which goes through the tree in order meets either the text's own fault or a value
that it does not want, whichever comes first.

Some texts are no values and still may be passed over: strings with half a surrogate pair, numbers
beyond the greatest one and nesting beyond a limit. They become `flawed`.
-/

namespace ComponentCatalog

/-- A JSON text as far as it could be read. -/
inductive Doc where
  | null
  | bool (b : Bool)
  | number (n : JsonNumber)
  | string (text : String)
  /-- Items, and what stopped the reading behind them. -/
  | array (items : List Doc) (stop? : Option JsonFault)
  /-- Keys with their values, and what stopped the reading behind them. -/
  | object (entries : List (Doc × Doc)) (stop? : Option JsonFault)
  /-- What may be passed over but is no value. -/
  | flawed (fault : JsonFault) (inner : Doc)
  /-- What stopped the reading. -/
  | broken (fault : JsonFault)
  deriving Repr, Inhabited

namespace Doc

/-- A part of a text that was read, and the text behind it unless the reading stopped. -/
abbrev Reading := Doc × Option (List Char)

def stopped (fault : JsonFault) : Reading := (.broken fault, none)

/-- Blanks between the parts of a text. -/
def isBlank (c : Char) : Bool := c == ' ' || c == '\n' || c == '\t' || c == '\r'

def skipBlanks (text : List Char) : List Char := text.dropWhile isBlank

/-! ## Strings -/

def hexValue? (c : Char) : Option Nat :=
  if c.isDigit then some (c.toNat - '0'.toNat)
  else if 'a' ≤ c && c ≤ 'f' then some (c.toNat - 'a'.toNat + 10)
  else if 'A' ≤ c && c ≤ 'F' then some (c.toNat - 'A'.toNat + 10)
  else none

/-- The number that four digits of base sixteen write. -/
def fourDigits? (a b c d : Char) : Option Nat := do
  return (((← hexValue? a) * 16 + (← hexValue? b)) * 16 + (← hexValue? c)) * 16 + (← hexValue? d)

/-- The characters of a string, the first flaw in it, and the text behind it. -/
structure TextReading where
  chars : List Char
  flaw? : Option JsonFault
  rest : Except JsonFault (List Char)

/-- A reading with a character in front. -/
def TextReading.add (c : Char) (reading : TextReading) : TextReading :=
  { reading with chars := c :: reading.chars }

/-- A reading with a flaw in front. -/
def TextReading.flag (flaw : JsonFault) (reading : TextReading) : TextReading :=
  { reading with flaw? := some flaw }

/-- The character that a short escape stands for. -/
def escaped? (c : Char) : Option Char :=
  match c with
  | '"' | '\\' | '/' => some c
  | 'b' => some (Char.ofNat 8)
  | 'f' => some (Char.ofNat 12)
  | 'n' => some '\n'
  | 'r' => some '\r'
  | 't' => some '\t'
  | _ => none

/-- A string from behind its opening quote. -/
def readText : List Char → TextReading
  | [] => ⟨[], none, .error .stringEnd⟩
  | '"' :: rest => ⟨[], none, .ok rest⟩
  | ['\\'] => ⟨[], none, .error .stringEnd⟩
  -- Two escapes in a row may be the halves of one character.
  | '\\' :: 'u' :: a :: b :: c :: d :: '\\' :: 'u' :: e :: f :: g :: h :: rest =>
    match fourDigits? a b c d with
    | none => ⟨[], none, .error .badEscape⟩
    | some high =>
      if 0xD800 ≤ high && high < 0xDC00 then
        match fourDigits? e f g h with
        | none => ⟨[], none, .error .badEscape⟩
        | some low =>
          if 0xDC00 ≤ low && low < 0xE000 then
            (readText rest).add (Char.ofNat (0x10000 + (high - 0xD800) * 1024 + (low - 0xDC00)))
          -- Both escapes are passed over, also where the second could stand alone.
          else (readText rest).flag .loneSurrogate
      else
        let behind := readText ('\\' :: 'u' :: e :: f :: g :: h :: rest)
        if 0xDC00 ≤ high && high < 0xE000 then behind.flag .loneSurrogate
        else behind.add (Char.ofNat high)
  | '\\' :: 'u' :: a :: b :: c :: d :: rest =>
    match fourDigits? a b c d with
    | none => ⟨[], none, .error .badEscape⟩
    | some code =>
      if 0xD800 ≤ code && code < 0xDC00 then
        match rest with
        | '\\' :: 'u' :: more =>
          if String.utf8ByteSize (String.ofList more) < 4 then
            ⟨[], none, .error .stringEnd⟩
          else ⟨[], none, .error .badEscape⟩
        | [] | ['\\'] => ⟨[], none, .error .stringEnd⟩
        | _ => (readText rest).flag .halfSurrogate
      else if 0xDC00 ≤ code && code < 0xE000 then (readText rest).flag .loneSurrogate
      else (readText rest).add (Char.ofNat code)
  | '\\' :: 'u' :: rest =>
    if String.utf8ByteSize (String.ofList rest) < 4 then ⟨[], none, .error .stringEnd⟩
    else ⟨[], none, .error .badEscape⟩
  | '\\' :: c :: rest =>
    match escaped? c with
    | some plain => (readText rest).add plain
    | none => ⟨[], none, .error .badEscape⟩
  | c :: rest =>
    if c.toNat < 32 then ⟨[], none, .error .controlCharacter⟩ else (readText rest).add c

def readString (text : List Char) : Reading :=
  let reading := readText text
  let inner : Reading := match reading.rest with
    | .ok rest => (.string (String.ofList reading.chars), some rest)
    | .error fault => stopped fault
  match reading.flaw? with
  | some flaw => (.flawed flaw inner.1, inner.2)
  | none => inner

/-! ## Numbers -/

/-- The greatest number of 64 bits without a sign. -/
def greatestWord : Nat := Nat.pow 2 64 - 1

/-- Digits taken into a number while it stays below the greatest one, and how many were left out. -/
def takeDigits : Nat → List Char → Nat × Nat
  | value, [] => (value, 0)
  | value, c :: rest =>
    let next := value * 10 + (c.toNat - '0'.toNat)
    -- Once a digit does not fit, those behind it are left out, too.
    if greatestWord < next then (value, rest.length + 1) else takeDigits next rest

/-- Ten to a power, rounded. -/
def powerOfTen (n : Nat) : Nat × Nat :=
  match Binary64.ofNat? (Nat.pow 10 n) with
  | some x => x.ratio
  | none => (Nat.pow 10 n, 1)

/-- A number times a power of ten; nothing when it grows too great. -/
def scaled : Nat → Binary64 → Int → Option Binary64
  | 0, x, _ => some x
  | steps + 1, x, exponent =>
    if exponent.natAbs ≤ 308 then
      if 0 ≤ exponent then x.mul? (powerOfTen exponent.toNat)
      else x.div? (powerOfTen (-exponent).toNat)
    else if x.mantissa == 0 then some x
    else if 0 ≤ exponent then none
    else (x.div? (powerOfTen 308)).bind fun smaller => scaled steps smaller (exponent + 308)

/-- A number with a sign, digits and a power of ten. -/
def realOf (negative : Bool) (digits : Nat) (exponent : Int) : Doc :=
  match (Binary64.ofRatio negative digits 1).bind fun x => scaled 8 x exponent with
  | some x => .number (.real x)
  | none => .flawed .numberTooGreat .null

/-- A whole number with a sign. Zero with a sign is not whole, nor is what needs more bits. -/
def wholeOf (negative : Bool) (digits : Nat) : Doc :=
  if !negative then .number (.whole digits)
  else if digits == 0 || Nat.pow 2 63 < digits then realOf true digits 0
  else .number (.whole (-(digits : Int)))

/-- The exponent of a number, from behind its mark. -/
def readExponent (negative : Bool) (digits : Nat) (place : Int) (text : List Char) : Reading :=
  let down := text.head? == some '-'
  let unsigned := if down || text.head? == some '+' then text.tail else text
  let shift := unsigned.takeWhile Char.isDigit
  let rest := unsigned.dropWhile Char.isDigit
  if shift.isEmpty then stopped (if rest.isEmpty then .valueEnd else .badNumber)
  else
    let size := shift.foldl (fun n c => n * 10 + (c.toNat - '0'.toNat)) 0
    let doc :=
      -- So great an exponent is not taken into account: the number is too great, or it is zero.
      if Nat.pow 2 31 ≤ size then
        if digits != 0 && !down then Doc.flawed .numberTooGreat .null
        else .number (.real (Binary64.zero negative))
      else realOf negative digits (if down then place - size else place + size)
    (doc, some rest)

/-- The number behind its sign. -/
def readNumber (negative : Bool) (text : List Char) : Reading :=
  let whole := text.takeWhile Char.isDigit
  let rest := text.dropWhile Char.isDigit
  if whole.isEmpty then stopped (if rest.isEmpty then .valueEnd else .badNumber)
  else if whole.head? == some '0' && 1 < whole.length then stopped .badNumber
  else
    let (digits, left) := takeDigits 0 whole
    match rest with
    | '.' :: behind =>
      let fraction := behind.takeWhile Char.isDigit
      let rest := behind.dropWhile Char.isDigit
      let (digits, unused) := takeDigits digits fraction
      let used := fraction.length - unused
      -- Each digit left out of the whole part is a factor of ten, each one taken from the fraction a divisor.
      let place : Int := left - used
      if used == 0 && unused == 0 then stopped (if rest.isEmpty then .valueEnd else .badNumber)
      else match rest with
        | 'e' :: more | 'E' :: more => readExponent negative digits place more
        | _ => (realOf negative digits place, some rest)
    | 'e' :: more | 'E' :: more => readExponent negative digits left more
    | _ => (if left == 0 then wholeOf negative digits else realOf negative digits left, some rest)

/-! ## Values -/

/-- The rest of a word, with the value it stands for. -/
def readWord (value : Doc) : List Char → List Char → Reading
  | [], rest => (value, some rest)
  | _ :: _, [] => stopped .valueEnd
  | wanted :: more, c :: rest =>
    if c == wanted then readWord value more rest else stopped .badWord

/-- How deeply lists and objects may be nested in each other. -/
def depthLimit : Nat := 127

/-- A list or object, flawed when it is nested too deeply. -/
def atDepth (depth : Nat) (doc : Doc) : Doc :=
  if depthLimit ≤ depth then .flawed .tooDeep doc else doc

mutual

/-- A value at the start of a text. -/
def readValue : Nat → Nat → List Char → Reading
  | 0, _, _ => stopped .tooDeep
  | fuel + 1, depth, text =>
    match skipBlanks text with
    | [] => stopped .valueEnd
    | '"' :: rest => readString rest
    | '[' :: rest =>
      let (items, stop?, rest?) := readItems fuel (depth + 1) true rest
      (atDepth depth (.array items stop?), rest?)
    | '{' :: rest =>
      let (entries, stop?, rest?) := readEntries fuel (depth + 1) true rest
      (atDepth depth (.object entries stop?), rest?)
    | 'n' :: rest => readWord .null "ull".toList rest
    | 't' :: rest => readWord (.bool true) "rue".toList rest
    | 'f' :: rest => readWord (.bool false) "alse".toList rest
    | '-' :: rest => readNumber true rest
    | c :: rest => if c.isDigit then readNumber false (c :: rest) else stopped .noValue

/-- The items of a list up to its end. -/
def readItems : Nat → Nat → Bool → List Char →
    List Doc × Option JsonFault × Option (List Char)
  | 0, _, _, _ => ([], some .tooDeep, none)
  | fuel + 1, depth, first, text =>
    match skipBlanks text with
    | [] => ([], some .listEnd, none)
    | c :: rest =>
      if c == ']' then ([], none, some rest)
      else if !first && c != ',' then ([], some .noListComma, none)
      else
        let item := if first then c :: rest else skipBlanks rest
        match item.head? with
        | none => ([], some .valueEnd, none)
        | some ']' => ([], some .trailingComma, none)
        | some _ =>
          match readValue fuel depth item with
          | (doc, none) => ([doc], none, none)
          | (doc, some rest) =>
            let (docs, stop?, rest?) := readItems fuel depth false rest
            (doc :: docs, stop?, rest?)

/-- The entries of an object up to its end. -/
def readEntries : Nat → Nat → Bool → List Char →
    List (Doc × Doc) × Option JsonFault × Option (List Char)
  | 0, _, _, _ => ([], some .tooDeep, none)
  | fuel + 1, depth, first, text =>
    match skipBlanks text with
    | [] => ([], some .objectEnd, none)
    | c :: rest =>
      if c == '}' then ([], none, some rest)
      else if !first && c != ',' then ([], some .noObjectComma, none)
      else
        match if first then c :: rest else skipBlanks rest with
        | [] => ([], some .valueEnd, none)
        | '"' :: rest =>
          match readString rest with
          | (key, none) => ([(key, .broken .valueEnd)], none, none)
          | (key, some rest) =>
            match skipBlanks rest with
            | [] => ([(key, .broken .objectEnd)], none, none)
            | ':' :: rest =>
              match readValue fuel depth rest with
              | (doc, none) => ([(key, doc)], none, none)
              | (doc, some rest) =>
                let (entries, stop?, rest?) := readEntries fuel depth false rest
                ((key, doc) :: entries, stop?, rest?)
            | _ => ([(key, .broken .noColon)], none, none)
        | d :: _ =>
          ([], some (if d == '}' && !first then .trailingComma else .keyNoString), none)

end

/-- A text as a tree, and what is wrong with what stands behind it. -/
def ofText (text : String) : Doc × Option JsonFault :=
  let chars := text.toList
  -- Of two calls, one within the other, the outer one takes a character.
  match readValue (2 * chars.length + 2) 0 chars with
  | (doc, none) => (doc, none)
  | (doc, some rest) => (doc, if (skipBlanks rest).isEmpty then none else some .trailingText)

end Doc

end ComponentCatalog
