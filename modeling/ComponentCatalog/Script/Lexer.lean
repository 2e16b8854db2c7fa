import ComponentCatalog.Script.Cursor
import ComponentCatalog.Script.Token
import ComponentCatalog.Unicode.Identifier

/-!
# Reading tokens

One call reads one token. Two kinds of text have no token of their own until the reader asks for
them: a regular expression looks like a division, and the text of a template starts at a backquote
or at a closing brace. `readRegex` and `readChunk` read these on demand.
-/

namespace ComponentCatalog.Script.Lexer

open Unicode

def isBreak (c : Char) : Bool :=
  c == '\n' || c == '\r' || c.toNat == 0x2028 || c.toNat == 0x2029

/-- The characters between tokens that do not end a line. -/
def isBlank (c : Char) : Bool :=
  c == ' ' || c == '\t' || c.toNat == 0x0B || c.toNat == 0x0C || c.toNat == 0xA0 ||
    c.toNat == 0xFEFF || c.toNat == 0x1680 || (0x2000 ≤ c.toNat && c.toNat ≤ 0x200A) ||
    c.toNat == 0x202F || c.toNat == 0x205F || c.toNat == 0x3000

/-- What the text between tokens is at the moment. -/
inductive Trivia where
  | blank
  | line
  | block (star : Bool)

/-- Skips blanks and comments, and says whether a line ended on the way. -/
def skipTriviaFrom : Trivia → Nat → Bool → List Char → Cursor × Bool
  | _, pos, broken, [] => (⟨pos, []⟩, broken)
  | .blank, pos, broken, '/' :: '/' :: rest => skipTriviaFrom .line (pos + 2) broken rest
  | .blank, pos, broken, '/' :: '*' :: rest =>
    skipTriviaFrom (.block false) (pos + 2) broken rest
  | .blank, pos, broken, c :: rest =>
    if isBreak c then skipTriviaFrom .blank (pos + 1) true rest
    else if isBlank c then skipTriviaFrom .blank (pos + 1) broken rest
    else (⟨pos, c :: rest⟩, broken)
  | .line, pos, broken, c :: rest =>
    if isBreak c then skipTriviaFrom .blank (pos + 1) true rest
    else skipTriviaFrom .line (pos + 1) broken rest
  | .block star, pos, broken, c :: rest =>
    if star && c == '/' then skipTriviaFrom .blank (pos + 1) broken rest
    else skipTriviaFrom (.block (c == '*')) (pos + 1) (broken || isBreak c) rest

/-- The cursor at the next token, and whether a line ended before it. -/
def skipTrivia (c : Cursor) (broken : Bool) : Cursor × Bool :=
  skipTriviaFrom .blank c.pos broken c.rest

/-- A token or a fault, with the cursor where its reading stopped. -/
abbrev Reading := Except Fault Token × Cursor

def found (token : Token) (c : Cursor) : Reading := (.ok token, c)

def failed (fault : Fault) (c : Cursor) : Reading := (.error fault, c)

/-- Up to `limit` digits of a radix; separators between them are passed over. -/
def readDigitsFrom (radix : Nat) : Nat → Nat → List Char → List Char × Cursor
  | _, pos, [] => ([], ⟨pos, []⟩)
  | 0, pos, rest => ([], ⟨pos, rest⟩)
  | limit + 1, pos, c :: rest =>
    if c == '_' then readDigitsFrom radix (limit + 1) (pos + 1) rest
    else if Numeral.isDigitOf radix c then
      let (digits, after) := readDigitsFrom radix limit (pos + 1) rest
      (c :: digits, after)
    else ([], ⟨pos, c :: rest⟩)

def readDigits (radix limit : Nat) (c : Cursor) : List Char × Cursor :=
  readDigitsFrom radix limit c.pos c.rest

/-- The characters from one cursor up to another. -/
def between (start stop : Cursor) : List Char := start.rest.take (stop.pos - start.pos)

/-- The character of a code point, unless it is a surrogate or too great. -/
def charOf? (code : Nat) : Option Char :=
  if code < 0xD800 || (0xDFFF < code && code ≤ 0x10FFFF) then some (Char.ofNat code) else none

/-- An escape `uXXXX` or `u{X…}`, read from behind the `u`. A surrogate stays written out. -/
def readUnicodeEscape (c : Cursor) : Except Fault (List Char) × Cursor :=
  let curly := c.head? == some '{'
  let start := if curly then c.next else c
  let (digits, after) := readDigits 16 (if curly then 100000 else 4) start
  let value := Numeral.valueOf 16 digits
  if digits.isEmpty || (!curly && digits.length != 4) || 0xFFFFFFFF < value then
    (.error (.badEscape (if curly then "1-6 hex characters" else "4 hex characters")), after)
  else if 0x10FFFF < value then
    (.error (.badEscape
      (if curly then "1-6 hex characters in the range 0 to 10FFFF." else "4 hex characters")),
      after)
  else
    let result := match charOf? value with
      | some ch => ([ch], after)
      | none =>
        let written := between start after
        ('\\' :: 'u' :: (if curly then '{' :: (written ++ ['}']) else written), after)
    if curly then
      if after.head? == some '}' then (.ok result.1, after.next)
      else (.error .badUnicodeEscape, after)
    else (.ok result.1, after)

/-- An old octal escape: up to three octal digits that stay below 256. -/
def readOctalEscape (first : Char) (c : Cursor) : List Char × Cursor :=
  let one := Numeral.digitValue first
  match c.head? with
  | some d =>
    if Numeral.isDigitOf 8 d then
      let two := one * 8 + Numeral.digitValue d
      let after := c.next
      match after.head? with
      | some e =>
        let three := two * 8 + Numeral.digitValue e
        if Numeral.isDigitOf 8 e && three < 256 then ([Char.ofNat three], after.next)
        else ([Char.ofNat two], after)
      | none => ([Char.ofNat two], after)
    else ([Char.ofNat one], c)
  | none => ([Char.ofNat one], c)

/-- What an escape stands for, read from behind the backslash. -/
def readEscape (inTemplate : Bool) (c : Cursor) : Except Fault (List Char) × Cursor :=
  match c.head? with
  | none => (.error .badStringEscape, c)
  | some ch =>
    let after := c.next
    match ch with
    | 'n' => (.ok ['\n'], after)
    | 'r' => (.ok ['\r'], after)
    | 't' => (.ok ['\t'], after)
    | 'b' => (.ok ['\x08'], after)
    | 'v' => (.ok ['\x0b'], after)
    | 'f' => (.ok ['\x0c'], after)
    | '\r' => (.ok [], if after.head? == some '\n' then after.next else after)
    | 'x' =>
      let (digits, stop) := readDigits 16 2 after
      if digits.length == 2 then (.ok [Char.ofNat (Numeral.valueOf 16 digits)], stop)
      else (.error (.badEscape "2 hex characters"), stop)
    | 'u' => readUnicodeEscape after
    | _ =>
      if isBreak ch then (.ok [], after)
      else if Numeral.isDigitOf 8 ch then
        let digitFollows := (after.head?.map (Numeral.isDigitOf 8)).getD false
        if ch == '0' && !digitFollows then (.ok ['\x00'], after)
        else if inTemplate then (.error .octalEscape, after)
        else
          let (chars, stop) := readOctalEscape ch after
          (.ok chars, stop)
      else (.ok [ch], after)

/-- The rest of a string literal. A string that its line does not close ends with the line. -/
def readStringFrom (quote : Char) (start : Cursor) :
    Nat → List Char → Cursor → Reading
  | 0, value, c => found (.string (String.ofList value.reverse) "") c
  | fuel + 1, value, c =>
    let done (stop : Cursor) : Reading :=
      found (.string (String.ofList value.reverse) (String.ofList (between start stop))) stop
    match c.head? with
    | none => done c
    | some ch =>
      if ch == quote then done c.next
      else if ch == '\n' || ch == '\r' then done c
      else if ch == '\\' then
        match readEscape false c.next with
        | (.ok chars, after) => readStringFrom quote start fuel (chars.reverse ++ value) after
        | (.error fault, after) => failed fault after
      else readStringFrom quote start fuel (ch :: value) c.next

def readString (quote : Char) (c : Cursor) : Reading :=
  readStringFrom quote c (c.rest.length + 1) [] c.next

/-- No name may touch the end of a numeral. -/
def closeNumber (token : Token) (c : Cursor) : Reading :=
  match c.head? with
  | some ch => if isNameStart ch then failed .nameAfterNumber c else found token c
  | none => found token c

def readRadix (radix : Nat) (start : Cursor) : Reading :=
  let (digits, after) := readDigits radix start.rest.length (start.skip 2)
  if digits.isEmpty then failed (.noDigit radix) after
  else if after.head? == some 'n' then
    found (.bigint (String.ofList (between start after.next))) after.next
  else closeNumber (.number (String.ofList (between start after))) after

/-- The exponent of a numeral, from behind its `e`. -/
def readExponent (start c : Cursor) : Reading :=
  match c.head? with
  | none => failed .endsInExponent c
  | some sign =>
    let digitsAt := if sign == '+' || sign == '-' then c.next else c
    let (digits, after) := readDigits 10 start.rest.length digitsAt
    if digits.isEmpty then failed (.noDigit 10) after
    else closeNumber (.number (String.ofList (between start after))) after

/-- A decimal numeral, from its first digit or point. -/
def readDecimal (start : Cursor) : Reading :=
  let (digits, whole) := readDigits 10 start.rest.length start
  if !digits.isEmpty && whole.head? == some 'n' then
    found (.bigint (String.ofList (between start whole.next))) whole.next
  -- An old octal numeral has neither a fraction nor an exponent.
  else if digits.head? == some '0' && 1 < digits.length && digits.all (Numeral.isDigitOf 8) then
    closeNumber (.number (String.ofList (between start whole))) whole
  else
    let mantissa :=
      if whole.head? == some '.' then (readDigits 10 start.rest.length whole.next).2 else whole
    if mantissa.head? == some 'e' || mantissa.head? == some 'E' then
      readExponent start mantissa.next
    else closeNumber (.number (String.ofList (between start mantissa))) mantissa

def readNumber (c : Cursor) : Reading :=
  match c.rest with
  | '0' :: 'x' :: _ | '0' :: 'X' :: _ => readRadix 16 c
  | '0' :: 'o' :: _ | '0' :: 'O' :: _ => readRadix 8 c
  | '0' :: 'b' :: _ | '0' :: 'B' :: _ => readRadix 2 c
  | _ => readDecimal c

/-- The rest of a word; an escape hides nothing but may not spell a keyword. -/
def readWordFrom : Nat → List Char → Bool → Cursor → Reading
  | 0, text, _, c => found (.word (String.ofList text.reverse)) c
  | fuel + 1, text, escaped, c =>
    let done : Reading :=
      let word := String.ofList text.reverse
      if escaped && isReserved word then failed (.escapedKeyword word) c
      else found (.word word) c
    match c.head? with
    | none => done
    | some ch =>
      if ch == '\\' then
        if c.next.head? == some 'u' then
          match readUnicodeEscape c.next.next with
          | (.ok chars, after) => readWordFrom fuel (chars.reverse ++ text) true after
          | (.error fault, after) => failed fault after
        else failed .noUnicodeEscape c.next
      else if isNamePart ch then readWordFrom fuel (ch :: text) escaped c.next
      else done

def readWord (c : Cursor) : Reading :=
  let (plain, after) := c.span isNamePart
  if after.head? == some '\\' then readWordFrom (c.rest.length + 1) plain.reverse false after
  else found (.word (String.ofList plain)) after

/-- The marks of more than one character, the longer ones first. -/
def longMarks : List (List Char) :=
  [">>>=", "...", "===", "!==", "**=", "<<=", ">>=", ">>>", "&&=", "||=", "??=", "=>", "==", "!=",
    "**", "++", "--", "<<", ">>", "<=", ">=", "&&", "||", "??", "+=", "-=", "*=", "/=", "%=", "&=",
    "|=", "^="].map String.toList

/-- The marks of one character. -/
def shortMarks : List Char :=
  ['(', ')', '[', ']', '{', '}', ';', ',', '<', '>', '.', ':', '?', '=', '!', '~', '+', '-', '*',
    '/', '%', '&', '|', '^', '@', '\x60', '#']

/-- The longest mark at a cursor. -/
def readMark? (c : Cursor) : Option (Token × Cursor) :=
  match longMarks.find? c.startsWith with
  | some text => some (.mark (String.ofList text), c.skip text.length)
  | none =>
    match c.head? with
    | some ch => if shortMarks.contains ch then some (.mark (String.singleton ch), c.next) else none
    | none => none

/-- The seven-letter marks that a merge leaves behind. -/
def mergeMarks : List (List Char) :=
  ["<<<<<<< ", "=======", ">>>>>>> ", "||||||| "].map String.toList

/-- Where an old comment form starts, if one does: `<!--` anywhere, `-->` at the start of a line. -/
def oldComment? (afterBreak : Bool) (c : Cursor) : Option Cursor :=
  if c.startsWith ['<', '!', '-', '-'] then some (c.skip 4)
  else if afterBreak && c.startsWith ['-', '-', '>'] then some (c.skip 3)
  else none

/-- One token at a cursor that stands on its first character. -/
def readToken (inType afterBreak : Bool) (c : Cursor) : Reading :=
  match c.head? with
  | none => found .finish c
  | some ch =>
    if ch == '"' || ch == '\'' then readString ch c
    else if ch.isDigit then readNumber c
    else if ch == '.' && (c.next.head?.map Char.isDigit).getD false then readNumber c
    else if isNameStart ch || ch == '\\' then readWord c
    -- Two lists of type arguments may close with one sign each, right behind one another.
    else if inType && (ch == '<' || ch == '>') then found (.mark (String.singleton ch)) c.next
    else if afterBreak && mergeMarks.any c.startsWith then failed .mergeMarker (c.skip 7)
    else match readMark? c with
      | some (token, after) => found token after
      | none => failed (.strangeCharacter ch) c.next

/-- Skips trivia and old comments, then reads a token. -/
def nextFrom (inType : Bool) : Nat → Bool → Cursor → Lexeme × Cursor
  | 0, broken, c => (⟨.finish, c, ⟨c.pos, c.pos⟩, broken⟩, c)
  | fuel + 1, broken, c =>
    let (start, afterBreak) := skipTrivia c broken
    match if inType then none else oldComment? afterBreak start with
    | some comment =>
      let (after, _) := skipTriviaFrom .line comment.pos afterBreak comment.rest
      nextFrom inType fuel true after
    | none =>
      match readToken inType afterBreak start with
      | (.ok token, after) => (⟨token, start, ⟨start.pos, after.pos⟩, afterBreak⟩, after)
      | (.error fault, after) => (⟨.bad fault, start, ⟨start.pos, after.pos⟩, afterBreak⟩, after)

/-- The next token. In a type, angle brackets are read one by one. -/
def next (inType first : Bool) (c : Cursor) : Lexeme × Cursor :=
  nextFrom inType (c.rest.length + 1) first c

/-- A first line that names an interpreter is no part of the script. -/
def skipInterpreter (c : Cursor) : Cursor :=
  if c.startsWith ['#', '!'] then (c.span fun ch => !isBreak ch).2 else c

/-- The body of a regular expression, from behind its opening slash. -/
def readRegexBody : Bool → Bool → Nat → List Char → Except Fault (List Char) × Cursor
  | _, _, pos, [] => (.error .openRegex, ⟨pos, []⟩)
  | escaped, inClass, pos, c :: rest =>
    if isBreak c then (.error .openRegex, ⟨pos, c :: rest⟩)
    else if !escaped && !inClass && c == '/' then (.ok [], ⟨pos, c :: rest⟩)
    else
      let inClass := if escaped then inClass else if c == '[' then true
        else if c == ']' then false else inClass
      match readRegexBody (!escaped && c == '\\') inClass (pos + 1) rest with
      | (.ok body, after) => (.ok (c :: body), after)
      | (.error fault, after) => (.error fault, after)

def readRegex (c : Cursor) : Lexeme × Cursor :=
  match readRegexBody false false c.next.pos c.next.rest with
  | (.error fault, after) => (⟨.bad fault, c, ⟨c.pos, after.pos⟩, false⟩, after)
  | (.ok body, after) =>
    let close := after.next
    match close.head?.map isNameStart with
    | some true =>
      match readWord close with
      | (.ok token, stop) =>
        (⟨.regex (String.ofList body) token.shown, c, ⟨c.pos, stop.pos⟩, false⟩, stop)
      | (.error fault, stop) => (⟨.bad fault, c, ⟨c.pos, stop.pos⟩, false⟩, stop)
    | _ => (⟨.regex (String.ofList body) "", c, ⟨c.pos, close.pos⟩, false⟩, close)

/-- A piece of a template's text. -/
structure Chunk where
  /-- The fault of an escape in it, if there is one. -/
  fault : Option Fault
  /-- The text is followed by the closing backquote and not by an expression. -/
  isTail : Bool
  /-- The place behind the text, before what closes it. -/
  stop : Nat

/-- The text of a template up to its end or to the next expression; the cursor stands behind the
closing backquote or the opening `${`. -/
def readChunkFrom : Nat → Option Fault → Cursor → Option Chunk × Cursor
  | 0, _, c => (none, c)
  | fuel + 1, fault, c =>
    match c.rest with
    | [] => (none, c)
    | '\x60' :: _ => (some ⟨fault, true, c.pos⟩, c.next)
    | '$' :: '{' :: _ => (some ⟨fault, false, c.pos⟩, c.skip 2)
    | '\\' :: _ =>
      match readEscape true c.next with
      | (.ok _, after) => readChunkFrom fuel fault after
      | (.error other, after) => readChunkFrom fuel (some other) after
    | _ :: _ => readChunkFrom fuel fault c.next

def readChunk (c : Cursor) : Option Chunk × Cursor :=
  readChunkFrom (c.rest.length + 1) none c

end ComponentCatalog.Script.Lexer
