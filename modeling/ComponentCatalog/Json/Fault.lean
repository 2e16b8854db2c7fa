/-!
# Why a JSON text is not read

A text may break the rules of JSON, or hold another value than the one that was wanted. Either way
one sentence says what is wrong.
-/

namespace ComponentCatalog

/-- A reason why a JSON text is not read as what it should be. -/
inductive JsonFault where
  | listEnd
  | objectEnd
  | stringEnd
  | valueEnd
  | noColon
  | noListComma
  | noObjectComma
  | badWord
  | noValue
  | badEscape
  | badNumber
  | numberTooGreat
  | controlCharacter
  | keyNoString
  | loneSurrogate
  | halfSurrogate
  /-- The bytes of a string are no text. -/
  | noText
  | trailingComma
  | trailingText
  | tooDeep
  /-- A value of another kind was wanted. -/
  | wrongKind (found wanted : String)
  /-- A value of the right kind is not one of those that are wanted. -/
  | wrongValue (found wanted : String)
  | wrongLength (length : Nat) (wanted : String)
  | missing (field : String)
  | duplicate (field : String)
  | unknownVariant (name : String) (known : List String)
  /-- The value is refused for a reason of its own. -/
  | refused (reason : String)
  deriving Repr, DecidableEq, Inhabited

namespace JsonFault

def quoted (name : String) : String := "`" ++ name ++ "`"

def oneOf : List String → String
  | [] => "there are no variants"
  | [a] => quoted a
  | [a, b] => quoted a ++ " or " ++ quoted b
  | names => "one of " ++ ", ".intercalate (names.map quoted)

def message : JsonFault → String
  | listEnd => "EOF while parsing a list"
  | objectEnd => "EOF while parsing an object"
  | stringEnd => "EOF while parsing a string"
  | valueEnd => "EOF while parsing a value"
  | noColon => "expected `:`"
  | noListComma => "expected `,` or `]`"
  | noObjectComma => "expected `,` or `\x7d`"
  | badWord => "expected ident"
  | noValue => "expected value"
  | badEscape => "invalid escape"
  | badNumber => "invalid number"
  | numberTooGreat => "number out of range"
  | controlCharacter => "control character (\\u0000-\\u001F) found while parsing a string"
  | keyNoString => "key must be a string"
  | loneSurrogate => "lone leading surrogate in hex escape"
  | halfSurrogate => "unexpected end of hex escape"
  | noText => "invalid unicode code point"
  | trailingComma => "trailing comma"
  | trailingText => "trailing characters"
  | tooDeep => "recursion limit exceeded"
  | wrongKind found wanted => "invalid type: " ++ found ++ ", expected " ++ wanted
  | wrongValue found wanted => "invalid value: " ++ found ++ ", expected " ++ wanted
  | wrongLength length wanted => "invalid length " ++ toString length ++ ", expected " ++ wanted
  | missing field => "missing field " ++ quoted field
  | duplicate field => "duplicate field " ++ quoted field
  | unknownVariant name known => "unknown variant " ++ quoted name ++ ", expected " ++ oneOf known
  | refused reason => reason

end JsonFault

end ComponentCatalog
