import ComponentCatalog.Script.Cursor
import ComponentCatalog.Script.Fault
import ComponentCatalog.Script.Numeral

/-!
# Tokens of a script

A token is a word, a mark (a punctuator or an operator) or a literal. A text that is no token
becomes `bad`, and is reported only when the reader reaches it.
-/

namespace ComponentCatalog.Script

/-- A stretch of a source, counted in characters. -/
structure Span where
  lo : Nat
  hi : Nat
  deriving Repr, DecidableEq, Inhabited

/-- The smallest piece of a script that has a meaning. -/
inductive Token where
  /-- A name or a keyword, its escapes resolved. -/
  | word (text : String)
  /-- A punctuator or an operator. -/
  | mark (text : String)
  | string (value raw : String)
  | number (raw : String)
  | bigint (raw : String)
  | regex (body flags : String)
  /-- A text that is no token. -/
  | bad (fault : Fault)
  /-- The end of the script. -/
  | finish
  deriving Repr, DecidableEq, Inhabited

/-- A token in its place. -/
structure Lexeme where
  token : Token
  /-- The source from the token on. -/
  source : Cursor
  span : Span
  /-- A line ended between the previous token and this one. -/
  afterBreak : Bool
  deriving Repr, Inhabited

/-- How a report shows a token. -/
def Token.shown : Token → String
  | word text => text
  | mark text => text
  | string value raw => "string literal (" ++ value ++ ", " ++ raw ++ ")"
  | number raw => "numeric literal (" ++ Numeral.valueText raw ++ ", " ++ raw ++ ")"
  | bigint raw => "bigint literal (" ++ Numeral.bigText raw ++ ", " ++ raw ++ ")"
  | regex body flags => "regexp literal (" ++ body ++ ", " ++ flags ++ ")"
  | bad fault => "<lexing error: " ++ fault.message ++ ">"
  | finish => "<eof>"

/-- Words that are never names in strict code. -/
def keywords : List String :=
  ["await", "break", "case", "catch", "class", "const", "continue", "debugger", "default",
    "delete", "do", "else", "export", "extends", "finally", "for", "function", "if", "import",
    "in", "instanceof", "let", "new", "return", "super", "switch", "this", "throw", "try",
    "typeof", "var", "void", "while", "with", "yield"]

/-- Words that are written like names and are values. -/
def constants : List String := ["null", "true", "false"]

/-- Names that strict code keeps for later. -/
def futureWords : List String :=
  ["enum", "implements", "interface", "package", "private", "protected", "public"]

def isKeyword (text : String) : Bool := keywords.contains text

def isPlainName (text : String) : Bool := !isKeyword text && !constants.contains text

/-- A word that strict module code does not accept as a name. -/
def isReserved (text : String) : Bool :=
  isKeyword text || constants.contains text || futureWords.contains text

/-- No keyword is accepted as a name. -/
theorem isReserved_of_isKeyword {text : String} (keyword : isKeyword text = true) :
    isReserved text = true := by
  simp [isReserved, keyword]

/-- The operators that join two operands. -/
def binaryMarks : List String :=
  ["+", "-", "*", "/", "%", "**", "<<", ">>", ">>>", "<", "<=", ">", ">=", "==", "!=", "===",
    "!==", "&", "|", "^", "&&", "||", "??"]

/-- The operators that store a value. -/
def assignMarks : List String :=
  ["=", "+=", "-=", "*=", "/=", "%=", "**=", "<<=", ">>=", ">>>=", "&=", "|=", "^=", "&&=", "||=",
    "??="]

def Token.isMark (text : String) : Token → Bool
  | mark other => other == text
  | _ => false

def Token.isWord (text : String) : Token → Bool
  | word other => other == text
  | _ => false

def Token.isAnyWord : Token → Bool
  | word _ => true
  | _ => false

def Token.isName : Token → Bool
  | word text => !isReserved text
  | _ => false

def Token.isString : Token → Bool
  | string _ _ => true
  | _ => false

def Token.isBinary : Token → Bool
  | mark text => binaryMarks.contains text
  | _ => false

def Token.isAssignment : Token → Bool
  | mark text => assignMarks.contains text
  | _ => false

/-- The words that start an expression without being names. -/
def expressionWords : List String :=
  ["await", "class", "function", "import", "let", "new", "super", "this", "throw", "typeof",
    "void", "delete", "yield"]

/-- The tokens that start an expression. -/
def Token.startsExpression : Token → Bool
  | word text => isPlainName text || constants.contains text || expressionWords.contains text
  | mark text =>
    ["+", "-", "!", "(", "\x7b", "[", "`", "++", "--", "~", "<", "/", "#", "@"].contains text
  | string _ _ | number _ | bigint _ | regex _ _ => true
  | bad _ | finish => false

/-- Binary operators bind by rank; a higher rank binds tighter. -/
def rank : String → Nat
  | "??" | "||" => 1
  | "&&" => 2
  | "|" => 3
  | "^" => 4
  | "&" => 5
  | "==" | "!=" | "===" | "!==" => 6
  | "<" | "<=" | ">" | ">=" | "instanceof" | "in" => 7
  | "<<" | ">>" | ">>>" => 8
  | "+" | "-" => 9
  | "*" | "/" | "%" => 10
  | "**" => 11
  | _ => 0

end ComponentCatalog.Script
