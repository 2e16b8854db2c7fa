import ComponentCatalog.Text.Quoted

/-!
# Why a script does not parse

Every cause that stops the reading of a script, and the one sentence that reports it. Faults that
the reader repairs on its own are not listed: they leave no trace in a result.
-/

namespace ComponentCatalog.Script

/-- A cause that stops the reading of a script. -/
inductive Fault where
  /-- The script ends where more was needed. -/
  | ended
  /-- No expression starts here. -/
  | noExpression
  | emptyParentheses
  | noStatementEnd
  | noIdentifier
  /-- One exact token was needed, another one stands there. -/
  | expected (token found : String)
  /-- One of several things was needed, another token stands there. -/
  | unexpected (found wanted : String)
  | openRegex
  | openTemplate
  | breakAfterThrow
  | breakBeforeArrow
  | badEscape (wanted : String)
  | badStringEscape
  | badUnicodeEscape
  | noUnicodeEscape
  | octalEscape
  | escapedKeyword (word : String)
  | badAssignment
  | negatedPower
  | strangeCharacter (c : Char)
  | nameAfterNumber
  | noDigit (radix : Nat)
  | endsInExponent
  | mergeMarker
  | awaitName
  | awaitStar
  | awaitLoop
  | yieldParameter
  | notPattern
  | notExpression
  | spreadInParentheses
  | arrowNotAllowed
  | superAccess
  | superCall
  | superOptional
  | importAccess
  | nonNull (subject : String)
  | newOptional
  | spaceAfterHash
  | constructorField
  | asyncConstructor
  | parameterProperty
  | optionalPattern
  | dotsWithoutName
  | readOnlyMethod
  | readOnlyAccessor
  | setterWithoutParameter
  | requiredAfterOptional
  | severalDefaults
  | nestedImport
  | importInStatement
  | reservedImport
  | textImport (name : String)
  | exportNotAllowed
  | decoratedExport
  | importTrailingComma
  | nestedDeclare
  /-- The nesting is deeper than the reader follows. -/
  | tooDeep
  deriving Repr, DecidableEq

def radixName (radix : Nat) : String :=
  if radix == 2 then "a binary"
  else if radix == 8 then "an octal"
  else if radix == 16 then "a hexadecimal"
  else "a decimal"

def Fault.message : Fault → String
  | ended => "Unexpected eof"
  | noExpression => "Expression expected"
  | emptyParentheses => "Parenthesized expression cannot be empty"
  | noStatementEnd => "Expected ';', '\x7d' or <eof>"
  | noIdentifier => "Expected ident"
  | expected token found => "Expected '" ++ token ++ "', got '" ++ found ++ "'"
  | unexpected found wanted => "Unexpected token `" ++ found ++ "`. Expected " ++ wanted
  | openRegex => "Unterminated regexp literal"
  | openTemplate => "Unterminated template"
  | breakAfterThrow => "LineBreak cannot follow 'throw'"
  | breakBeforeArrow => "Unexpected line break between arrow head and arrow"
  | badEscape wanted => "Bad character escape sequence, expected " ++ wanted
  | badStringEscape => "Invalid string escape"
  | badUnicodeEscape => "Invalid unicode escape"
  | noUnicodeEscape => "Expected unicode escape"
  | octalEscape => "Legacy octal escape is not permitted in strict mode"
  | escapedKeyword word => "Unexpected escape sequence in reserved word: " ++ word
  | badAssignment => "Invalid assignment target"
  | negatedPower => "** cannot be applied to unary expression"
  | strangeCharacter c => "Unexpected character " ++ Text.quotedChar c
  | nameAfterNumber => "Identifier cannot follow number"
  | noDigit radix => "Expected " ++ radixName radix ++ " digit"
  | endsInExponent => "Expected +, - or decimal digit after e"
  | mergeMarker => "Merge conflict marker encountered."
  | awaitName => "`await` cannot be used as an identifier in an async context"
  | awaitStar =>
    "await* has been removed from the async functions proposal. Use Promise.all() instead."
  | awaitLoop => "for await syntax is valid only for for-of statement"
  | yieldParameter => "'yield' cannot be used as a parameter within generator"
  | notPattern => "Not a pattern"
  | notExpression => "Not an expression"
  | spreadInParentheses => "Parenthesized expression cannot contain spread operator"
  | arrowNotAllowed => "An arrow function is not allowed here"
  | superAccess => "Invalid access to super"
  | superCall => "Invalid `super()`"
  | superOptional => "Super call cannot be optional"
  | importAccess => "Invalid import syntax."
  | nonNull subject =>
    "Typescript non-null assertion operator is not allowed with '" ++ subject ++ "'"
  | newOptional => "Constructor in/after an optional chaining is not allowed."
  | spaceAfterHash => "Unexpected space between # and identifier"
  | constructorField => "Classes may not have a non-static field named 'constructor'"
  | asyncConstructor => "Constructor can't be an async function"
  | parameterProperty => "Typescript parameter property must be an identifier or assignment pattern"
  | optionalPattern =>
    "A binding pattern parameter cannot be optional in an implementation signature."
  | dotsWithoutName => "`...` must be followed by an identifier in declaration contexts"
  | readOnlyMethod => "A method cannot be readonly"
  | readOnlyAccessor => "A getter or a setter cannot be readonly"
  | setterWithoutParameter => "A `set` accessor should have exactly one parameter"
  | requiredAfterOptional => "A required element cannot follow an optional element."
  | severalDefaults => "A switch block cannot have multiple defaults"
  | nestedImport => "'import', and 'export' are not permitted here"
  | importInStatement => "'import', and 'export' cannot be used outside of module code"
  | reservedImport => "cannot import as reserved word"
  | textImport name =>
    "A string literal cannot be used as an imported binding.\n- Did you mean `import \x7b \"" ++
      name ++ "\" as foo \x7d`?"
  | exportNotAllowed => "`export` is not allowed here"
  | decoratedExport =>
    "Using the export keyword between a decorator and a class is not allowed. " ++
      "Please use `export @dec class` instead."
  | importTrailingComma => "Trailing comma is disallowed inside import(...) arguments"
  | nestedDeclare => "A 'declare' modifier cannot be used in an already ambient context."
  | tooDeep => "Nesting is too deep"

end ComponentCatalog.Script
