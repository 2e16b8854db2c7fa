import ComponentCatalog.Script.Pattern

/-!
# Expressions read again as patterns

What stands left of `=` or before `=>` is read as an expression first, and only what follows tells
that it is a pattern. `asPattern` reads the tree again. What no pattern can be becomes an `invalid`
node without parts; a method in an object pattern is the one mistake that stops the reading.
-/

namespace ComponentCatalog.Script

/-- What a pattern is for. -/
inductive PatternRole where
  /-- The whole left side of an assignment. -/
  | assigned
  /-- A piece of the left side of an assignment. -/
  | assignedPart
  /-- A parameter, or a piece of one. -/
  | bound
  deriving Repr, DecidableEq

/-- The role of the pieces of a pattern. -/
def PatternRole.part : PatternRole → PatternRole
  | assigned | assignedPart => assignedPart
  | bound => bound

/-- Expressions that stay what they are as a piece of an assigned pattern. -/
def staysExpression : Node → Bool
  | .call _ _ _ _ | .string _ _ | .number _ | .boolean _ _ | .cast _ _ _ => true
  | .other kind _ _ =>
    [.member, .superMember, .construct, .null, .bigint, .regex, .function, .classBody, .paren,
      .template].contains kind
  | _ => false

/-- A node without parts where no pattern can be read. -/
def invalidAt (span : Span) : Node := .other .invalid span []

mutual

/-- Reads an expression again as a pattern. -/
def asPattern (role : PatternRole) : Node → Except Fault Node
  | .name span text => .ok (.binding span text [])
  | .array span elements => do
    return .other .arrayPattern span (← elementsAsPatterns role.part elements)
  | .object span entries => do
    return .other .objectPattern span (← entriesAsPatterns role.part entries)
  | .other kind span parts =>
    if kind == .invalid then .ok (.other kind span parts)
    else if role == .assigned then .ok (.other kind span parts)
    else if role == .assignedPart && staysExpression (.other kind span parts) then
      .ok (.other kind span parts)
    else if kind == .assign then .ok (.other .defaultPattern span parts)
    else .ok (invalidAt span)
  | node =>
    if role == .assigned || (role == .assignedPart && staysExpression node) then .ok node
    else .ok (invalidAt node.span)

/-- Reads the elements of an array again. Only the last may take all remaining ones. -/
def elementsAsPatterns (role : PatternRole) : List Node → Except Fault (List Node)
  | [] => .ok []
  | .other .spread span [inner] :: rest => do
    let more ← elementsAsPatterns role rest
    if rest.isEmpty then
      return [.other .restPattern span [← asPattern role inner]]
    else return more
  | node :: rest => do
    let first ← if node.isKind .hole then pure node else asPattern role node
    return first :: (← elementsAsPatterns role rest)

/-- Reads the entries of an object again. -/
def entriesAsPatterns (role : PatternRole) : List Node → Except Fault (List Node)
  | [] => .ok []
  | .shorthand span key :: rest => do
    return .other .patternEntry span [key] :: (← entriesAsPatterns role rest)
  | .entry span key value :: rest => do
    let value ← asPattern role value
    return .other .patternEntry span [key, value] :: (← entriesAsPatterns role rest)
  | .other .defaulted span parts :: rest => do
    return .other .patternEntry span parts :: (← entriesAsPatterns role rest)
  | .other .spread span [inner] :: rest => do
    let inner ←
      if role == .bound then pure (if inner.isName then bindingOf inner else invalidAt span)
      else asPattern role inner
    return .other .restPattern span [inner] :: (← entriesAsPatterns role rest)
  | _ :: _ => .error .notPattern

end

/-- May a pattern stand left of `=`? -/
def isAssignable : Node → Bool
  | .name _ _ | .binding _ _ _ | .cast _ _ _ => true
  | .other kind _ _ =>
    [.member, .superMember, .optional, .paren, .satisfies, .nonNull, .assertion, .instantiation,
      .invalid, .arrayPattern, .objectPattern].contains kind
  | _ => false

end ComponentCatalog.Script
