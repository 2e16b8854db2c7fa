import ComponentCatalog.Pattern.CharSet

/-!
# Regular expressions

The tree of a pattern. Alternatives and repetitions are ordered by preference: the earlier branch is
tried first, and a repetition says whether it prefers to go on.
-/

namespace ComponentCatalog.Pattern

/-- What can be asked of a place between two characters. -/
inductive Look where
  | textStart
  | textEnd
  | lineStart
  | lineEnd
  /-- The start of a line, where a carriage return ends lines too. -/
  | anyLineStart
  /-- The end of a line, where a carriage return ends lines too. -/
  | anyLineEnd
  | wordEdge (ascii : Bool)
  | noWordEdge (ascii : Bool)
  | wordStart (ascii : Bool)
  | wordEnd (ascii : Bool)
  /-- No word character comes before. -/
  | wordStartHalf (ascii : Bool)
  /-- No word character follows. -/
  | wordEndHalf (ascii : Bool)
  deriving Repr, DecidableEq

/-- A regular expression. -/
inductive Expr where
  | empty
  | char (set : CharSet)
  | look (look : Look)
  | group (index : Nat) (body : Expr)
  | seq (first second : Expr)
  | either (first second : Expr)
  | repeated (least : Nat) (most? : Option Nat) (greedy : Bool) (body : Expr)
  deriving Repr

namespace Expr

/-- Can an expression match the empty text? -/
def nullable : Expr → Bool
  | empty | look _ => true
  | char _ => false
  | group _ body => body.nullable
  | seq first second => first.nullable && second.nullable
  | either first second => first.nullable || second.nullable
  | repeated least _ _ body => least == 0 || body.nullable

/-- One expression behind the other. -/
def inSequence : List Expr → Expr
  | [] => .empty
  | [only] => only
  | first :: rest => .seq first (inSequence rest)

/-- The first expression that matches. -/
def firstOf : List Expr → Expr
  | [] => .empty
  | [only] => only
  | first :: rest => .either first (firstOf rest)

/-- The room that an automaton for an expression takes, in bytes. A character takes a state for each
byte of its encoding, a larger set about one transition for each of its ranges and bytes. -/
def weight : Expr → Nat
  | empty => 32
  | look _ => 32
  | char (.range first last) => if first = last then 32 * first.utf8Size else 32 + 26
  | char set => 32 + (if set.isAscii then 8 else 26) * set.ranges
  | group _ body => body.weight + 64
  | seq first second => first.weight + second.weight
  | either first second => first.weight + second.weight + 48
  | repeated least most? _ body =>
    match most? with
    | none => max least 1 * body.weight + 48
    | some most => least * body.weight + (most - least) * (body.weight + 48)

end Expr

end ComponentCatalog.Pattern
