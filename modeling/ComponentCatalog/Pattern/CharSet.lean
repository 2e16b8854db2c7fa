import ComponentCatalog.Unicode.Folding
import ComponentCatalog.Unicode.Word

/-!
# Sets of characters

The sets that a pattern can ask one character to belong to. They are kept as written: ranges and
tables under the operations of a bracketed class. Membership reads the operations as what they say.
-/

namespace ComponentCatalog.Pattern

open Unicode

/-- A set of characters. -/
inductive CharSet where
  | empty
  /-- All characters between two, the ends included. -/
  | range (first last : Char)
  /-- The characters listed in a table. -/
  | listed (strides : List Stride)
  | complement (set : CharSet)
  | union (left right : CharSet)
  | inter (left right : CharSet)
  | diff (left right : CharSet)
  | symmDiff (left right : CharSet)
  /-- The characters that differ from a member in case alone. -/
  | anyCase (set : CharSet)
  /-- The characters that differ from a member in case alone, where only Latin letters have one. -/
  | anyLatinCase (set : CharSet)
  deriving Repr, DecidableEq

/-- A Latin letter in the other case. -/
def otherLatinCase (code : Nat) : Nat :=
  if 65 ≤ code && code ≤ 90 then code + 32
  else if 97 ≤ code && code ≤ 122 then code - 32
  else code

namespace CharSet

def holds : CharSet → Nat → Bool
  | empty, _ => false
  | range first last, code => first.toNat ≤ code && code ≤ last.toNat
  | listed strides, code => within strides code
  | complement set, code => !set.holds code
  | union left right, code => left.holds code || right.holds code
  | inter left right, code => left.holds code && right.holds code
  | diff left right, code => left.holds code && !right.holds code
  | symmDiff left right, code => left.holds code != right.holds code
  | anyCase set, code => (caseVariants code).any set.holds
  | anyLatinCase set, code => set.holds code || set.holds (otherLatinCase code)

def single (c : Char) : CharSet := .range c c

def unions (sets : List CharSet) : CharSet := sets.foldl .union .empty

def asciiDigits : CharSet := .range '0' '9'

def asciiWord : CharSet := unions [.range 'a' 'z', .range 'A' 'Z', asciiDigits, single '_']

/-- The blank characters of typewritten text. -/
def asciiBlanks : CharSet := .union (.range '\t' '\r') (single ' ')

/-- The number of ranges that a set is written with. -/
def ranges : CharSet → Nat
  | empty => 0
  | range _ _ => 1
  | listed strides =>
    (strides.map fun (first, last, step) =>
      if step = 1 then 1 else (last - first) / step + 1).sum
  | complement set => set.ranges + 1
  | union left right | inter left right | diff left right | symmDiff left right =>
    left.ranges + right.ranges
  | anyCase set | anyLatinCase set => 2 * set.ranges

/-- Does a set hold characters of typewritten text alone? -/
def isAscii : CharSet → Bool
  | empty => true
  | range _ last => last.toNat < 128
  | listed strides => strides.all (·.2.1 < 128)
  | complement _ => false
  | union left right | symmDiff left right => left.isAscii && right.isAscii
  | inter left right => left.isAscii || right.isAscii
  | diff left _ => left.isAscii
  | anyCase set | anyLatinCase set => set.isAscii

/-- Joining sets to a first one holds what the first or one of them holds. -/
theorem holds_foldl_union (start : CharSet) (sets : List CharSet) (code : Nat) :
    (sets.foldl .union start).holds code = (start.holds code || sets.any (·.holds code)) := by
  induction sets generalizing start with
  | nil => simp
  | cons set rest ih => simp [ih, holds, Bool.or_assoc]

/-- The union of sets holds what one of them holds. -/
theorem holds_unions (sets : List CharSet) (code : Nat) :
    (unions sets).holds code = sets.any (·.holds code) := by
  simp [unions, holds_foldl_union, holds]

end CharSet

end ComponentCatalog.Pattern
