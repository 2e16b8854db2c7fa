/-!
# Character classes as strides

A class of code points is listed as strides: a first code point, a last one and the step between
neighbours. Alternating upper and lower case letters then take one entry instead of many.
-/

namespace ComponentCatalog.Unicode

/-- The code points `first, first + step, …` up to `last`. -/
abbrev Stride := Nat × Nat × Nat

def Stride.holds (stride : Stride) (code : Nat) : Bool :=
  stride.1 ≤ code && code ≤ stride.2.1 && (code - stride.1) % stride.2.2 == 0

def within (strides : List Stride) (code : Nat) : Bool :=
  strides.any (·.holds code)

/-- Two lists of strides together hold what either holds. -/
theorem within_append (left right : List Stride) (code : Nat) :
    within (left ++ right) code = (within left code || within right code) := by
  simp [within]

end ComponentCatalog.Unicode
