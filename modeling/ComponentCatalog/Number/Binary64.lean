/-!
# Numbers of 64 bits

A finite number of 64 bits is a mantissa times a power of two. A ratio of natural numbers is rounded
to the nearest such number, a tie to the even mantissa; products and quotients are rounded ratios.
The shortest decimal text of a number is found by exact arithmetic on the interval of reals that
round to it.
-/

namespace ComponentCatalog

/-- The finite number `± mantissa · 2 ^ exponent`, with at most 53 bits of mantissa. -/
structure Binary64 where
  negative : Bool
  mantissa : Nat
  exponent : Int
  deriving Repr, DecidableEq, Inhabited

namespace Binary64

/-- The least exponent; mantissas below `2 ^ 52` stand only there. -/
def leastExponent : Int := -1074

/-- The greatest exponent of a finite number. -/
def greatestExponent : Int := 971

/-- The exact value as a ratio, its sign left out. -/
def ratio (x : Binary64) : Nat × Nat :=
  if 0 ≤ x.exponent then (x.mantissa * Nat.pow 2 x.exponent.toNat, 1)
  else (x.mantissa, Nat.pow 2 (-x.exponent).toNat)

def zero (negative : Bool) : Binary64 := ⟨negative, 0, leastExponent⟩

/-- A quotient rounded to the nearest whole number, a tie to the even one. -/
def roundDiv (num den : Nat) : Nat :=
  let quotient := num / den
  let twice := 2 * (num % den)
  if twice < den then quotient
  else if den < twice then quotient + 1
  else quotient + quotient % 2

/-- The nearest number to a ratio, or nothing when it lies beyond the greatest one. -/
def ofRatio (negative : Bool) (num den : Nat) : Option Binary64 :=
  if num == 0 then some (zero negative)
  else
    let guess : Int := (Nat.log2 num : Int) - (Nat.log2 den : Int) - 52
    let scaled (e : Int) : Nat × Nat :=
      if 0 ≤ e then (num, den * Nat.pow 2 e.toNat) else (num * Nat.pow 2 (-e).toNat, den)
    let first := scaled guess
    let exponent := max leastExponent (if first.1 / first.2 < Nat.pow 2 52 then guess - 1 else guess)
    let last := scaled exponent
    let mantissa := roundDiv last.1 last.2
    let (mantissa, exponent) :=
      if mantissa == Nat.pow 2 53 then (Nat.pow 2 52, exponent + 1) else (mantissa, exponent)
    if greatestExponent < exponent then none else some ⟨negative, mantissa, exponent⟩

def ofNat? (n : Nat) : Option Binary64 := ofRatio false n 1

/-- The rounded product of two magnitudes, with the sign of the first. -/
def mul? (x : Binary64) (y : Nat × Nat) : Option Binary64 :=
  ofRatio x.negative (x.ratio.1 * y.1) (x.ratio.2 * y.2)

/-- The rounded quotient of two magnitudes, with the sign of the first. -/
def div? (x : Binary64) (y : Nat × Nat) : Option Binary64 :=
  ofRatio x.negative (x.ratio.1 * y.2) (x.ratio.2 * y.1)

/-- The place of the first digit: `10 ^ place ≤ num / den < 10 ^ (place + 1)`. -/
def leadingPlace (num den : Nat) : Int :=
  ((Nat.toDigits 10 (num * Nat.pow 10 400 / den)).length : Int) - 401

/-- The digits of one length that lie in the interval, if there are any: the nearer of the two
neighbours of the value on that grid. -/
def digitsAt? (value low high : Nat) (den : Nat) (closed : Bool) (place : Int) : Option Nat :=
  let grid (n : Nat) : Nat × Nat :=
    if 0 ≤ place then (n * Nat.pow 10 place.toNat * den, 1) else (n * den, Nat.pow 10 (-place).toNat)
  let below := if 0 ≤ place then value / (den * Nat.pow 10 place.toNat)
    else value * Nat.pow 10 (-place).toNat / den
  let inside (n : Nat) : Bool :=
    let (top, bottom) := grid n
    if closed then low * bottom ≤ top && top ≤ high * bottom
    else low * bottom < top && top < high * bottom
  let distance (n : Nat) : Nat :=
    let (top, bottom) := grid n
    if top ≤ value * bottom then value * bottom - top else top - value * bottom
  match inside below, inside (below + 1) with
  | false, false => none
  | true, false => some below
  | false, true => some (below + 1)
  | true, true =>
    if distance below < distance (below + 1) then some below
    else if distance (below + 1) < distance below then some (below + 1)
    else some (below + below % 2)

/-- The first hit among grids of growing length. -/
def firstDigits (value low high den : Nat) (closed : Bool) (leading : Int) :
    Nat → Nat → Nat × Int
  | 0, length => (value / den, leading + 1 - length)
  | steps + 1, length =>
    match digitsAt? value low high den closed (leading + 1 - length) with
    | some digits => (digits, leading + 1 - length)
    | none => firstDigits value low high den closed leading steps (length + 1)

/-- The fewest decimal digits that read back as the number, with the place of the last one. -/
def shortest (x : Binary64) : Nat × Int :=
  if x.mantissa == 0 then (0, 0)
  else
    let scale := x.exponent - 2
    let factor := if 0 ≤ scale then Nat.pow 2 scale.toNat else 1
    let den := if 0 ≤ scale then 1 else Nat.pow 2 (-scale).toNat
    let below := if x.mantissa == Nat.pow 2 52 && leastExponent < x.exponent then 1 else 2
    let value := 4 * x.mantissa * factor
    firstDigits value ((4 * x.mantissa - below) * factor) ((4 * x.mantissa + 2) * factor) den
      (x.mantissa % 2 == 0) (leadingPlace value den) 17 1

/-- The digits of a number without the zeros at its end, and the place of the last one. -/
def trimZeros : Nat → Nat → Int → Nat × Int
  | 0, digits, place => (digits, place)
  | steps + 1, digits, place =>
    if digits != 0 && digits % 10 == 0 then trimZeros steps (digits / 10) (place + 1)
    else (digits, place)

/-- The shortest digits as characters, with the place of the last one. -/
def decimal (x : Binary64) : List Char × Int :=
  let (digits, place) := x.shortest
  let (digits, place) := trimZeros 20 digits place
  (Nat.toDigits 10 digits, place)

/-- Positional text: every zero written, a point only before a fraction. -/
def positional (x : Binary64) : String :=
  let sign := if x.negative then ['-'] else []
  let (digits, place) := x.decimal
  let body :=
    if x.mantissa == 0 then ['0']
    else if 0 ≤ place then digits ++ List.replicate place.toNat '0'
    else
      let fraction := (-place).toNat
      if digits.length ≤ fraction then
        '0' :: '.' :: (List.replicate (fraction - digits.length) '0' ++ digits)
      else
        digits.take (digits.length - fraction) ++ '.' :: digits.drop (digits.length - fraction)
  String.ofList (sign ++ body)

end Binary64

end ComponentCatalog
