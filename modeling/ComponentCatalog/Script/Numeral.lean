import ComponentCatalog.Number.Binary64

/-!
# Numerals of a script

The value of a numeral as a report writes it: separators are dropped, the four radices and old
octal numerals are read, and the nearest number of 64 bits is written out in full.
-/

namespace ComponentCatalog.Script.Numeral

/-- The value of a digit in any radix up to sixteen. -/
def digitValue (c : Char) : Nat :=
  if c.isDigit then c.toNat - '0'.toNat
  else if 'a' ≤ c && c ≤ 'f' then c.toNat - 'a'.toNat + 10
  else if 'A' ≤ c && c ≤ 'F' then c.toNat - 'A'.toNat + 10
  else 99

def isDigitOf (radix : Nat) (c : Char) : Bool := digitValue c < radix

def valueOf (radix : Nat) (digits : List Char) : Nat :=
  digits.foldl (fun n c => n * radix + digitValue c) 0

/-- The number nearest to `digits · 10 ^ place`, written out; `inf` beyond the greatest. -/
def scaledText (digits : Nat) (place : Int) : String :=
  let number :=
    if 0 ≤ place then Binary64.ofRatio false (digits * Nat.pow 10 (min place.toNat 400)) 1
    else Binary64.ofRatio false digits (Nat.pow 10 (min (-place).toNat 800))
  match number with
  | some x => x.positional
  | none => "inf"

/-- The value of a decimal numeral: digits, a fraction and an exponent. -/
def decimalText (chars : List Char) : String :=
  let whole := chars.takeWhile Char.isDigit
  let rest := chars.dropWhile Char.isDigit
  let fraction := match rest with
    | '.' :: more => more.takeWhile Char.isDigit
    | _ => []
  let rest := match rest with
    | '.' :: more => more.dropWhile Char.isDigit
    | _ => rest
  let exponent : Int := match rest with
    | _ :: '-' :: more => -(valueOf 10 more : Int)
    | _ :: '+' :: more => valueOf 10 more
    | _ :: more => valueOf 10 more
    | [] => 0
  scaledText (valueOf 10 (whole ++ fraction)) (exponent - fraction.length)

/-- The value of a numeral, written out. -/
def valueText (raw : String) : String :=
  let chars := raw.toList.filter (· != '_')
  match chars with
  | '0' :: 'x' :: digits | '0' :: 'X' :: digits => scaledText (valueOf 16 digits) 0
  | '0' :: 'o' :: digits | '0' :: 'O' :: digits => scaledText (valueOf 8 digits) 0
  | '0' :: 'b' :: digits | '0' :: 'B' :: digits => scaledText (valueOf 2 digits) 0
  | '0' :: d :: digits =>
    if (d :: digits).all (isDigitOf 8) then scaledText (valueOf 8 (d :: digits)) 0
    else decimalText chars
  | _ => decimalText chars

/-- The value of a whole numeral of any length. -/
def bigText (raw : String) : String :=
  let chars := raw.toList.filter fun c => c != '_' && c != 'n'
  toString <| match chars with
    | '0' :: 'x' :: digits | '0' :: 'X' :: digits => valueOf 16 digits
    | '0' :: 'o' :: digits | '0' :: 'O' :: digits => valueOf 8 digits
    | '0' :: 'b' :: digits | '0' :: 'B' :: digits => valueOf 2 digits
    | _ => valueOf 10 chars

end ComponentCatalog.Script.Numeral
