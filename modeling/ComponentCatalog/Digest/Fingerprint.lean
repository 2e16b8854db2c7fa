import ComponentCatalog.Digest.Xxh
import ComponentCatalog.Json.Decode
import ComponentCatalog.Path

/-!
# Fingerprints

A fingerprint tells whether a component's path and source are what they were. It is written with
32 digits of base sixteen; it is read from any number of them, with a plus sign in front or not.
-/

namespace ComponentCatalog

/-- The digest of a component's path and source. -/
structure Fingerprint where
  value : Nat
  deriving Repr, DecidableEq, Inhabited

namespace Fingerprint

def bound : Nat := Nat.pow 2 128

/-- The fingerprint of a source at a path. -/
def compute (path : Path) (source : String) : Fingerprint :=
  ⟨Digest.digest128 ((path.text.toUTF8.push 0) ++ source.toUTF8)⟩

def text (fingerprint : Fingerprint) : String := Digest.hexText 32 fingerprint.value

/-- Why a text is no fingerprint. -/
inductive Fault where
  | noDigits
  | badDigit
  | tooGreat
  deriving Repr, DecidableEq

def Fault.message : Fault → String
  | noDigits => "cannot parse integer from empty string"
  | badDigit => "invalid digit found in string"
  | tooGreat => "number too large to fit in target type"

/-- Takes digits into a number. -/
def readDigits : Nat → List Char → Except Fault Nat
  | value, [] => .ok value
  | value, c :: rest =>
    match Doc.hexValue? c with
    | none => .error .badDigit
    | some digit =>
      let next := value * 16 + digit
      if bound ≤ next then .error .tooGreat else readDigits next rest

def ofText (text : String) : Except Fault Fingerprint :=
  match text.toList with
  | [] => .error .noDigits
  | ['+'] | ['-'] => .error .badDigit
  | '+' :: digits => Fingerprint.mk <$> readDigits 0 digits
  | digits => Fingerprint.mk <$> readDigits 0 digits

def toJson (fingerprint : Fingerprint) : Json := .string fingerprint.text

def decoder : Decoder Fingerprint := fun doc => do
  match ofText (← doc.asString) with
  | .ok fingerprint => return fingerprint
  | .error fault => throw (.refused fault.message)

end Fingerprint

end ComponentCatalog
