/-!
# Bytes that may be no text

Bytes are read as UTF-8. Where they are none, each longest run that could have begun a character gives
way to one replacement character.
-/

namespace ComponentCatalog.Text.Utf8

/-- A character that has begun: its value so far and the ranges of the bytes that are to come. -/
structure Begun where
  value : Nat
  ranges : List (Nat × Nat)

/-- The range of most bytes behind the first one of a character. -/
def inner : Nat × Nat := (0x80, 0xBF)

/-- What stands in the place of bytes that are no text. -/
def replacement : Char := Char.ofNat 0xFFFD

/-- What the first byte of a character stands for: a whole character, or one that has begun. -/
def begin (byte : Nat) : Char ⊕ Begun :=
  if byte < 0x80 then .inl (Char.ofNat byte)
  else if byte < 0xC2 then .inl replacement
  else if byte < 0xE0 then .inr ⟨byte - 0xC0, [inner]⟩
  else if byte == 0xE0 then .inr ⟨0, [(0xA0, 0xBF), inner]⟩
  else if byte == 0xED then .inr ⟨0xD, [(0x80, 0x9F), inner]⟩
  else if byte < 0xF0 then .inr ⟨byte - 0xE0, [inner, inner]⟩
  else if byte == 0xF0 then .inr ⟨0, [(0x90, 0xBF), inner, inner]⟩
  else if byte < 0xF4 then .inr ⟨byte - 0xF0, [inner, inner, inner]⟩
  else if byte == 0xF4 then .inr ⟨4, [(0x80, 0x8F), inner, inner]⟩
  else .inl replacement

/-- Reads bytes behind the beginning of a character, if one has begun. -/
def readFrom : Option Begun → List UInt8 → List Char
  | none, [] => []
  | some _, [] => [replacement]
  | begun?, byte :: rest =>
    let fresh := match begin byte.toNat with
      | .inl c => c :: readFrom none rest
      | .inr begun => readFrom (some begun) rest
    match begun? with
    | some ⟨value, (low, high) :: ranges⟩ =>
      if low ≤ byte.toNat && byte.toNat ≤ high then
        let next := value * 64 + (byte.toNat - 0x80)
        if ranges.isEmpty then Char.ofNat next :: readFrom none rest
        else readFrom (some ⟨next, ranges⟩) rest
      else replacement :: fresh
    | _ => fresh

/-- The text of bytes, with replacements where they are none. -/
def lossy (bytes : ByteArray) : String :=
  match String.fromUTF8? bytes with
  | some text => text
  | none => String.ofList (readFrom none bytes.toList)

end ComponentCatalog.Text.Utf8
