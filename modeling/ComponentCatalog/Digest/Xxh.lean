/-!
# Digests of byte strings

The hash XXH3 with seed zero, in 64 and in 128 bits. Short inputs are mixed with the secret in one
step; inputs of more than 240 bytes run through eight accumulators, a stripe of 64 bytes at a time.
-/

namespace ComponentCatalog.Digest

/-- The secret that inputs are mixed with. -/
def secret : ByteArray :=
  ⟨#[
    0xb8, 0xfe, 0x6c, 0x39, 0x23, 0xa4, 0x4b, 0xbe, 0x7c, 0x01, 0x81, 0x2c,
    0xf7, 0x21, 0xad, 0x1c, 0xde, 0xd4, 0x6d, 0xe9, 0x83, 0x90, 0x97, 0xdb,
    0x72, 0x40, 0xa4, 0xa4, 0xb7, 0xb3, 0x67, 0x1f, 0xcb, 0x79, 0xe6, 0x4e,
    0xcc, 0xc0, 0xe5, 0x78, 0x82, 0x5a, 0xd0, 0x7d, 0xcc, 0xff, 0x72, 0x21,
    0xb8, 0x08, 0x46, 0x74, 0xf7, 0x43, 0x24, 0x8e, 0xe0, 0x35, 0x90, 0xe6,
    0x81, 0x3a, 0x26, 0x4c, 0x3c, 0x28, 0x52, 0xbb, 0x91, 0xc3, 0x00, 0xcb,
    0x88, 0xd0, 0x65, 0x8b, 0x1b, 0x53, 0x2e, 0xa3, 0x71, 0x64, 0x48, 0x97,
    0xa2, 0x0d, 0xf9, 0x4e, 0x38, 0x19, 0xef, 0x46, 0xa9, 0xde, 0xac, 0xd8,
    0xa8, 0xfa, 0x76, 0x3f, 0xe3, 0x9c, 0x34, 0x3f, 0xf9, 0xdc, 0xbb, 0xc7,
    0xc7, 0x0b, 0x4f, 0x1d, 0x8a, 0x51, 0xe0, 0x4b, 0xcd, 0xb4, 0x59, 0x31,
    0xc8, 0x9f, 0x7e, 0xc9, 0xd9, 0x78, 0x73, 0x64, 0xea, 0xc5, 0xac, 0x83,
    0x34, 0xd3, 0xeb, 0xc3, 0xc5, 0x81, 0xa0, 0xff, 0xfa, 0x13, 0x63, 0xeb,
    0x17, 0x0d, 0xdd, 0x51, 0xb7, 0xf0, 0xda, 0x49, 0xd3, 0x16, 0x55, 0x26,
    0x29, 0xd4, 0x68, 0x9e, 0x2b, 0x16, 0xbe, 0x58, 0x7d, 0x47, 0xa1, 0xfc,
    0x8f, 0xf8, 0xb8, 0xd1, 0x7a, 0xd0, 0x31, 0xce, 0x45, 0xcb, 0x3a, 0x8f,
    0x95, 0x16, 0x04, 0x28, 0xaf, 0xd7, 0xfb, 0xca, 0xbb, 0x4b, 0x40, 0x7e]⟩

/-! ## Multipliers -/

def prime32A : UInt64 := 0x9E3779B1

def prime32B : UInt64 := 0x85EBCA77

def prime32C : UInt64 := 0xC2B2AE3D

def prime64A : UInt64 := 0x9E3779B185EBCA87

def prime64B : UInt64 := 0xC2B2AE3D27D4EB4F

def prime64C : UInt64 := 0x165667B19E3779F9

def prime64D : UInt64 := 0x85EBCA77C2B2AE63

def prime64E : UInt64 := 0x27D4EB2F165667C5

/-- The factor of the last step for most inputs. -/
def primeMixA : UInt64 := 0x165667919E3779F9

/-- The factor for inputs of four to eight bytes. -/
def primeMixB : UInt64 := 0x9FB21C651E98DF25

/-! ## Words -/

/-- A byte of an input, zero past its end. -/
def byteAt (bytes : ByteArray) (index : Nat) : UInt64 :=
  if h : index < bytes.size then bytes[index].toUInt64 else 0

/-- Four bytes of an input, the lowest first. -/
def read32 (bytes : ByteArray) (index : Nat) : UInt64 :=
  byteAt bytes index ||| (byteAt bytes (index + 1) <<< 8) ||| (byteAt bytes (index + 2) <<< 16) |||
    (byteAt bytes (index + 3) <<< 24)

/-- Eight bytes of an input, the lowest first. -/
def read64 (bytes : ByteArray) (index : Nat) : UInt64 :=
  read32 bytes index ||| (read32 bytes (index + 4) <<< 32)

/-- A word with its upper bits mixed into its lower ones. -/
def fold (word : UInt64) (shift : UInt64) : UInt64 := word ^^^ (word >>> shift)

/-- A word turned to the left. -/
def turn (word : UInt64) (shift : UInt64) : UInt64 := (word <<< shift) ||| (word >>> (64 - shift))

def low32 (word : UInt64) : UInt64 := word &&& 0xFFFFFFFF

/-- The lower four bytes in the opposite order. -/
def swap32 (word : UInt64) : UInt64 :=
  let byte (shift : UInt64) : UInt64 := (word >>> shift) &&& 255
  (byte 0 <<< 24) ||| (byte 8 <<< 16) ||| (byte 16 <<< 8) ||| byte 24

def swap64 (word : UInt64) : UInt64 := (swap32 (low32 word) <<< 32) ||| swap32 (word >>> 32)

/-- The lower and the upper word of a product. -/
def product (a b : UInt64) : UInt64 × UInt64 :=
  let whole := a.toNat * b.toNat
  (UInt64.ofNat whole, UInt64.ofNat (whole / Nat.pow 2 64))

/-- The two words of a product mixed into one. -/
def foldedProduct (a b : UInt64) : UInt64 :=
  let (low, high) := product a b
  low ^^^ high

/-- The last step for the shortest inputs. -/
def spreadShort (word : UInt64) : UInt64 :=
  let word := fold word 33 * prime64B
  fold (fold word 29 * prime64C) 32

/-- The last step for most inputs. -/
def spread (word : UInt64) : UInt64 := fold (fold word 37 * primeMixA) 32

/-- Sixteen bytes mixed with the secret. -/
def mix16 (bytes : ByteArray) (index key : Nat) : UInt64 :=
  foldedProduct (read64 bytes index ^^^ read64 secret key)
    (read64 bytes (index + 8) ^^^ read64 secret (key + 8))

/-! ## Long inputs -/

/-- The accumulators before the first stripe. -/
def startAccumulators : Array UInt64 :=
  #[prime32C, prime64A, prime64B, prime64C, prime64D, prime32B, prime64E, prime32A]

/-- Takes a stripe of 64 bytes into the accumulators. -/
def takeStripe (bytes : ByteArray) (index key : Nat) (words : Array UInt64) : Array UInt64 :=
  let lane (i : Nat) : UInt64 :=
    let keyed := read64 bytes (index + 8 * i) ^^^ read64 secret (key + 8 * i)
    words.getD i 0 + read64 bytes (index + 8 * (i ^^^ 1)) + low32 keyed * (keyed >>> 32)
  #[lane 0, lane 1, lane 2, lane 3, lane 4, lane 5, lane 6, lane 7]

/-- Mixes the accumulators at the end of a block. -/
def stir (words : Array UInt64) : Array UInt64 :=
  let lane (i : Nat) : UInt64 :=
    (fold (words.getD i 0) 47 ^^^ read64 secret (128 + 8 * i)) * prime32A
  #[lane 0, lane 1, lane 2, lane 3, lane 4, lane 5, lane 6, lane 7]

/-- Takes some stripes of a block. -/
def takeStripes (bytes : ByteArray) (start count : Nat) (words : Array UInt64) : Array UInt64 :=
  (List.range count).foldl (fun words i => takeStripe bytes (start + 64 * i) (8 * i) words) words

/-- The accumulators behind a long input. -/
def accumulate (bytes : ByteArray) : Array UInt64 :=
  let size := bytes.size
  let blocks := (size - 1) / 1024
  let words := (List.range blocks).foldl
    (fun words i => stir (takeStripes bytes (1024 * i) 16 words)) startAccumulators
  let left := (size - 1 - 1024 * blocks) / 64
  let words := takeStripes bytes (1024 * blocks) left words
  takeStripe bytes (size - 64) 121 words

/-- The accumulators mixed into one word. -/
def merge (words : Array UInt64) (key : Nat) (start : UInt64) : UInt64 :=
  let pair (i : Nat) : UInt64 :=
    foldedProduct (words.getD (2 * i) 0 ^^^ read64 secret (key + 16 * i))
      (words.getD (2 * i + 1) 0 ^^^ read64 secret (key + 16 * i + 8))
  spread (start + pair 0 + pair 1 + pair 2 + pair 3)

/-! ## Digests of 64 bits -/

/-- The three bytes and the length of an input of at most three bytes. -/
def tinyWord (bytes : ByteArray) : UInt64 :=
  let size := bytes.size
  (byteAt bytes 0 <<< 16) ||| (byteAt bytes (size / 2) <<< 24) ||| byteAt bytes (size - 1) |||
    (UInt64.ofNat size <<< 8)

/-- The digest of 17 to 240 bytes before its last step. -/
def middleSum (bytes : ByteArray) : UInt64 :=
  let size := bytes.size
  let start := UInt64.ofNat size * prime64A
  if size ≤ 128 then
    let rounds := (size - 1) / 32 + 1
    (List.range rounds).foldl (fun sum i =>
      sum + mix16 bytes (16 * i) (32 * i) + mix16 bytes (size - 16 * (i + 1)) (32 * i + 16)) start
  else
    let first := (List.range 8).foldl (fun sum i => sum + mix16 bytes (16 * i) (16 * i)) start
    let rest := (List.range (size / 16 - 8)).foldl
      (fun sum i => sum + mix16 bytes (16 * (i + 8)) (16 * i + 3)) (spread first)
    rest + mix16 bytes (size - 16) 119

def digest64 (bytes : ByteArray) : UInt64 :=
  let size := bytes.size
  let length := UInt64.ofNat size
  if size == 0 then spreadShort (read64 secret 56 ^^^ read64 secret 64)
  else if size ≤ 3 then spreadShort (tinyWord bytes ^^^ (read32 secret 0 ^^^ read32 secret 4))
  else if size ≤ 8 then
    let word := read32 bytes (size - 4) + (read32 bytes 0 <<< 32)
    let word := word ^^^ (read64 secret 8 ^^^ read64 secret 16)
    let word := (word ^^^ turn word 49 ^^^ turn word 24) * primeMixB
    fold ((word ^^^ ((word >>> 35) + length)) * primeMixB) 28
  else if size ≤ 16 then
    let low := read64 bytes 0 ^^^ (read64 secret 24 ^^^ read64 secret 32)
    let high := read64 bytes (size - 8) ^^^ (read64 secret 40 ^^^ read64 secret 48)
    spread (length + swap64 low + high + foldedProduct low high)
  else if size ≤ 240 then spread (middleSum bytes)
  else merge (accumulate bytes) 11 (length * prime64A)

/-! ## Digests of 128 bits -/

/-- The lower and the upper word of a digest of 128 bits. -/
abbrev Wide := UInt64 × UInt64

/-- Two times sixteen bytes mixed into the two words of a digest. -/
def mix32 (bytes : ByteArray) (first second key : Nat) (sum : Wide) : Wide :=
  ((sum.1 + mix16 bytes first key) ^^^ (read64 bytes second + read64 bytes (second + 8)),
    (sum.2 + mix16 bytes second (key + 16)) ^^^ (read64 bytes first + read64 bytes (first + 8)))

/-- The digest of 17 to 240 bytes before its last step. -/
def middleWide (bytes : ByteArray) : Wide :=
  let size := bytes.size
  let start : Wide := (UInt64.ofNat size * prime64A, 0)
  if size ≤ 128 then
    let rounds := (size - 1) / 32 + 1
    (List.range rounds).foldr
      (fun i sum => mix32 bytes (16 * i) (size - 16 * (i + 1)) (32 * i) sum) start
  else
    let (low, high) := (List.range 4).foldl
      (fun sum i => mix32 bytes (32 * i) (32 * i + 16) (32 * i) sum) start
    let rest := (List.range (size / 32 - 4)).foldl
      (fun sum i => mix32 bytes (32 * (i + 4)) (32 * (i + 4) + 16) (32 * i + 3) sum)
      (spread low, spread high)
    mix32 bytes (size - 16) (size - 32) 103 rest

/-- The digest of 128 bits as two words. -/
def wideDigest (bytes : ByteArray) : Wide :=
  let size := bytes.size
  let length := UInt64.ofNat size
  if size == 0 then
    (spreadShort (read64 secret 64 ^^^ read64 secret 72),
      spreadShort (read64 secret 80 ^^^ read64 secret 88))
  else if size ≤ 3 then
    let word := tinyWord bytes
    let swapped := swap32 word
    let turned := low32 ((swapped <<< 13) ||| (swapped >>> 19))
    (spreadShort (word ^^^ (read32 secret 0 ^^^ read32 secret 4)),
      spreadShort (turned ^^^ (read32 secret 8 ^^^ read32 secret 12)))
  else if size ≤ 8 then
    let word := read32 bytes 0 + (read32 bytes (size - 4) <<< 32)
    let word := word ^^^ (read64 secret 16 ^^^ read64 secret 24)
    let (low, high) := product word (prime64A + (length <<< 2))
    let high := high + (low <<< 1)
    let low := low ^^^ (high >>> 3)
    (fold (fold low 35 * primeMixB) 28, spread high)
  else if size ≤ 16 then
    let first := read64 bytes 0
    let last := read64 bytes (size - 8)
    let (low, high) :=
      product (first ^^^ last ^^^ (read64 secret 32 ^^^ read64 secret 40)) prime64A
    let low := low + ((length - 1) <<< 54)
    let last := last ^^^ (read64 secret 48 ^^^ read64 secret 56)
    let high := high + last + low32 last * (prime32B - 1)
    let low := low ^^^ swap64 high
    let (lowest, upper) := product low prime64B
    (spread lowest, spread (upper + high * prime64B))
  else if size ≤ 240 then
    let (low, high) := middleWide bytes
    (spread (low + high),
      0 - spread (low * prime64A + high * prime64D + length * prime64B))
  else
    let words := accumulate bytes
    (merge words 11 (length * prime64A), merge words 117 (~~~(length * prime64B)))

def digest128 (bytes : ByteArray) : Nat :=
  let (low, high) := wideDigest bytes
  high.toNat * Nat.pow 2 64 + low.toNat

/-! ## Text of digests -/

/-- A number in base sixteen, with zeros in front up to a width. -/
def hexText (width n : Nat) : String :=
  let digits := Nat.toDigits 16 n
  String.ofList (List.replicate (width - digits.length) '0' ++ digits)

end ComponentCatalog.Digest
