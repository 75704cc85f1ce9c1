/-! The 128-bit hash XXH3 without a seed. -/
namespace Transparency.Hash

/-- A 128-bit hash value. -/
structure Digest where
  high : UInt64
  low : UInt64
  deriving DecidableEq, Repr

namespace Xxh3

/-- The bytes that are mixed into the input. -/
def key : ByteArray := ⟨
  #[0xb8, 0xfe, 0x6c, 0x39, 0x23, 0xa4, 0x4b, 0xbe, 0x7c, 0x01, 0x81, 0x2c, 0xf7, 0x21, 0xad, 0x1c,
    0xde, 0xd4, 0x6d, 0xe9, 0x83, 0x90, 0x97, 0xdb, 0x72, 0x40, 0xa4, 0xa4, 0xb7, 0xb3, 0x67, 0x1f,
    0xcb, 0x79, 0xe6, 0x4e, 0xcc, 0xc0, 0xe5, 0x78, 0x82, 0x5a, 0xd0, 0x7d, 0xcc, 0xff, 0x72, 0x21,
    0xb8, 0x08, 0x46, 0x74, 0xf7, 0x43, 0x24, 0x8e, 0xe0, 0x35, 0x90, 0xe6, 0x81, 0x3a, 0x26, 0x4c,
    0x3c, 0x28, 0x52, 0xbb, 0x91, 0xc3, 0x00, 0xcb, 0x88, 0xd0, 0x65, 0x8b, 0x1b, 0x53, 0x2e, 0xa3,
    0x71, 0x64, 0x48, 0x97, 0xa2, 0x0d, 0xf9, 0x4e, 0x38, 0x19, 0xef, 0x46, 0xa9, 0xde, 0xac, 0xd8,
    0xa8, 0xfa, 0x76, 0x3f, 0xe3, 0x9c, 0x34, 0x3f, 0xf9, 0xdc, 0xbb, 0xc7, 0xc7, 0x0b, 0x4f, 0x1d,
    0x8a, 0x51, 0xe0, 0x4b, 0xcd, 0xb4, 0x59, 0x31, 0xc8, 0x9f, 0x7e, 0xc9, 0xd9, 0x78, 0x73, 0x64,
    0xea, 0xc5, 0xac, 0x83, 0x34, 0xd3, 0xeb, 0xc3, 0xc5, 0x81, 0xa0, 0xff, 0xfa, 0x13, 0x63, 0xeb,
    0x17, 0x0d, 0xdd, 0x51, 0xb7, 0xf0, 0xda, 0x49, 0xd3, 0x16, 0x55, 0x26, 0x29, 0xd4, 0x68, 0x9e,
    0x2b, 0x16, 0xbe, 0x58, 0x7d, 0x47, 0xa1, 0xfc, 0x8f, 0xf8, 0xb8, 0xd1, 0x7a, 0xd0, 0x31, 0xce,
    0x45, 0xcb, 0x3a, 0x8f, 0x95, 0x16, 0x04, 0x28, 0xaf, 0xd7, 0xfb, 0xca, 0xbb, 0x4b, 0x40, 0x7e]⟩

/-- The byte at a position, zero beyond the end. -/
def byte (bytes : ByteArray) (i : Nat) : UInt64 :=
  if h : i < bytes.size then bytes[i].toUInt64 else 0

/-- The little-endian word of four bytes at a position. -/
def word32 (bytes : ByteArray) (i : Nat) : UInt64 :=
  byte bytes i ||| byte bytes (i + 1) <<< 8 ||| byte bytes (i + 2) <<< 16 |||
    byte bytes (i + 3) <<< 24

/-- The little-endian word of eight bytes at a position. -/
def word64 (bytes : ByteArray) (i : Nat) : UInt64 :=
  word32 bytes i ||| word32 bytes (i + 4) <<< 32

/-- The first multiplier of 32 bits. -/
def short1 : UInt64 := 0x9E3779B1

/-- The second multiplier of 32 bits. -/
def short2 : UInt64 := 0x85EBCA77

/-- The third multiplier of 32 bits. -/
def short3 : UInt64 := 0xC2B2AE3D

/-- The first multiplier of 64 bits. -/
def long1 : UInt64 := 0x9E3779B185EBCA87

/-- The second multiplier of 64 bits. -/
def long2 : UInt64 := 0xC2B2AE3D27D4EB4F

/-- The third multiplier of 64 bits. -/
def long3 : UInt64 := 0x165667B19E3779F9

/-- The fourth multiplier of 64 bits. -/
def long4 : UInt64 := 0x85EBCA77C2B2AE63

/-- The fifth multiplier of 64 bits. -/
def long5 : UInt64 := 0x27D4EB2F165667C5

/-- Mixes the upper bits of a word into the lower ones. -/
def shiftMix (x : UInt64) (amount : UInt64) : UInt64 := x ^^^ (x >>> amount)

/-- The final mixing of a word of an input longer than three bytes. -/
def avalanche (x : UInt64) : UInt64 := shiftMix (shiftMix x 37 * 0x165667919E3779F9) 32

/-- The final mixing of a word of an input of at most three bytes. -/
def avalancheShort (x : UInt64) : UInt64 :=
  shiftMix (shiftMix (shiftMix x 33 * long2) 29 * long3) 32

/-- The lower 32 bits of a word. -/
def lower (x : UInt64) : UInt64 := x &&& 0xFFFFFFFF

/-- The full product of two words. -/
def product (x y : UInt64) : Digest :=
  let full := x.toNat * y.toNat
  ⟨(full >>> 64).toUInt64, full.toUInt64⟩

/-- The two halves of the full product, mixed together. -/
def foldedProduct (x y : UInt64) : UInt64 :=
  let full := product x y
  full.low ^^^ full.high

/-- The lower four bytes of a word in the opposite order. -/
def swapBytes32 (x : UInt64) : UInt64 :=
  let byteAt (start : UInt64) : UInt64 := (x >>> start) &&& 0xFF
  byteAt 0 <<< 24 ||| byteAt 8 <<< 16 ||| byteAt 16 <<< 8 ||| byteAt 24

/-- The eight bytes of a word in the opposite order. -/
def swapBytes (x : UInt64) : UInt64 := swapBytes32 (lower x) <<< 32 ||| swapBytes32 (x >>> 32)

/-- Rotates the lower 32 bits to the left. -/
def rotate32 (x : UInt64) (amount : UInt64) : UInt64 :=
  lower (x <<< amount) ||| (lower x >>> (32 - amount))

/-- The hash of the empty input. -/
def ofEmpty : Digest where
  high := avalancheShort (word64 key 80 ^^^ word64 key 88)
  low := avalancheShort (word64 key 64 ^^^ word64 key 72)

/-- The hash of one to three bytes. -/
def ofUpTo3 (input : ByteArray) : Digest :=
  let length := input.size
  let low := byte input 0 <<< 16 ||| byte input (length / 2) <<< 24 ||| byte input (length - 1) |||
    length.toUInt64 <<< 8
  let high := rotate32 (swapBytes32 low) 13
  { high := avalancheShort (high ^^^ word32 key 8 ^^^ word32 key 12)
    low := avalancheShort (low ^^^ word32 key 0 ^^^ word32 key 4) }

/-- The hash of four to eight bytes. -/
def ofUpTo8 (input : ByteArray) : Digest :=
  let length := input.size
  let word := word32 input 0 + word32 input (length - 4) <<< 32
  let keyed := word ^^^ word64 key 16 ^^^ word64 key 24
  let mixed := product keyed (long1 + length.toUInt64 <<< 2)
  let high := mixed.high + mixed.low <<< 1
  let low := mixed.low ^^^ high >>> 3
  { high := avalanche high
    low := shiftMix (shiftMix low 35 * 0x9FB21C651E98DF25) 28 }

/-- The hash of nine to sixteen bytes. -/
def ofUpTo16 (input : ByteArray) : Digest :=
  let length := input.size
  let first := word64 input 0
  let last := word64 input (length - 8)
  let mixed := product (first ^^^ last ^^^ word64 key 32 ^^^ word64 key 40) long1
  let low := mixed.low + (length.toUInt64 - 1) <<< 54
  let last := last ^^^ word64 key 48 ^^^ word64 key 56
  let high := mixed.high + last + lower last * (short2 - 1)
  let low := low ^^^ swapBytes high
  let result := product low long2
  ⟨avalanche (result.high + high * long2), avalanche result.low⟩

/-- Mixes the sixteen bytes at a position with the key. -/
def mix16 (input : ByteArray) (i j : Nat) : UInt64 :=
  foldedProduct (word64 input i ^^^ word64 key j) (word64 input (i + 8) ^^^ word64 key (j + 8))

/-- Mixes the sixteen bytes at each of two positions into both halves. -/
def mix32 (state : Digest) (input : ByteArray) (first second j : Nat) : Digest :=
  { high := (state.high + mix16 input second (j + 16)) ^^^
      (word64 input first + word64 input (first + 8))
    low := (state.low + mix16 input first j) ^^^
      (word64 input second + word64 input (second + 8)) }

/-- The last step for inputs of middle length. -/
def finishMiddle (state : Digest) (length : Nat) : Digest :=
  { high := 0 - avalanche
      (state.low * long1 + state.high * long4 + length.toUInt64 * long2)
    low := avalanche (state.low + state.high) }

/-- The hash of 17 to 128 bytes: pairs of blocks from both ends, the inner ones first. -/
def ofUpTo128 (input : ByteArray) : Digest :=
  let length := input.size
  let rounds := (length - 1) / 32
  let state := (List.range (rounds + 1)).reverse.foldl
    (fun state i => mix32 state input (16 * i) (length - 16 * (i + 1)) (32 * i))
    ⟨0, length.toUInt64 * long1⟩
  finishMiddle state length

/-- The hash of 129 to 240 bytes. -/
def ofUpTo240 (input : ByteArray) : Digest :=
  let length := input.size
  let first := (List.range 4).foldl
    (fun state i => mix32 state input (32 * i) (32 * i + 16) (32 * i))
    ⟨0, length.toUInt64 * long1⟩
  let middle := (List.range (length / 32 - 4)).foldl
    (fun state i => mix32 state input (32 * i + 128) (32 * i + 144) (32 * i + 3))
    ⟨avalanche first.high, avalanche first.low⟩
  finishMiddle (mix32 middle input (length - 16) (length - 32) 103) length

/-- The eight words that a long input is gathered into, in pairs. -/
structure Lanes where
  pair0 : UInt64 × UInt64
  pair1 : UInt64 × UInt64
  pair2 : UInt64 × UInt64
  pair3 : UInt64 × UInt64

/-- The words before any input. -/
def Lanes.initial : Lanes := ⟨(short3, long1), (long2, long3), (long4, short2), (long5, short1)⟩

/-- The product of the two halves of a word. -/
def halvesProduct (x : UInt64) : UInt64 := lower x * (x >>> 32)

/-- Gathers sixteen bytes into a pair: each word is added to its neighbour, and its product with the
key to itself. -/
def gatherPair (pair : UInt64 × UInt64) (input : ByteArray) (i j : Nat) : UInt64 × UInt64 :=
  let first := word64 input i
  let second := word64 input (i + 8)
  (pair.1 + second + halvesProduct (first ^^^ word64 key j),
    pair.2 + first + halvesProduct (second ^^^ word64 key (j + 8)))

/-- Gathers the 64 bytes at a position. -/
def Lanes.gather (lanes : Lanes) (input : ByteArray) (i j : Nat) : Lanes where
  pair0 := gatherPair lanes.pair0 input i j
  pair1 := gatherPair lanes.pair1 input (i + 16) (j + 16)
  pair2 := gatherPair lanes.pair2 input (i + 32) (j + 32)
  pair3 := gatherPair lanes.pair3 input (i + 48) (j + 48)

/-- Scrambles a pair with the key. -/
def scramblePair (pair : UInt64 × UInt64) (j : Nat) : UInt64 × UInt64 :=
  ((shiftMix pair.1 47 ^^^ word64 key j) * short1,
    (shiftMix pair.2 47 ^^^ word64 key (j + 8)) * short1)

/-- Scrambles the words after a block. -/
def Lanes.scramble (lanes : Lanes) : Lanes where
  pair0 := scramblePair lanes.pair0 128
  pair1 := scramblePair lanes.pair1 144
  pair2 := scramblePair lanes.pair2 160
  pair3 := scramblePair lanes.pair3 176

/-- Gathers the given number of stripes of 64 bytes. -/
def Lanes.gatherStripes (lanes : Lanes) (input : ByteArray) (start count : Nat) : Lanes :=
  (List.range count).foldl (fun lanes s => lanes.gather input (start + 64 * s) (8 * s)) lanes

/-- Merges the words into one. -/
def Lanes.merge (lanes : Lanes) (j : Nat) (start : UInt64) : UInt64 :=
  let folded (pair : UInt64 × UInt64) (j : Nat) : UInt64 :=
    foldedProduct (pair.1 ^^^ word64 key j) (pair.2 ^^^ word64 key (j + 8))
  avalanche (start + folded lanes.pair0 j + folded lanes.pair1 (j + 16) +
    folded lanes.pair2 (j + 32) + folded lanes.pair3 (j + 48))

/-- The hash of more than 240 bytes: blocks of sixteen stripes, the stripes that are left, and the
last 64 bytes once more. -/
def ofLong (input : ByteArray) : Digest :=
  let length := input.size
  let blocks := (length - 1) / 1024
  let lanes := (List.range blocks).foldl
    (fun lanes b => (lanes.gatherStripes input (1024 * b) 16).scramble) Lanes.initial
  let lanes := lanes.gatherStripes input (1024 * blocks) ((length - 1 - 1024 * blocks) / 64)
  let lanes := lanes.gather input (length - 64) 121
  { high := lanes.merge 117 (~~~(length.toUInt64 * long2))
    low := lanes.merge 11 (length.toUInt64 * long1) }

end Xxh3

open Xxh3 in
/-- The hash of an input; the method depends on its length. -/
def xxh3 (input : ByteArray) : Digest :=
  let length := input.size
  if length = 0 then ofEmpty
  else if length ≤ 3 then ofUpTo3 input
  else if length ≤ 8 then ofUpTo8 input
  else if length ≤ 16 then ofUpTo16 input
  else if length ≤ 128 then ofUpTo128 input
  else if length ≤ 240 then ofUpTo240 input
  else ofLong input

/-- The digits of a number in base 16, at least the given number of them. -/
def paddedHex (width n : Nat) : List Char :=
  let digits := Nat.toDigits 16 n
  List.replicate (width - digits.length) '0' ++ digits

/-- The hash in 32 hexadecimal digits, most significant first. -/
def Digest.hex (digest : Digest) : String :=
  String.ofList (paddedHex 16 digest.high.toNat ++ paddedHex 16 digest.low.toNat)

end Transparency.Hash
