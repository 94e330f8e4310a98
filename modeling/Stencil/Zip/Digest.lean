import Stencil.Zip.Field

/-! # Digests

Some ways of packing guard their content by a digest instead of a checksum: one of 256 bits
or one of 64 bits.

The digest of 256 bits works on words of 32 bits, the highest byte first. The content is
filled up to blocks of sixteen words, and each block is stirred into eight words in 64
rounds. The digest of 64 bits works on words of 64 bits, the lowest byte first, in four
lanes.
-/

namespace Stencil

namespace Zip

/-! ## 256 bits -/

def turnRight (word count : UInt32) : UInt32 :=
  word >>> count ||| word <<< (32 - count)

/-- The words of the digest while it is made. -/
structure Digest where
  a : UInt32
  b : UInt32
  c : UInt32
  d : UInt32
  e : UInt32
  f : UInt32
  g : UInt32
  h : UInt32
  deriving Repr, DecidableEq

namespace Digest

def start : Digest :=
  { a := 0x6A09E667, b := 0xBB67AE85, c := 0x3C6EF372, d := 0xA54FF53A
    e := 0x510E527F, f := 0x9B05688C, g := 0x1F83D9AB, h := 0x5BE0CD19 }

/-- The constants of the rounds: the fractional bits of the cube roots of the first primes. -/
def constants : List UInt32 :=
  [0x428A2F98, 0x71374491, 0xB5C0FBCF, 0xE9B5DBA5, 0x3956C25B, 0x59F111F1, 0x923F82A4, 0xAB1C5ED5,
   0xD807AA98, 0x12835B01, 0x243185BE, 0x550C7DC3, 0x72BE5D74, 0x80DEB1FE, 0x9BDC06A7, 0xC19BF174,
   0xE49B69C1, 0xEFBE4786, 0x0FC19DC6, 0x240CA1CC, 0x2DE92C6F, 0x4A7484AA, 0x5CB0A9DC, 0x76F988DA,
   0x983E5152, 0xA831C66D, 0xB00327C8, 0xBF597FC7, 0xC6E00BF3, 0xD5A79147, 0x06CA6351, 0x14292967,
   0x27B70A85, 0x2E1B2138, 0x4D2C6DFC, 0x53380D13, 0x650A7354, 0x766A0ABB, 0x81C2C92E, 0x92722C85,
   0xA2BFE8A1, 0xA81A664B, 0xC24B8B70, 0xC76C51A3, 0xD192E819, 0xD6990624, 0xF40E3585, 0x106AA070,
   0x19A4C116, 0x1E376C08, 0x2748774C, 0x34B0BCB5, 0x391C0CB3, 0x4ED8AA4A, 0x5B9CCA4F, 0x682E6FF3,
   0x748F82EE, 0x78A5636F, 0x84C87814, 0x8CC70208, 0x90BEFFFA, 0xA4506CEB, 0xBEF9A3F7, 0xC67178F2]

def round (digest : Digest) (constant word : UInt32) : Digest :=
  let { a, b, c, d, e, f, g, h } := digest
  let high := turnRight e 6 ^^^ turnRight e 11 ^^^ turnRight e 25
  let choice := (e &&& f) ^^^ ((e ^^^ 0xFFFFFFFF) &&& g)
  let first := h + high + choice + constant + word
  let low := turnRight a 2 ^^^ turnRight a 13 ^^^ turnRight a 22
  let majority := (a &&& b) ^^^ (a &&& c) ^^^ (b &&& c)
  { a := first + low + majority, b := a, c := b, d := c, e := d + first, f := e, g := f, h := g }

/-- The next word of the schedule behind the given ones. -/
def nextWord (words : Array UInt32) : UInt32 :=
  let back (distance : Nat) : UInt32 := (words[words.size - distance]?).getD 0
  let late := turnRight (back 2) 17 ^^^ turnRight (back 2) 19 ^^^ (back 2 >>> 10)
  let early := turnRight (back 15) 7 ^^^ turnRight (back 15) 18 ^^^ (back 15 >>> 3)
  late + back 7 + early + back 16

/-- The words of all rounds of a block. -/
def schedule (block : List UInt8) : Array UInt32 :=
  let words := (List.range 16).map fun index =>
    UInt32.ofNat (decode ((block.drop (4 * index)).take 4).reverse)
  (List.range 48).foldl (fun words _ => words.push (nextWord words)) words.toArray

/-- Stir a block into the words. -/
def stir (digest : Digest) (block : List UInt8) : Digest :=
  let stirred := (constants.zip (schedule block).toList).foldl
    (fun digest (constant, word) => digest.round constant word) digest
  { a := digest.a + stirred.a, b := digest.b + stirred.b, c := digest.c + stirred.c
    d := digest.d + stirred.d, e := digest.e + stirred.e, f := digest.f + stirred.f
    g := digest.g + stirred.g, h := digest.h + stirred.h }

/-- The content filled up to whole blocks: a set bit, clear bits, and the number of its bits
    in eight bytes. -/
def padded (bytes : ByteArray) : ByteArray :=
  let zeros := (119 - bytes.size % 64) % 64
  bytes ++ (0x80 :: List.replicate zeros 0).toByteArray ++
    (encode 8 (8 * bytes.size)).reverse.toByteArray

def bytes (digest : Digest) : List UInt8 :=
  [digest.a, digest.b, digest.c, digest.d, digest.e, digest.f, digest.g, digest.h].flatMap
    fun word => (encode 4 word.toNat).reverse

def ofBytes (content : ByteArray) : List UInt8 :=
  let padded := padded content
  ((List.range (padded.size / 64)).foldl (fun digest block =>
    digest.stir (padded.extract (64 * block) (64 * block + 64)).toList) start).bytes

end Digest

/-! ## 64 bits -/

structure LaneDigest where
  a : UInt64
  b : UInt64
  c : UInt64
  d : UInt64
  deriving Repr, DecidableEq

namespace LaneDigest

def turnLeft (word count : UInt64) : UInt64 :=
  word <<< count ||| word >>> (64 - count)

def factor1 : UInt64 := 0x9E3779B185EBCA87
def factor2 : UInt64 := 0xC2B2AE3D27D4EB4F
def factor3 : UInt64 := 0x165667B19E3779F9
def factor4 : UInt64 := 0x85EBCA77C2B2AE63
def factor5 : UInt64 := 0x27D4EB2F165667C5

def start : LaneDigest :=
  { a := factor1 + factor2, b := factor2, c := 0, d := 0 - factor1 }

/-- A lane with one more word. -/
def round (lane word : UInt64) : UInt64 :=
  turnLeft (lane + word * factor2) 31 * factor1

def wordAt (bytes : ByteArray) (place width : Nat) : UInt64 :=
  UInt64.ofNat ((field? bytes place width).getD 0)

/-- The lanes with the four words at a place. -/
def stir (lanes : LaneDigest) (bytes : ByteArray) (place : Nat) : LaneDigest :=
  { a := round lanes.a (wordAt bytes place 8), b := round lanes.b (wordAt bytes (place + 8) 8)
    c := round lanes.c (wordAt bytes (place + 16) 8)
    d := round lanes.d (wordAt bytes (place + 24) 8) }

/-- A lane put into the sum of the lanes. -/
def merge (sum lane : UInt64) : UInt64 :=
  (sum ^^^ round 0 lane) * factor1 + factor4

def sum (lanes : LaneDigest) : UInt64 :=
  let sum := turnLeft lanes.a 1 + turnLeft lanes.b 7 + turnLeft lanes.c 12 + turnLeft lanes.d 18
  merge (merge (merge (merge sum lanes.a) lanes.b) lanes.c) lanes.d

/-- The sum with the bytes from a place on that fill no lanes: words of eight bytes, one of
    four, and single bytes. -/
def addRest (bytes : ByteArray) (fuel place : Nat) (sum : UInt64) : UInt64 :=
  match fuel with
  | 0 => sum
  | fuel + 1 =>
    if place + 8 ≤ bytes.size then
      let sum := sum ^^^ round 0 (wordAt bytes place 8)
      addRest bytes fuel (place + 8) (turnLeft sum 27 * factor1 + factor4)
    else if place + 4 ≤ bytes.size then
      let sum := sum ^^^ (wordAt bytes place 4 * factor1)
      addRest bytes fuel (place + 4) (turnLeft sum 23 * factor2 + factor3)
    else if place < bytes.size then
      let sum := sum ^^^ (wordAt bytes place 1 * factor5)
      addRest bytes fuel (place + 1) (turnLeft sum 11 * factor1)
    else sum

/-- The sum with its bits mixed. -/
def mix (sum : UInt64) : UInt64 :=
  let sum := (sum ^^^ (sum >>> 33)) * factor2
  let sum := (sum ^^^ (sum >>> 29)) * factor3
  sum ^^^ (sum >>> 32)

def ofBytes (bytes : ByteArray) : UInt64 :=
  let rounds := bytes.size / 32
  let lanes := (List.range rounds).foldl (fun lanes index => lanes.stir bytes (32 * index)) start
  let first := if rounds = 0 then factor5 else lanes.sum
  mix (addRest bytes 32 (32 * rounds) (first + UInt64.ofNat bytes.size))

end LaneDigest

end Zip

end Stencil
