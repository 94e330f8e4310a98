import Stencil.Zip.Field

/-! # Bits of packed streams

A packed stream is a sequence of bits. Some streams take the lowest bit of a byte first,
others the highest one. A place in a stream counts its bits from the beginning.
-/

namespace Stencil

namespace Zip

/-- How reading a packed stream ended. -/
inductive Ending where
  /-- With the end that the stream itself tells of. -/
  | complete
  /-- At the end of the bytes, before the end of the stream. -/
  | truncated
  /-- At bits that mean nothing. -/
  | corrupt
  /-- At the limit of the output. -/
  | limited
  deriving Repr, DecidableEq

def bitCount (stream : ByteArray) : Nat :=
  8 * stream.size

/-- The bit at a place of a stream that takes the lowest bits first. -/
def lowBit? (stream : ByteArray) (place : Nat) : Option Nat :=
  if h : place / 8 < stream.size then some ((stream[place / 8].toNat >>> (place % 8)) % 2) else none

/-- The number that `width` bits spell, the lowest bit first. -/
def lowBits? (stream : ByteArray) (place : Nat) : (width : Nat) → Option Nat
  | 0 => some 0
  | width + 1 => do
    let low ← lowBit? stream place
    let high ← lowBits? stream (place + 1) width
    return low + 2 * high

/-- The bit at a place of a stream that takes the highest bits first. -/
def highBit? (stream : ByteArray) (place : Nat) : Option Nat :=
  if h : place / 8 < stream.size then some ((stream[place / 8].toNat >>> (7 - place % 8)) % 2)
  else none

/-- The number that `value` begins and `width` more bits go on to spell, the highest bit
    first. -/
def highBitsFrom? (stream : ByteArray) (place value : Nat) : (width : Nat) → Option Nat
  | 0 => some value
  | width + 1 => do
    let bit ← highBit? stream place
    highBitsFrom? stream (place + 1) (2 * value + bit) width

/-- The number that `width` bits spell, the highest bit first. -/
def highBits? (stream : ByteArray) (place width : Nat) : Option Nat :=
  highBitsFrom? stream place 0 width

/-- Reading a stream: the state is the place that is reached. -/
abbrev Reading := StateT Nat (Except Ending)

namespace Reading

/-- What stands at the place that is reached, and takes `width` bits. -/
def take {α : Type} (width : Nat) (found? : Nat → Option α) : Reading α := fun place =>
  match found? place with
  | some found => .ok (found, place + width)
  | none => .error .truncated

/-- The next bits as a number, the highest bit first. -/
def highBits (stream : ByteArray) (width : Nat) : Reading Nat :=
  take width fun place => highBits? stream place width

end Reading

end Zip

end Stencil
