import Stencil.Zip.Checksum
import Stencil.Zip.Digest
import Stencil.Zip.Lzma

/-! # Xz streams

An xz stream is a sequence of blocks between a header and an index. A block tells the filters
that its content went through: the last of them packs it into chunks of predicted bits, and
the others change bytes into the differences from earlier ones. A check of the content
follows each block, the index repeats the sizes of all blocks, and the end of the stream
repeats its header.

Everything that is told twice must agree, and nothing may stand behind the stream.
-/

namespace Stencil

namespace Zip

namespace Xz

/-- What is found, or the end of the bytes. -/
def need {α : Type} : Option α → Except Ending α
  | some found => .ok found
  | none => .error .truncated

def expect (condition : Bool) : Except Ending Unit :=
  if condition then .ok () else .error .corrupt

/-- The size up to the next multiple of four. -/
def aligned (size : Nat) : Nat :=
  (size + 3) / 4 * 4

/-- Whether there are only zeros from a place to another. -/
def zerosBetween (bytes : ByteArray) (start stop : Nat) : Bool :=
  (bytes.extract start stop).toList.all fun byte => byte = 0

/-- A number in groups of seven bits, the lowest first; the high bit of a byte tells that
    another one follows. No number ends with an empty group. -/
def readNumberFrom (bytes : ByteArray) (place weight : Nat) :
    (groups : Nat) → Except Ending (Nat × Nat)
  | 0 => .error .corrupt
  | groups + 1 => do
    let byte ← need bytes[place]?
    let byte := byte.toNat
    if byte < 128 then
      if byte = 0 ∧ weight ≠ 1 then throw .corrupt
      return (byte * weight, place + 1)
    let (rest, place) ← readNumberFrom bytes (place + 1) (128 * weight) groups
    return ((byte - 128) * weight + rest, place)

/-- A number of at most 63 bits, and the place behind it. -/
def readNumber (bytes : ByteArray) (place : Nat) : Except Ending (Nat × Nat) :=
  readNumberFrom bytes place 1 9

/-- How the content of blocks is checked. -/
structure Check where
  kind : Nat
  deriving Repr, DecidableEq

namespace Check

def size (check : Check) : Nat :=
  if check.kind = 0 then 0 else 4 * 2 ^ ((check.kind - 1) / 3)

/-- Whether the check of a content is as given. A check of an unknown kind is not made. -/
def accepts (check : Check) (content stated : ByteArray) : Bool :=
  match check.kind with
  | 1 => decode stated.toList = (checksum content).toNat
  | 4 => decode stated.toList = (wideChecksum content).toNat
  | 10 => stated.toList = Digest.ofBytes content
  | _ => true

end Check

/-- A filter before the last one: bytes are differences from those a distance before. -/
structure Difference where
  distance : Nat
  deriving Repr, DecidableEq

def Difference.undo (difference : Difference) (bytes : ByteArray) : ByteArray :=
  bytes.foldl (fun output byte =>
    let before := if h : difference.distance ≤ output.size ∧ 0 < difference.distance then
        output[output.size - difference.distance]
      else 0
    output.push (byte + before)) ByteArray.empty

structure BlockHeader where
  packedSize : Option Nat
  size : Option Nat
  differences : List Difference
  /-- How far copies reach back. -/
  reach : Nat
  deriving Repr, DecidableEq

/-- How far copies reach back, as one byte tells. -/
def reachOfByte? (byte : Nat) : Option Nat :=
  if 40 < byte then none
  else some (max 4096 ((2 + byte % 2) * 2 ^ (byte / 2 + 11)))

/-- The number of the filter that tells differences. -/
def differenceFilter : Nat := 0x03

def packingFilter : Nat := 0x21

def readFilters (bytes : ByteArray) (place : Nat) (differences : List Difference) :
    (count : Nat) → Except Ending (List Difference × Nat × Nat)
  | 0 => .error .corrupt
  | count + 1 => do
    let (filter, place) ← readNumber bytes place
    let (size, place) ← readNumber bytes place
    let byte ← need bytes[place]?
    if size ≠ 1 then throw .corrupt
    if filter = packingFilter ∧ count = 0 then
      match reachOfByte? byte.toNat with
      | some reach => return (differences.reverse, reach, place + 1)
      | none => throw .corrupt
    else if filter = differenceFilter ∧ count ≠ 0 then
      readFilters bytes (place + 1) ({ distance := byte.toNat + 1 } :: differences) count
    else throw .corrupt

/-- A size that a header may tell, and the place behind it. -/
def readToldSize (bytes : ByteArray) (place : Nat) (told : Bool) :
    Except Ending (Option Nat × Nat) := do
  if told then
    let (size, place) ← readNumber bytes place
    return (some size, place)
  else return (none, place)

/-- The header of a block, without its checksum. -/
def readHeader (bytes : ByteArray) : Except Ending BlockHeader := do
  let flags ← need (field? bytes 1 1)
  expect (flags / 4 % 16 = 0)
  let (packedSize, place) ← readToldSize bytes 2 (flags / 64 % 2 = 1)
  expect (packedSize ≠ some 0)
  let (size, place) ← readToldSize bytes place (flags / 128 % 2 = 1)
  let (differences, reach, place) ← readFilters bytes place [] (flags % 4 + 1)
  expect (zerosBetween bytes place bytes.size)
  return { packedSize, size, differences, reach }

/-- The bytes from a place on, `size` of them, that are followed by their checksum. -/
def checkedBytes (stream : ByteArray) (place size : Nat) : Except Ending ByteArray := do
  let bytes ← need (slice? stream place size)
  let stated ← need (field? stream (place + size) 4)
  expect (stated = (checksum bytes).toNat)
  return bytes

/-- What the index tells of a block: its size without padding, and that of its content. -/
structure BlockSizes where
  packed : Nat
  content : Nat
  deriving Repr, DecidableEq

/-- Read a block whose header of `headerSize` bytes begins at a place, and append its content.
    Its sizes, and the place behind it. -/
def readBlock (check : Check) (limit headerSize : Nat) (stream : ByteArray) (place : Nat)
    (output : ByteArray) : Except Ending (ByteArray × BlockSizes × Nat) := do
  let header ← readHeader (← checkedBytes stream place (headerSize - 4))
  let start := place + headerSize
  let (content, stop) ← Lzma.readChunks (limit - output.size) header.reach stream start
    ByteArray.empty
  let padded := start + aligned (stop - start)
  let stated ← need (slice? stream padded check.size)
  expect (zerosBetween stream stop padded)
  expect (header.packedSize.all fun size => size = stop - start)
  expect (header.size.all fun size => size = content.size)
  let content := header.differences.foldr Difference.undo content
  expect (check.accepts content stated)
  let sizes : BlockSizes :=
    { packed := headerSize + (stop - start) + check.size, content := content.size }
  return (output ++ content, sizes, padded + check.size)

/-- Fails unless the records from a place on tell the sizes of all blocks. The place behind
    them. -/
def readRecords (stream : ByteArray) : (blocks : List BlockSizes) → (place : Nat) →
    Except Ending Nat
  | [], place => .ok place
  | block :: blocks, place => do
    let (packed, place) ← readNumber stream place
    let (content, place) ← readNumber stream place
    expect (block = { packed, content })
    readRecords stream blocks place

/-- Fails unless the index at a place tells the sizes of all blocks. The place behind it. -/
def readIndex (stream : ByteArray) (blocks : List BlockSizes) (place : Nat) :
    Except Ending Nat := do
  let (count, next) ← readNumber stream (place + 1)
  expect (count = blocks.length)
  let stop ← readRecords stream blocks next
  let size := aligned (stop - place)
  expect (zerosBetween stream stop (place + size))
  let _ ← checkedBytes stream place size
  return place + size + 4

/-- Fails unless the end of the stream stands at a place, behind an index of the given size,
    and nothing behind it. -/
def readEnd (stream : ByteArray) (check : Check) (indexSize place : Nat) :
    Except Ending Unit := do
  let stated ← need (field? stream place 4)
  let bytes ← need (slice? stream (place + 4) 8)
  expect (stated = (checksum (bytes.extract 0 6)).toNat)
  expect (bytes.toList =
    encode 4 (indexSize / 4 - 1) ++ [0, UInt8.ofNat check.kind] ++ [0x59, 0x5A])
  expect (stream.size = place + 12)

/-- Read blocks and what follows them. `blocks` holds the sizes of the blocks before, the
    last one first. -/
def readBlocks (check : Check) (limit : Nat) (stream : ByteArray) (fuel place : Nat)
    (blocks : List BlockSizes) (output : ByteArray) : Except Ending ByteArray :=
  match fuel with
  | 0 => .error .truncated
  | fuel + 1 => do
    let size ← need (field? stream place 1)
    if size = 0 then
      let stop ← readIndex stream blocks.reverse place
      readEnd stream check (stop - place) stop
      return output
    let (output, sizes, place) ← readBlock check limit (4 * (size + 1)) stream place output
    readBlocks check limit stream fuel place (sizes :: blocks) output

/-- What a stream holds, if there is not more of it than `limit`. -/
def unpack (limit : Nat) (stream : ByteArray) : Except Ending ByteArray := do
  let header ← need (slice? stream 0 12)
  expect ((header.extract 0 7).toList = [0xFD, 0x37, 0x7A, 0x58, 0x5A, 0x00, 0x00])
  let kind ← need (field? header 7 1)
  expect (kind < 16)
  let _ ← (checkedBytes stream 6 2)
  readBlocks { kind } limit stream stream.size 12 [] ByteArray.empty

end Xz

end Zip

end Stencil
