import Stencil.Zip.Copy
import Stencil.Zip.Digest
import Stencil.Zip.Zstandard.Literals
import Stencil.Zip.Zstandard.Sequences

/-! # Zstandard frames

A stream is a sequence of frames, and a frame a sequence of blocks. The bytes of a block
stand there as they are, as one byte and a count, or packed: as literals and sequences. A
frame may tell the size of its content and have a digest of it. Frames of other kinds are
skipped.

There is at least one frame, and nothing stands behind the last one.
-/

namespace Stencil

namespace Zip

namespace Zstandard

/-- The number at the head of a frame. -/
def frameSignature : Nat := 0xFD2FB528

/-- The number at the head of a frame that is skipped, less its last four bits. -/
def skippedSignature : Nat := 0x184D2A5

/-- The greatest distance that a frame may need its content kept for. -/
def greatestWindow : Nat := 2 ^ 27 + 1

/-- What blocks of a frame leave to the blocks behind them. -/
structure Trace where
  code : Option ByteCode
  tables : Tables
  /-- The last three distances. -/
  recent : Nat × Nat × Nat

/-- Before the first block of a frame. -/
def Trace.start : Trace :=
  { code := none, tables := { literals := none, distances := none, lengths := none }
    recent := (1, 4, 8) }

/-- The distance of a sequence, and the last three distances behind it. Up to three, the
    number of a distance tells which of the last ones it is. When no literals come before the
    copy, it is the one behind that, or the last one less one. -/
def Sequence.resolve (sequence : Sequence) (recent : Nat × Nat × Nat) : Nat × Nat × Nat × Nat :=
  let (first, second, third) := recent
  if 3 < sequence.distance then (sequence.distance - 3, sequence.distance - 3, first, second)
  else
    match if sequence.literals = 0 then sequence.distance + 1 else sequence.distance with
    | 1 => (first, first, second, third)
    | 2 => (second, second, first, third)
    | 3 => (third, third, first, second)
    | _ => (first - 1, first - 1, first, second)

/-- Append the literals and the copies of sequences, and at the end the literals that are
    left. Copies reach back to `start`. -/
def execute (literals : ByteArray) (start limit : Nat) : (sequences : List Sequence) →
    (used : Nat) → (recent : Nat × Nat × Nat) → (output : ByteArray) →
    Except Ending (ByteArray × (Nat × Nat × Nat))
  | [], used, recent, output => .ok (output ++ literals.extract used literals.size, recent)
  | sequence :: sequences, used, recent, output =>
    let stop := used + sequence.literals
    let output := output ++ literals.extract used stop
    let (distance, recent) := sequence.resolve recent
    if literals.size < stop ∨ distance = 0 ∨ output.size < start + distance then
      .error .corrupt
    else if start + limit < output.size + sequence.length then .error .corrupt
    else
      execute literals start limit sequences stop recent
        (copyBack output distance sequence.length)

/-- Append the bytes of a packed block. Copies reach back to `start`. -/
def unpackBlock (block : ByteArray) (start greatest : Nat) (trace : Trace) (output : ByteArray) :
    Except Ending (ByteArray × Trace) := do
  let literals ← readLiterals block trace.code
  let (sequences, tables) ← readSequences block literals.stop trace.tables
  let limit := output.size - start + greatest
  let (output, recent) ←
    execute literals.bytes start limit sequences.toList 0 trace.recent output
  if start + limit < output.size then throw .corrupt
  return (output, { code := literals.code, tables, recent })

/-- Append the bytes of the blocks from a place on, up to the last one. The place behind
    it. -/
def readBlocks (stream : ByteArray) (start greatest limit fuel place : Nat) (trace : Trace)
    (output : ByteArray) : Except Ending (ByteArray × Nat) :=
  match fuel with
  | 0 => .error .truncated
  | fuel + 1 =>
    match field? stream place 3 with
    | none => .error .truncated
    | some header => do
      if limit < output.size then throw .limited
      let (kind, size) := (header / 2 % 4, header / 8)
      let packedSize := if kind = 1 then 1 else size
      let place := place + 3
      let stop := place + packedSize
      if kind = 3 ∨ greatest < size then throw .corrupt
      if stream.size < stop then throw .truncated
      let block := stream.extract place stop
      let (output, trace) ← match kind with
        | 0 => pure (output ++ block, trace)
        | 1 =>
          pure (output ++ (List.replicate size ((block[0]?).getD 0)).toByteArray, trace)
        | _ => unpackBlock block start greatest trace output
      if header % 2 = 1 then return (output, stop)
      readBlocks stream start greatest limit fuel stop trace output

structure FrameHeader where
  /-- The size of the content, if it is told. -/
  size : Option Nat
  /-- The greatest distance that the content is kept for. -/
  window : Nat
  /-- Whether a digest follows. -/
  digest : Bool
  deriving Repr, DecidableEq

def windowOfByte (byte : Nat) : Nat :=
  let base := 2 ^ (10 + byte / 8)
  base + base / 8 * (byte % 8)

/-- Read the header of a frame behind its signature, and the place behind it. A frame that
    needs a dictionary, or too large a window, is refused. -/
def readFrameHeader (stream : ByteArray) (place : Nat) : Except Ending (FrameHeader × Nat) := do
  let take (place width : Nat) : Except Ending Nat :=
    match field? stream place width with
    | some value => .ok value
    | none => .error .truncated
  let flags ← take place 1
  if flags / 8 % 2 = 1 then throw .corrupt
  let single := flags / 32 % 2 = 1
  let place := place + 1
  let window ← if single then pure 0 else take place 1
  let place := if single then place else place + 1
  let dictionaryWidth := [0, 1, 2, 4].getD (flags % 4) 0
  let dictionary ← take place dictionaryWidth
  let place := place + dictionaryWidth
  let sizeWidth := [if single then 1 else 0, 2, 4, 8].getD (flags / 64) 0
  let size ← take place sizeWidth
  let size := if sizeWidth = 2 then size + 256 else size
  let window := if single then size else windowOfByte window
  if dictionary ≠ 0 ∨ greatestWindow < window then throw .corrupt
  return ({ size := if sizeWidth = 0 then none else some size, window
            digest := flags / 4 % 2 = 1 }, place + sizeWidth)

/-- Read a frame behind its signature and append its content. The place behind it. -/
def readFrame (limit : Nat) (stream : ByteArray) (place : Nat) (output : ByteArray) :
    Except Ending (ByteArray × Nat) := do
  let (header, place) ← readFrameHeader stream place
  let start := output.size
  let greatest := min greatestBlock header.window
  let (output, place) ←
    readBlocks stream start greatest limit (stream.size + 1) place Trace.start output
  if !header.size.all fun size => size = output.size - start then throw .corrupt
  if header.digest then
    match field? stream place 4 with
    | none => throw .truncated
    | some stated =>
      let digest := LaneDigest.ofBytes (output.extract start output.size)
      if stated ≠ digest.toNat % 2 ^ 32 then throw .corrupt
      return (output, place + 4)
  else return (output, place)

def readFrames (limit : Nat) (stream : ByteArray) (fuel place : Nat) (output : ByteArray) :
    Except Ending ByteArray :=
  match fuel with
  | 0 => .error .truncated
  | fuel + 1 => do
    let (output, place) ←
      match field? stream place 4, field? stream (place + 4) 4 with
      | some signature, size =>
        if signature = frameSignature then readFrame limit stream (place + 4) output
        else if signature / 16 = skippedSignature then
          match size with
          | none => throw .truncated
          | some size => pure (output, place + 8 + size)
        else throw .corrupt
      | none, _ => throw .truncated
    if stream.size < place then throw .truncated
    else if stream.size = place then return output
    else readFrames limit stream fuel place output

/-- What a stream holds, if there is not more of it than `limit`. -/
def unpack (limit : Nat) (stream : ByteArray) : Except Ending ByteArray :=
  readFrames limit stream stream.size 0 ByteArray.empty

end Zstandard

end Zip

end Stencil
