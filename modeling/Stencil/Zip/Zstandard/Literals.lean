import Stencil.Zip.Field
import Stencil.Zip.Zstandard.Fse

/-! # Literals

The bytes of a block that no copy gives stand together at its beginning: as they are, as one
byte and a count, or as words of a code. The code is told by the weight of each byte but the
last one, whose weight fills the space of words up. It may also be that of an earlier block.

The words are written backwards, in one stream or in four.
-/

namespace Stencil

namespace Zip

namespace Zstandard

def greatestBlock : Nat := 128 * 1024

/-- A code of bytes: for each way that so many bits can go on, the byte and the width of its
    word. -/
structure ByteCode where
  width : Nat
  words : Array (UInt8 × Nat)
  deriving Repr, DecidableEq

namespace ByteCode

def greatestWidth : Nat := 12

/-- The space that a weight takes up. -/
def space (weight : Nat) : Nat :=
  if weight = 0 then 0 else 2 ^ (weight - 1)

/-- The code of the given weights, from the byte zero on. What space they leave is the weight
    of one byte more, and must be the space of a weight. At least two words have the greatest
    width, and their number is even. -/
def ofWeights (weights : List Nat) : Except Ending ByteCode :=
  let filled := (weights.map space).foldr (· + ·) 0
  let width := filled.log2 + 1
  let left := 2 ^ width - filled
  let weights := weights ++ [left.log2 + 1]
  let rarest := weights.count 1
  if filled = 0 ∨ greatestWidth < width ∨ 2 ^ left.log2 ≠ left ∨ 256 < weights.length ∨
      rarest < 2 ∨ rarest % 2 = 1 then .error .corrupt
  else
    let numbered := weights.zipIdx
    let words := (List.range width).flatMap fun n =>
      (numbered.filter fun (weight, _) => weight = n + 1).flatMap fun (_, byte) =>
        List.replicate (2 ^ n) (UInt8.ofNat byte, width - n)
    .ok { width, words := words.toArray }

/-- Two bytes hold four weights of four bits, the high ones first. -/
def weightsOfBytes (bytes : List UInt8) : List Nat :=
  bytes.flatMap fun byte => [byte.toNat / 16, byte.toNat % 16]

/-- The weights that two states tell in turn, from the bits before a place backwards. The
    stream ends where a state would need more bits than are left; the other state then tells
    the last weight. -/
def readWeightsFrom (table : Table) (bytes : ByteArray) (fuel place state other : Nat)
    (read : List Nat) : Except Ending (List Nat) :=
  match fuel with
  | 0 => .error .corrupt
  | fuel + 1 =>
    let { symbol, width, base } := table.cell state
    if place < width then .ok ((table.cell other).symbol :: symbol :: read).reverse
    else
      readWeightsFrom table bytes fuel (place - width) other
        (base + backBits bytes place width) (symbol :: read)

/-- The weights that are packed by a finite state code. -/
def readPackedWeights (bytes : ByteArray) : Except Ending (List Nat) := do
  let (table, start) ← Table.read bytes 0 255 6
  let bytes := bytes.extract start bytes.size
  match markedBits? bytes with
  | none => throw .corrupt
  | some place =>
    if place < 2 * table.log then throw .corrupt
    let state := backBits bytes place table.log
    let other := backBits bytes (place - table.log) table.log
    readWeightsFrom table bytes 256 (place - 2 * table.log) state other []

def read (bytes : ByteArray) (place : Nat) : Except Ending (ByteCode × Nat) := do
  match field? bytes place 1 with
  | none => throw .truncated
  | some size =>
    let count := size - 127
    let stop := place + 1 + if size < 128 then size else (count + 1) / 2
    if bytes.size < stop then throw .truncated
    let packed := bytes.extract (place + 1) stop
    let weights ← if size < 128 then readPackedWeights packed
      else pure ((weightsOfBytes packed.toList).take count)
    return (← ofWeights weights, stop)

/-- Read `count` bytes from the bits before a place backwards. All bits must be used up. -/
def readBytes (code : ByteCode) (bytes : ByteArray) :
    (count place : Nat) → (output : ByteArray) → Except Ending ByteArray
  | 0, place, output => if place = 0 then .ok output else .error .corrupt
  | count + 1, place, output =>
    let ahead :=
      if code.width ≤ place then backBits bytes place code.width
      else backBits bytes place place * 2 ^ (code.width - place)
    match code.words[ahead]? with
    | none => .error .corrupt
    | some (byte, width) =>
      if place < width then .error .corrupt
      else readBytes code bytes count (place - width) (output.push byte)

def readStream (code : ByteCode) (stream : ByteArray) (count : Nat) (output : ByteArray) :
    Except Ending ByteArray :=
  match markedBits? stream with
  | some place => code.readBytes stream count place output
  | none => .error .corrupt

/-- Read four streams, behind the sizes of the first three of them. Each but the last one
    holds a quarter of the bytes. -/
def readFourStreams (code : ByteCode) (bytes : ByteArray) (count : Nat) :
    Except Ending ByteArray := do
  match field? bytes 0 2, field? bytes 2 2, field? bytes 4 2 with
  | some first, some second, some third =>
    let quarter := (count + 3) / 4
    let ends := [6, 6 + first, 6 + first + second, 6 + first + second + third]
    if bytes.size ≤ 6 + first + second + third ∨ count < 3 * quarter ∨ count < 6 then
      throw .corrupt
    let stops := ends.drop 1 ++ [bytes.size]
    let counts := [quarter, quarter, quarter, count - 3 * quarter]
    ((ends.zip stops).zip counts).foldlM
      (fun output ((start, stop), count) =>
        code.readStream (bytes.extract start stop) count output) ByteArray.empty
  | _, _, _ => throw .truncated

end ByteCode

/-- The literals of a block, the code that later blocks may use again, and the place behind
    them. -/
structure Literals where
  bytes : ByteArray
  code : Option ByteCode
  stop : Nat

/-- The sizes in the header of packed literals: how many bytes there are, how many bytes pack
    them, whether in four streams, and the size of the header. -/
def packedSizes (header form : Nat) : Nat × Nat × Bool × Nat :=
  let width := if form < 2 then 10 else if form = 2 then 14 else 18
  (header / 16 % 2 ^ width, header / 2 ^ (4 + width) % 2 ^ width, form ≠ 0, (4 + 2 * width + 7) / 8)

def readLiterals (block : ByteArray) (earlier : Option ByteCode) : Except Ending Literals := do
  match field? block 0 1 with
  | none => throw .truncated
  | some first =>
    let (kind, form) := (first % 4, first / 4 % 4)
    if kind < 2 then
      let (size, start) := match form with
        | 1 => ((field? block 0 2).getD 0 / 16, 2)
        | 3 => ((field? block 0 3).getD 0 / 16, 3)
        | _ => (first / 8, 1)
      let stop := if kind = 0 then start + size else start + 1
      if block.size < stop ∨ greatestBlock < size then throw .corrupt
      let bytes := if kind = 0 then block.extract start stop
        else (List.replicate size ((block[start]?).getD 0)).toByteArray
      return { bytes, code := earlier, stop }
    let header := decode (block.extract 0 5).toList
    let (size, packedSize, four, start) := packedSizes header form
    let stop := start + packedSize
    if block.size < stop ∨ greatestBlock < size then throw .corrupt
    let (code, begun) ← match kind, earlier with
      | 2, _ => ByteCode.read (block.extract 0 stop) start
      | _, some code => pure (code, start)
      | _, none => throw .corrupt
    let packed := block.extract begun stop
    let bytes ← if four then code.readFourStreams packed size
      else code.readStream packed size ByteArray.empty
    return { bytes, code := some code, stop }

end Zstandard

end Zip

end Stencil
