import Stencil.Zip.Checksum
import Stencil.Zip.Code

/-! # Bzip2 streams

A bzip2 stream is a sequence of blocks of bits, the highest bit of a byte first. Four steps
lead from a block to its bytes. The symbols of a code, which changes from group to group,
tell places in a list of bytes, whose bytes move to the front when they are used, and runs
of its first byte. These bytes are the last column of the sorted rotations of a text. The
text is followed through the column from its first rotation on, and in the text four equal
bytes are followed by a count of more.

Each block has a checksum, and the stream has one of all the blocks. What stands behind the
stream is ignored.
-/

namespace Stencil

namespace Zip

namespace Bzip2

/-- The number at the head of a block. -/
def blockSignature : Nat := 0x314159265359

/-- The number at the head of the end of the stream. -/
def endSignature : Nat := 0x177245385090

def longestWord : Nat := 20

/-- The number of symbols that are read with one code. -/
def groupSize : Nat := 50

/-- The most groups of a block that has not been padded. -/
def greatestGroupCount : Nat := 18002

/-- The weight that no digit of a run reaches. -/
def greatestWeight : Nat := 2 * 1024 * 1024

/-- The element at an index of a list, and the list with that element at its front. -/
def moveToFront? {α : Type} (list : List α) (index : Nat) : Option (α × List α) :=
  (list[index]?).map fun element => (element, element :: list.eraseIdx index)

/-- The bytes that occur in a block: one bit tells whether any of sixteen bytes occurs, and
    sixteen more tell which. -/
def readAlphabet (stream : ByteArray) : Reading (List UInt8) := do
  let rows ← Reading.highBits stream 16
  let rows := (List.range 16).filter fun row => (rows >>> (15 - row)) % 2 = 1
  let found ← rows.mapM fun row => do
    let bytes ← Reading.highBits stream 16
    let bytes := (List.range 16).filter fun byte => (bytes >>> (15 - byte)) % 2 = 1
    return bytes.map fun byte => UInt8.ofNat (16 * row + byte)
  return found.flatten

/-- The number of set bits up to a clear one, less than `greatest`. -/
def readUnary (stream : ByteArray) : (greatest : Nat) → Reading Nat
  | 0 => throw .corrupt
  | greatest + 1 => do
    let bit ← Reading.highBits stream 1
    if bit = 0 then return 0
    let rest ← readUnary stream greatest
    return rest + 1

/-- The numbers of the codes of the groups, as places in a list of the codes that are moved
    to its front. -/
def readSelectors (stream : ByteArray) (codes : Nat) :
    (count : Nat) → (front : List Nat) → (read : List Nat) → Reading (List Nat)
  | 0, _, read => return read.reverse
  | count + 1, front, read => do
    let index ← readUnary stream codes
    match moveToFront? front index with
    | some (code, front) => readSelectors stream codes count front (code :: read)
    | none => throw .corrupt

/-- The length of a word, which is told by steps up and down from the length before it. -/
def readLength (stream : ByteArray) (fuel length : Nat) : Reading Nat :=
  match fuel with
  | 0 => throw .truncated
  | fuel + 1 => do
    if length < 1 ∨ longestWord < length then throw .corrupt
    let more ← Reading.highBits stream 1
    if more = 0 then return length
    let down ← Reading.highBits stream 1
    readLength stream fuel (if down = 0 then length + 1 else length - 1)

/-- The lengths of `count` words, from the length of the first one on. -/
def readLengths (stream : ByteArray) :
    (count length : Nat) → (read : List Nat) → Reading (List Nat)
  | 0, _, read => return read.reverse
  | count + 1, length, read => do
    let length ← readLength stream (bitCount stream) length
    readLengths stream count length (length :: read)

def readCode (stream : ByteArray) (count : Nat) : Reading Code := do
  let first ← Reading.highBits stream 5
  let lengths ← readLengths stream count first []
  return Code.ofLengths longestWord lengths

/-- The bytes of a column that have been read, and what the next ones depend on. -/
structure Column where
  bytes : ByteArray
  /-- The bytes of the block, those used last first. -/
  front : List UInt8
  /-- The length of the run that is being told. -/
  run : Nat
  /-- The weight of the next digit of the run. -/
  weight : Nat

def pushCopies (bytes : ByteArray) (byte : UInt8) : (count : Nat) → ByteArray
  | 0 => bytes
  | count + 1 => pushCopies (bytes.push byte) byte count

/-- The column behind the run that is being told. `greatest` bytes have space. -/
def Column.endRun (greatest : Nat) (column : Column) : Except Ending Column :=
  if column.run = 0 then .ok column
  else
    match column.front with
    | [] => .error .corrupt
    | first :: _ =>
      if greatest < column.bytes.size + column.run then .error .corrupt
      else .ok
        { column with
          bytes := pushCopies column.bytes first column.run
          run := 0, weight := 1 }

/-- The column with the digit one or two of the length of a run. -/
def Column.addDigit (column : Column) (digit : Nat) : Except Ending Column :=
  if greatestWeight ≤ column.weight then .error .corrupt
  else .ok
    { column with run := column.run + digit * column.weight, weight := 2 * column.weight }

/-- The column with the byte at a place of the list. -/
def Column.addByte (greatest index : Nat) (column : Column) : Except Ending Column := do
  let column ← column.endRun greatest
  match moveToFront? column.front index with
  | none => throw .corrupt
  | some (byte, front) =>
    if greatest ≤ column.bytes.size then throw .corrupt
    return { column with bytes := column.bytes.push byte, front }

/-- Read the symbols of a block up to the symbol `last`: `left` more are read with `code`
    before the next of the `codes` comes. `fuel` is at least the number of bits left. -/
def readColumn (stream : ByteArray) (greatest last fuel : Nat) (codes : List Code) (code : Code)
    (left : Nat) (column : Column) (place : Nat) : Except Ending (ByteArray × Nat) :=
  match fuel with
  | 0 => .error .truncated
  | fuel + 1 =>
    match left, codes with
    | 0, [] => .error .corrupt
    | 0, code :: codes =>
      readColumn stream greatest last fuel codes code groupSize column place
    | left + 1, codes => do
      let (symbol, place) ← code.decode (highBit? stream) place
      if symbol = last then
        let column ← column.endRun greatest
        return (column.bytes, place)
      let column ← if symbol < 2 then column.addDigit (symbol + 1)
        else column.addByte greatest (symbol - 1)
      readColumn stream greatest last fuel codes code left column place

/-- How many of the bytes are less than each byte. -/
def smallerCounts (bytes : ByteArray) : Array Nat :=
  let counts := bytes.foldl (fun counts byte => counts.modify byte.toNat (· + 1))
    (Array.replicate 256 0)
  (counts.foldl (fun (sums, sum) count => (sums.push sum, sum + count)) (#[], 0)).1

/-- For each rotation in sorted order, the one that begins a byte later: equal bytes keep
    their order from the last column to the first. -/
def followers (column : ByteArray) (fuel place : Nat) (starts : Array Nat)
    (found : Array Nat) : Array Nat :=
  match fuel with
  | 0 => found
  | fuel + 1 =>
    if h : place < column.size then
      let byte := column[place].toNat
      let start := (starts[byte]?).getD 0
      followers column fuel (place + 1) (starts.modify byte (· + 1))
        (found.setIfInBounds start place)
    else found

/-- Follow the text of a column for `left` bytes from a rotation on. `equal` counts the equal
    bytes at the end of what was written since the last count of copies. -/
def follow (column : ByteArray) (followers : Array Nat) (limit : Nat) :
    (left rotation equal : Nat) → (output : ByteArray) → Except Ending ByteArray
  | 0, _, equal, output => if equal = 4 then .error .corrupt else .ok output
  | left + 1, rotation, equal, output =>
    if limit < output.size then .error .limited
    else if h : rotation < column.size then
      let byte := column[rotation]
      let next := (followers[rotation]?).getD 0
      let last := if h : 0 < output.size then output[output.size - 1] else 0
      if equal = 4 then
        follow column followers limit left next 0 (pushCopies output last byte.toNat)
      else
        let equal := if 0 < equal ∧ byte = last then equal + 1 else 1
        follow column followers limit left next equal (output.push byte)
    else .error .corrupt

/-- Append the text whose rotations have the given last column, and whose own rotation is at
    `first`. -/
def unrotate (column : ByteArray) (first limit : Nat) (output : ByteArray) :
    Except Ending ByteArray :=
  let links := followers column column.size 0 (smallerCounts column)
    (Array.replicate column.size 0)
  match links[first]? with
  | some rotation => follow column links limit column.size rotation 0 output
  | none => .error .corrupt

/-- Read a block behind its signature and append its bytes. The checksum of the block. -/
def readBlock (stream : ByteArray) (greatest limit : Nat) (output : ByteArray) :
    Reading (ByteArray × UInt32) := do
  let checksum ← Reading.highBits stream 32
  let randomized ← Reading.highBits stream 1
  if randomized = 1 then throw .corrupt
  let first ← Reading.highBits stream 24
  let alphabet ← readAlphabet stream
  if alphabet.isEmpty then throw .corrupt
  let codeCount ← Reading.highBits stream 3
  if codeCount < 2 ∨ 6 < codeCount then throw .corrupt
  let groupCount ← Reading.highBits stream 15
  if groupCount = 0 then throw .corrupt
  let selectors ← readSelectors stream codeCount groupCount (List.range codeCount) []
  let codes ← (List.range codeCount).mapM fun _ => readCode stream (alphabet.length + 2)
  let groups := (selectors.take greatestGroupCount).filterMap fun selector => codes[selector]?
  let empty : Column := { bytes := ByteArray.empty, front := alphabet, run := 0, weight := 1 }
  let column ← fun place =>
    readColumn stream greatest (alphabet.length + 1) (2 * bitCount stream) groups
      (Code.ofLengths longestWord []) 0 empty place
  let start := output.size
  let output ← unrotate column first limit output
  if (highChecksum output start).toNat = checksum then return (output, UInt32.ofNat checksum)
  else throw .corrupt

/-- Read blocks up to the end of the stream. `sum` is the checksum of the blocks before. -/
def readBlocks (stream : ByteArray) (greatest limit fuel : Nat) (sum : UInt32)
    (output : ByteArray) : Reading ByteArray :=
  match fuel with
  | 0 => throw .truncated
  | fuel + 1 => do
    let signature ← Reading.highBits stream 48
    if signature = blockSignature then
      let (output, checksum) ← readBlock stream greatest limit output
      let sum := (sum <<< 1 ||| sum >>> 31) ^^^ checksum
      readBlocks stream greatest limit fuel sum output
    else if signature = endSignature then
      let stated ← Reading.highBits stream 32
      if stated = sum.toNat then return output else throw .corrupt
    else throw .corrupt

/-- What a stream holds, if there is not more of it than `limit`. -/
def unpack (limit : Nat) (stream : ByteArray) : Except Ending ByteArray :=
  let read : Reading ByteArray := do
    let signature ← Reading.highBits stream 24
    let level ← Reading.highBits stream 8
    if signature = 0x425A68 ∧ 0x31 ≤ level ∧ level ≤ 0x39 then
      readBlocks stream ((level - 0x30) * 100000) limit (bitCount stream) 0 ByteArray.empty
    else throw .corrupt
  read.run' 0

end Bzip2

end Zip

end Stencil
