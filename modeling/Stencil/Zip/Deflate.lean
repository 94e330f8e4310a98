import Stencil.Zip.Code
import Stencil.Zip.Copy

/-! # Deflate streams

A deflate stream is a sequence of blocks of bits, the lowest bit of a byte first. A block
is stored as it is or coded: a symbol of its code is a byte, the end of the block, or the
length of a copy of earlier output.

Streams of two kinds are read: in one of them, copies reach twice as far back. Those written
here are of the plain kind and have stored blocks only. A stream may be read up to a limit.
-/

namespace Stencil

namespace Zip

namespace Deflate

/-- The kinds of deflate streams. -/
inductive Kind where
  /-- Copies reach 32 KiB back and have at most 258 bytes. -/
  | plain
  /-- Copies reach 64 KiB back and have at most 64 KiB and two bytes. -/
  | enhanced
  deriving Repr, DecidableEq

def longestWord : Nat := 15

/-- The code with words of the given lengths. The words must fit and, in a plain stream, fill
    the space of codes exactly, unless there is one word only. -/
def Kind.code? (kind : Kind) (lengths : List Nat) : Option Code :=
  let code := Code.ofLengths longestWord lengths
  if code.fits && (kind = .enhanced || code.isFull) then some code else none

/-- The code of bytes and lengths where a block brings none of its own. -/
def fixedSymbols : Code :=
  Code.ofLengths longestWord (List.replicate 144 8 ++ List.replicate 112 9 ++
    List.replicate 24 7 ++ List.replicate 8 8)

/-- The code of distances where a block brings none of its own. -/
def fixedDistances : Code :=
  Code.ofLengths longestWord (List.replicate 32 5)

/-- The number of extra bits of each symbol of a length, from the first one on. -/
def lengthExtras : List Nat :=
  [0, 0, 0, 0, 0, 0, 0, 0, 1, 1, 1, 1, 2, 2, 2, 2, 3, 3, 3, 3, 4, 4, 4, 4, 5, 5, 5, 5]

/-- The number of extra bits of each symbol of a distance. -/
def distanceExtras : List Nat :=
  [0, 0, 0, 0, 1, 1, 2, 2, 3, 3, 4, 4, 5, 5, 6, 6, 7, 7, 8, 8, 9, 9, 10, 10, 11, 11, 12, 12,
   13, 13]

/-- The least value of each symbol: the values of the symbols before it come first. -/
def bases (least : Nat) : List Nat → List Nat
  | [] => []
  | extra :: extras => least :: bases (least + 2 ^ extra) extras

/-- The least length and the extra bits of each symbol of a length. In a plain stream the
    last symbol has the greatest length alone, in an enhanced one all lengths. -/
def Kind.lengthTable (kind : Kind) : Array (Nat × Nat) :=
  let last := match kind with
    | .plain => (258, 0)
    | .enhanced => (3, 16)
  ((bases 3 lengthExtras).zip lengthExtras ++ [last]).toArray

/-- The least distance and the extra bits of each symbol of a distance. An enhanced stream
    has two symbols more. -/
def Kind.distanceTable (kind : Kind) : Array (Nat × Nat) :=
  let extras := match kind with
    | .plain => distanceExtras
    | .enhanced => distanceExtras ++ [14, 14]
  ((bases 1 extras).zip extras).toArray

/-- The value of a symbol with its extra bits, and the place behind them. -/
def readValue (table : Array (Nat × Nat)) (symbol : Nat) (stream : ByteArray) (place : Nat) :
    Except Ending (Nat × Nat) :=
  match table[symbol]? with
  | none => .error .corrupt
  | some (base, extra) =>
    match lowBits? stream place extra with
    | none => .error .truncated
    | some more => .ok (base + more, place + extra)

/-- Output so far, and either the place to go on from or how the stream ended. -/
abbrev Outcome := ByteArray × Except Ending Nat

/-- What the symbols of a coded block mean. -/
structure Coding where
  symbols : Code
  distances : Code
  lengthTable : Array (Nat × Nat)
  distanceTable : Array (Nat × Nat)

/-- The length and the distance of the copy that a symbol begins, and the place behind them. -/
def Coding.readCopy (coding : Coding) (symbol : Nat) (stream : ByteArray) (place : Nat) :
    Except Ending (Nat × Nat × Nat) := do
  let (length, place) ← readValue coding.lengthTable (symbol - 257) stream place
  let (symbol, place) ← coding.distances.decode (lowBit? stream) place
  let (distance, place) ← readValue coding.distanceTable symbol stream place
  return (length, distance, place)

/-- Read the symbols of a coded block. `fuel` is at least the number of bits left. -/
def readSymbols (coding : Coding) (limit : Nat) (stream : ByteArray) (fuel : Nat)
    (place : Nat) (output : ByteArray) : Outcome :=
  match fuel with
  | 0 => (output, .error .truncated)
  | fuel + 1 =>
    if limit < output.size then (output, .error .limited)
    else
      match coding.symbols.decode (lowBit? stream) place with
      | .error ending => (output, .error ending)
      | .ok (symbol, place) =>
        if symbol < 256 then
          readSymbols coding limit stream fuel place (output.push symbol.toUInt8)
        else if symbol = 256 then (output, .ok place)
        else
          match coding.readCopy symbol stream place with
          | .error ending => (output, .error ending)
          | .ok (length, distance, place) =>
            readSymbols coding limit stream fuel place (copyBack output distance length)

/-- Read a stored block, behind its header: its length twice, the second time with all bits
    turned, and the bytes. -/
def readStored (stream : ByteArray) (place : Nat) (output : ByteArray) : Outcome :=
  let start := (place + 7) / 8
  match field? stream start 2, field? stream (start + 2) 2 with
  | some length, some turned =>
    if length + turned ≠ 0xFFFF then (output, .error .corrupt)
    else
      let data := stream.extract (start + 4) (start + 4 + length)
      if data.size = length then (output ++ data, .ok (8 * (start + 4 + length)))
      else (output ++ data, .error .truncated)
  | _, _ => (output, .error .truncated)

/-- The order in which the lengths of the words of the code of lengths are sent. -/
def lengthOrder : List Nat :=
  [16, 17, 18, 0, 8, 7, 9, 6, 10, 5, 11, 4, 12, 3, 13, 2, 14, 1, 15]

/-- Read `count` lengths of words. Three symbols repeat the last length or zero. `read` holds
    the lengths read so far, the last one first. -/
def readLengths (code : Code) (count : Nat) (stream : ByteArray) (fuel : Nat) (place : Nat)
    (read : List Nat) : Except Ending (List Nat × Nat) :=
  match fuel with
  | 0 => .error .truncated
  | fuel + 1 =>
    if count ≤ read.length then
      if read.length = count then .ok (read.reverse, place) else .error .corrupt
    else do
      let (symbol, place) ← code.decode (lowBit? stream) place
      if symbol < 16 then readLengths code count stream fuel place (symbol :: read)
      else
        let (least, extra) := if symbol = 16 then (3, 2) else if symbol = 17 then (3, 3) else (11, 7)
        let repeated ← match symbol, read with
          | 16, [] => throw .corrupt
          | 16, last :: _ => pure last
          | _, _ => pure 0
        match lowBits? stream place extra with
        | none => throw .truncated
        | some more =>
          readLengths code count stream fuel (place + extra)
            (List.replicate (least + more) repeated ++ read)

/-- Three bits for each of the first `count` entries of the order, from a place on. -/
def readOrderLengths (stream : ByteArray) (place : Nat) (count : Nat) :
    Option (List (Nat × Nat)) :=
  ((lengthOrder.take count).zipIdx).mapM fun (symbol, index) =>
    (lowBits? stream (place + 3 * index) 3).map fun length => (symbol, length)

/-- A code, or the ending for a code that is none. -/
def Kind.codeOf (kind : Kind) (lengths : List Nat) : Except Ending Code :=
  match kind.code? lengths with
  | some code => .ok code
  | none => .error .corrupt

def blockEnd : Nat := 256

/-- Whether a block of the kind may bring so many words. -/
def Kind.admits (kind : Kind) (symbols distances : Nat) : Bool :=
  kind = .enhanced || symbols ≤ 286 && distances ≤ 30

/-- Read the two codes that a block brings, and the place behind them. -/
def Kind.readCodes (kind : Kind) (stream : ByteArray) (place : Nat) :
    Except Ending (Code × Code × Nat) := do
  match lowBits? stream place 5, lowBits? stream (place + 5) 5, lowBits? stream (place + 10) 4 with
  | some symbols, some distances, some order =>
    let (symbols, distances, order) := (symbols + 257, distances + 1, order + 4)
    if !kind.admits symbols distances then throw .corrupt
    match readOrderLengths stream (place + 14) order with
    | none => throw .truncated
    | some sent =>
      let lengths := (List.range 19).map fun symbol => (sent.lookup symbol).getD 0
      let code ← kind.codeOf lengths
      let (lengths, place) ← readLengths code (symbols + distances) stream
        (symbols + distances + 1) (place + 14 + 3 * order) []
      if lengths[blockEnd]? = some 0 then throw .corrupt
      let symbolCode ← kind.codeOf (lengths.take symbols)
      let distanceCode ← kind.codeOf (lengths.drop symbols)
      return (symbolCode, distanceCode, place)
  | _, _, _ => throw .truncated

def Kind.readBlock (kind : Kind) (form : Nat) (limit : Nat) (stream : ByteArray) (place : Nat)
    (output : ByteArray) : Outcome :=
  let coded (symbols distances : Code) (place : Nat) : Outcome :=
    let coding : Coding :=
      { symbols, distances
        lengthTable := kind.lengthTable, distanceTable := kind.distanceTable }
    readSymbols coding limit stream (bitCount stream + 1) place output
  match form with
  | 0 => readStored stream place output
  | 1 => coded fixedSymbols fixedDistances place
  | 2 =>
    match kind.readCodes stream place with
    | .ok (symbols, distances, place) => coded symbols distances place
    | .error ending => (output, .error ending)
  | _ => (output, .error .corrupt)

/-- Read blocks up to the last one. `fuel` is at least the number of bits left. -/
def Kind.readBlocks (kind : Kind) (limit : Nat) (stream : ByteArray) (fuel : Nat) (place : Nat)
    (output : ByteArray) : ByteArray × Ending :=
  match fuel with
  | 0 => (output, .truncated)
  | fuel + 1 =>
    if limit < output.size then (output, .limited)
    else
      match lowBit? stream place, lowBits? stream (place + 1) 2 with
      | some last, some form =>
        match kind.readBlock form limit stream (place + 3) output with
        | (output, .error ending) => (output, ending)
        | (output, .ok place) =>
          if last = 1 then (output, .complete)
          else kind.readBlocks limit stream fuel place output
      | _, _ => (output, .truncated)

/-- What a stream holds, and how reading it ended. Reading stops when there is more output
    than `limit`. -/
def inflate (kind : Kind) (limit : Nat) (stream : ByteArray) : ByteArray × Ending :=
  kind.readBlocks limit stream (bitCount stream + 1) 0 ByteArray.empty

/-- The most bytes of a stored block. -/
def greatestBlock : Nat := 0xFFFF

/-- A stored block, its header filled up to a whole byte. -/
def storedBlock (last : Bool) (data : ByteArray) : ByteArray :=
  ((if last then 1 else 0) :: encode 2 data.size ++ encode 2 (0xFFFF - data.size)).toByteArray ++
    data

def storedFrom (data : ByteArray) (start : Nat) (stream : ByteArray) : ByteArray :=
  if start + greatestBlock < data.size then
    storedFrom data (start + greatestBlock)
      (stream ++ storedBlock false (data.extract start (start + greatestBlock)))
  else stream ++ storedBlock true (data.extract start data.size)
termination_by data.size - start
decreasing_by
  simp only [greatestBlock] at *
  omega

/-- A stream that holds the bytes, in stored blocks. -/
def deflate (data : ByteArray) : ByteArray :=
  storedFrom data 0 ByteArray.empty

end Deflate

end Zip

end Stencil
