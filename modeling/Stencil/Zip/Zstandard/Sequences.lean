import Stencil.Zip.Field
import Stencil.Zip.Zstandard.Fse

/-! # Sequences

A sequence is a number of literals and a copy behind them. The three numbers of a sequence
are the number of literals, the length of the copy and its distance; each is told by a symbol
of a finite state code of its own and by more bits. The codes are given with the sequences,
are those of an earlier block, or are fixed.
-/

namespace Stencil

namespace Zip

namespace Zstandard

/-- The least value of a symbol and the number of more bits. -/
abbrev ValueTable := Array (Nat × Nat)

/-- The values of symbols that follow each other without a gap, from the numbers of more
    bits. -/
def valuesFrom (least : Nat) : (extras : List Nat) → List (Nat × Nat)
  | [] => []
  | extra :: extras => (least, extra) :: valuesFrom (least + 2 ^ extra) extras

def literalValues : ValueTable :=
  (valuesFrom 0 (List.replicate 16 0 ++ [1, 1, 1, 1, 2, 2, 3, 3, 4]) ++
    valuesFrom 64 [6, 7, 8, 9, 10, 11, 12, 13, 14, 15, 16]).toArray

def lengthValues : ValueTable :=
  (valuesFrom 3 (List.replicate 32 0 ++ [1, 1, 1, 1, 2, 2, 3, 3, 4, 4, 5]) ++
    valuesFrom 131 [7, 8, 9, 10, 11, 12, 13, 14, 15, 16]).toArray

/-- The distances of copies, which begin at four, and three numbers before them. -/
def distanceValues : ValueTable :=
  (valuesFrom 1 (List.range 32)).toArray

/-- Shares, zero for the least one. -/
def sharesOf (counts : List Nat) : List Share :=
  counts.map fun count => if count = 0 then .least else .states count

/-- The code of the numbers of literals where a block brings none. -/
def fixedLiteralTable : Table :=
  Table.ofShares 6 (sharesOf ([4, 3] ++ List.replicate 11 2 ++ [1, 1, 1] ++ List.replicate 9 2 ++
    [3, 2, 1, 1, 1, 1, 1] ++ List.replicate 4 0))

/-- The code of the lengths of copies where a block brings none. -/
def fixedLengthTable : Table :=
  Table.ofShares 6 (sharesOf ([1, 4, 3] ++ List.replicate 6 2 ++ List.replicate 37 1 ++
    List.replicate 7 0))

/-- The code of the distances where a block brings none. -/
def fixedDistanceTable : Table :=
  Table.ofShares 5 (sharesOf (List.replicate 6 1 ++ [2, 2, 2] ++ List.replicate 15 1 ++
    List.replicate 5 0))

/-- The codes that sequences are told by. -/
structure Tables where
  literals : Option Table
  distances : Option Table
  lengths : Option Table
  deriving Repr, DecidableEq

/-- How one of the numbers of a sequence is told. -/
structure NumberKind where
  fixed : Table
  /-- The greatest symbol. -/
  greatest : Nat
  /-- The most bits of a state. -/
  greatestLog : Nat

def literalKind : NumberKind :=
  { fixed := fixedLiteralTable, greatest := 35, greatestLog := 9 }

def distanceKind : NumberKind :=
  { fixed := fixedDistanceTable, greatest := 31, greatestLog := 8 }

def lengthKind : NumberKind :=
  { fixed := fixedLengthTable, greatest := 52, greatestLog := 9 }

/-- The code for a number, as a mode tells: the fixed one, one symbol, a given code, or that
    of an earlier block. The place behind it. -/
def NumberKind.readTable (kind : NumberKind) (mode : Nat) (bytes : ByteArray) (place : Nat)
    (earlier : Option Table) : Except Ending (Table × Nat) :=
  match mode with
  | 0 => .ok (kind.fixed, place)
  | 1 =>
    match field? bytes place 1 with
    | none => .error .truncated
    | some symbol =>
      if kind.greatest < symbol then .error .corrupt else .ok (Table.single symbol, place + 1)
  | 2 => Table.read bytes place kind.greatest kind.greatestLog
  | _ =>
    match earlier with
    | some table => .ok (table, place)
    | none => .error .corrupt

/-- A number of literals and a copy behind them. -/
structure Sequence where
  literals : Nat
  length : Nat
  /-- The distance of the copy, or which of the last distances it is. -/
  distance : Nat
  deriving Repr, DecidableEq

def readValue (values : ValueTable) (bytes : ByteArray) (symbol : Nat) : Backward Nat :=
  match values[symbol]? with
  | none => throw .corrupt
  | some (least, extra) => return least + (← Backward.bits bytes extra)

/-- Read `count` sequences in the given states. All bits must be used up. -/
def readSequencesFrom (literals distances lengths : Table) (bytes : ByteArray) :
    (count literalState distanceState lengthState : Nat) → (read : Array Sequence) →
    Backward (Array Sequence)
  | 0, _, _, _, read => return read
  | count + 1, literalState, distanceState, lengthState, read => do
    let literalCell := literals.cell literalState
    let distanceCell := distances.cell distanceState
    let lengthCell := lengths.cell lengthState
    let distance ← readValue distanceValues bytes distanceCell.symbol
    let length ← readValue lengthValues bytes lengthCell.symbol
    let literalCount ← readValue literalValues bytes literalCell.symbol
    let read := read.push { literals := literalCount, length, distance }
    if count = 0 then return read
    let literalState := literalCell.base + (← Backward.bits bytes literalCell.width)
    let lengthState := lengthCell.base + (← Backward.bits bytes lengthCell.width)
    let distanceState := distanceCell.base + (← Backward.bits bytes distanceCell.width)
    readSequencesFrom literals distances lengths bytes count literalState distanceState
      lengthState read

/-- The number of sequences at a place, and the place behind it. -/
def readCount (bytes : ByteArray) (place : Nat) : Option (Nat × Nat) := do
  let first ← field? bytes place 1
  if first < 128 then return (first, place + 1)
  if first < 255 then
    let second ← field? bytes (place + 1) 1
    return ((first - 128) * 256 + second, place + 2)
  let rest ← field? bytes (place + 1) 2
  return (rest + 0x7F00, place + 3)

/-- Read the sequences from a place of a block to its end, and the codes that later blocks
    may use again. -/
def readSequences (block : ByteArray) (place : Nat) (earlier : Tables) :
    Except Ending (Array Sequence × Tables) := do
  match readCount block place with
  | none => throw .truncated
  | some (0, place) => if place = block.size then return (#[], earlier) else throw .corrupt
  | some (count, place) =>
    match field? block place 1 with
    | none => throw .truncated
    | some modes =>
      if modes % 4 ≠ 0 then throw .corrupt
      let (literals, place) ←
        literalKind.readTable (modes / 64) block (place + 1) earlier.literals
      let (distances, place) ← distanceKind.readTable (modes / 16 % 4) block place earlier.distances
      let (lengths, place) ← lengthKind.readTable (modes / 4 % 4) block place earlier.lengths
      if block.size < place then throw .truncated
      let bytes := block.extract place block.size
      match markedBits? bytes with
      | none => throw .corrupt
      | some bits =>
        let read : Backward (Array Sequence) := do
          let literalState ← Backward.bits bytes literals.log
          let distanceState ← Backward.bits bytes distances.log
          let lengthState ← Backward.bits bytes lengths.log
          readSequencesFrom literals distances lengths bytes count literalState distanceState
            lengthState #[]
        let (sequences, left) ← read.run bits
        if left ≠ 0 then throw .corrupt
        return (sequences,
          { literals := some literals, distances := some distances, lengths := some lengths })

end Zstandard

end Zip

end Stencil
