import Stencil.Zip.Bits

/-! # Finite state codes

A finite state code has a table of states. A state stands for a symbol, and tells how many
bits lead to which next state. Frequent symbols have many states, and so need few bits. The
table follows from the share that each symbol has of the states.

The bits are written backwards: they are read from the last one to the first, and the last
set bit of the stream stands in front of them.
-/

namespace Stencil

namespace Zip

namespace Zstandard

/-! ## Bits from the last one on -/

/-- The number of bits in front of the mark that ends them: the last set bit. -/
def markedBits? (bytes : ByteArray) : Option Nat :=
  if h : 0 < bytes.size then
    let last := bytes[bytes.size - 1].toNat
    if last = 0 then none else some (8 * (bytes.size - 1) + last.log2)
  else none

/-- The number that `width` bits before a place spell, read backwards behind `value`. There
    are zeros before the first bit. -/
def backBitsFrom (bytes : ByteArray) : (width place value : Nat) → Nat
  | 0, _, value => value
  | width + 1, 0, value => backBitsFrom bytes width 0 (2 * value)
  | width + 1, place + 1, value =>
    backBitsFrom bytes width place (2 * value + (lowBit? bytes place).getD 0)

/-- The number that `width` bits before a place spell, read backwards. -/
def backBits (bytes : ByteArray) (place width : Nat) : Nat :=
  backBitsFrom bytes width place 0

/-- Reading backwards: the state is the number of bits that are left. -/
abbrev Backward := StateT Nat (Except Ending)

def Backward.bits (bytes : ByteArray) (width : Nat) : Backward Nat := fun place =>
  if width ≤ place then .ok (backBits bytes place width, place - width) else .error .corrupt

/-! ## Shares -/

/-- The share that a symbol has of the states. -/
inductive Share where
  /-- So many states. -/
  | states (count : Nat)
  /-- Less than one state, for which it still has one. -/
  | least
  deriving Repr, DecidableEq

def Share.count : Share → Nat
  | states count => count
  | least => 1

/-- The number that `width` bits at a place spell, with zeros behind the last bit. -/
def bitsOrZeros (bytes : ByteArray) (place : Nat) : (width : Nat) → Nat
  | 0 => 0
  | width + 1 =>
    (lowBit? bytes place).getD 0 + 2 * bitsOrZeros bytes (place + 1) width

/-- A number less than `count`, and the place behind it. The lowest numbers take a bit less
    than the others. -/
def readBelow (bytes : ByteArray) (place count : Nat) : Nat × Nat :=
  let width := (count - 1).log2 + 1
  let value := bitsOrZeros bytes place width
  let short := 2 ^ width - count
  let low := value % 2 ^ (width - 1)
  if low < short then (low, place + width - 1)
  else if 2 ^ (width - 1) ≤ value then (value - short, place + width)
  else (value, place + width)

/-- Two bits tell how many more symbols have no states; three is followed by two more bits. -/
def readAbsent (bytes : ByteArray) (fuel place count : Nat) : Nat × Nat :=
  match fuel with
  | 0 => (count, place)
  | fuel + 1 =>
    let more := bitsOrZeros bytes place 2
    if more = 3 then readAbsent bytes fuel (place + 2) (count + 3) else (count + more, place + 2)

/-- Read the shares of symbols until no state is left. `read` holds the shares before, the
    last one first. -/
def readSharesFrom (bytes : ByteArray) (greatest fuel place left : Nat) (read : List Share) :
    Except Ending (List Share × Nat) :=
  match fuel with
  | 0 => .error .corrupt
  | fuel + 1 =>
    if greatest + 1 < read.length then .error .corrupt
    else if left = 0 then
      if place ≤ bitCount bytes then .ok (read.reverse, place) else .error .corrupt
    else
      let (value, place) := readBelow bytes place (left + 2)
      match value with
      | 0 => readSharesFrom bytes greatest fuel place (left - 1) (.least :: read)
      | 1 =>
        let (absent, place) := readAbsent bytes (bitCount bytes) place 0
        readSharesFrom bytes greatest fuel place left
          (List.replicate (absent + 1) (.states 0) ++ read)
      | count + 1 => readSharesFrom bytes greatest fuel place (left - count) (.states count :: read)

/-! ## Tables -/

/-- A state: its symbol, and how the next state follows. -/
structure Cell where
  symbol : Nat
  /-- The number of bits that are read for the next state. -/
  width : Nat
  /-- The number that the bits are added to. -/
  base : Nat
  deriving Repr, DecidableEq, Inhabited

/-- The states of a code, 2 to the power of `log` of them. -/
structure Table where
  log : Nat
  cells : Array Cell
  deriving Repr, DecidableEq

namespace Table

def single (symbol : Nat) : Table :=
  { log := 0, cells := #[{ symbol, width := 0, base := 0 }] }

/-- The next place for a state, skipping the places from `stop` on. -/
def nextPlace (size stop : Nat) : (fuel place : Nat) → Nat
  | 0, place => place
  | fuel + 1, place =>
    let next := (place + size / 2 + size / 8 + 3) % size
    if next < stop then next else nextPlace size stop fuel next

/-- Give a symbol its places: `count` of them, in wide steps through the table. -/
def spread (size stop symbol : Nat) : (count place : Nat) → (symbols : Array Nat) →
    Nat × Array Nat
  | 0, place, symbols => (place, symbols)
  | count + 1, place, symbols =>
    spread size stop symbol count (nextPlace size stop size place)
      (symbols.setIfInBounds place symbol)

/-- The symbol of each state: the least shares take the last states, and the others are
    spread over the states before. -/
def symbols (log : Nat) (shares : List Share) : Array Nat :=
  let size := 2 ^ log
  let numbered := shares.zipIdx
  let least := (numbered.filter fun (share, _) => share = .least).map Prod.snd
  let stop := size - least.length
  let symbols := (least.zipIdx).foldl
    (fun symbols (symbol, index) => symbols.setIfInBounds (size - 1 - index) symbol)
    (Array.replicate size 0)
  let (_, symbols) := numbered.foldl
    (fun (place, symbols) (share, symbol) =>
      match share with
      | .states count => spread size stop symbol count place symbols
      | .least => (place, symbols))
    (0, symbols)
  symbols

/-- The code in which the symbols have the given shares. The states of a symbol divide the
    states that can follow among them. -/
def ofShares (log : Nat) (shares : List Share) : Table :=
  let size := 2 ^ log
  let counts := (shares.map Share.count).toArray
  let (_, cells) := (symbols log shares).foldl
    (fun (counts, cells) symbol =>
      let count := (counts[symbol]?).getD 1
      let width := log - count.log2
      (counts.modify symbol (· + 1),
        cells.push { symbol, width, base := count * 2 ^ width - size : Cell }))
    (counts, #[])
  { log, cells }

def cell (table : Table) (state : Nat) : Cell :=
  (table.cells[state]?).getD default

/-- Read the shares of a code at a place of the stream, counted in bytes: at most `greatest`
    is a symbol, and there are at most 2 to the power of `greatestLog` states. The place
    behind them. -/
def read (bytes : ByteArray) (start greatest greatestLog : Nat) :
    Except Ending (Table × Nat) := do
  match lowBits? bytes (8 * start) 4 with
  | none => throw .truncated
  | some log =>
    let log := log + 5
    if greatestLog < log then throw .corrupt
    let (shares, place) ←
      readSharesFrom bytes greatest (greatest + 3) (8 * start + 4) (2 ^ log) []
    return (ofShares log shares, (place + 7) / 8)

end Table

end Zstandard

end Zip

end Stencil
