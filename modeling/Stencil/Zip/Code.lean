import Stencil.Zip.Bits

/-! # Codes in canonical form

In a code, frequent symbols have short words. A code in canonical form is told by the
lengths of its words alone: words of one length are numbered in the order of their symbols,
and shorter words come first.
-/

namespace Stencil

namespace Zip

/-- How many words there are of each length, from one bit on, and the symbols in the order of
    their words. -/
structure Code where
  counts : List Nat
  symbols : Array Nat
  deriving Repr, DecidableEq

namespace Code

/-- The code with words of the given lengths, at most `longest` bits each, for the symbols
    from zero on. A symbol of length zero has no word. -/
def ofLengths (longest : Nat) (lengths : List Nat) : Code :=
  let numbered := lengths.zipIdx
  { counts := (List.range longest).map fun n => lengths.count (n + 1)
    symbols := ((List.range longest).flatMap fun n =>
      (numbered.filter fun (length, _) => length = n + 1).map Prod.snd).toArray }

/-- The space that the words take up, in words of the greatest length. -/
def filled (code : Code) : Nat :=
  code.counts.foldl (fun space count => 2 * space + count) 0

/-- Whether the words leave no space, or there is one word at most. -/
def isFull (code : Code) : Bool :=
  code.filled = 2 ^ code.counts.length || code.symbols.size ≤ 1

/-- Whether there is space for all words. -/
def fits (code : Code) : Bool :=
  code.filled ≤ 2 ^ code.counts.length

/-- Read one word bit by bit: `first` is the first word of the current length, `before` the
    number of shorter words, and `word` the bits read so far. The symbol, and the place
    behind its word. -/
def decodeFrom (symbols : Array Nat) (bit? : Nat → Option Nat) :
    (counts : List Nat) → (place word first before : Nat) → Except Ending (Nat × Nat)
  | [], _, _, _, _ => .error .corrupt
  | count :: counts, place, word, first, before =>
    match bit? place with
    | none => .error .truncated
    | some bit =>
      let word := 2 * word + bit
      let first := 2 * first
      if word < first + count then
        match symbols[before + (word - first)]? with
        | some symbol => .ok (symbol, place + 1)
        | none => .error .corrupt
      else decodeFrom symbols bit? counts (place + 1) word (first + count) (before + count)

/-- The symbol whose word is at a place of the stream with the given bits, and the place
    behind it. -/
def decode (code : Code) (bit? : Nat → Option Nat) (place : Nat) : Except Ending (Nat × Nat) :=
  decodeFrom code.symbols bit? code.counts place 0 0 0

end Code

end Zip

end Stencil
