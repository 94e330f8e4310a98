import Stencil.Zip.Bits
import Stencil.Zip.Copy

/-! # Streams of predicted bits

Each bit of such a stream is predicted: a model holds the chance of a zero at each place of
a decision, and moves it towards the bits that are found there. A range of numbers is split
in proportion to the chance, and the number that the stream spells tells the side.

The decisions tell bytes and copies of earlier output. A copy goes back by a new distance or
by one of the last four. The stream comes in chunks, and a chunk tells how much of the model
and of the output before it goes on to count.
-/

namespace Stencil

namespace Zip

namespace Lzma

/-- The bytes of a chunk, the range that is left, the number that the bytes spell within it,
    and the chances of zeros. -/
structure Model where
  input : ByteArray
  place : Nat
  range : Nat
  code : Nat
  chances : Array Nat

/-- Reading predicted bits. -/
abbrev Predicted := StateT Model (Except Ending)

def leastRange : Nat := 2 ^ 24

/-- A range that has become too small is widened by a byte. -/
def widen : Predicted Unit := fun model =>
  if model.range < leastRange then
    if h : model.place < model.input.size then
      let byte := model.input[model.place].toNat
      .ok ((),
        { model with
          place := model.place + 1
          range := model.range * 256
          code := model.code * 256 + byte })
    else .error .corrupt
  else .ok ((), model)

/-- The chance that is no guess, of 2048. -/
def evenChance : Nat := 1024

/-- The next bit where the chance of a zero is found at an index. -/
def nextBit (index : Nat) : Predicted Nat := do
  widen
  fun { input, place, range, code, chances } =>
    let chance := (chances[index]?).getD evenChance
    let bound := range / 2048 * chance
    if code < bound then
      .ok (0,
        { input, place, range := bound, code
          chances := chances.setIfInBounds index (chance + (2048 - chance) / 32) })
    else
      .ok (1,
        { input, place, range := range - bound, code := code - bound
          chances := chances.setIfInBounds index (chance - chance / 32) })

/-- Bits from the highest to the lowest: `node` is what they spell so far behind a one, and
    the chances for it are found at `start + node`. -/
def treeFrom (start : Nat) : (bits node : Nat) → Predicted Nat
  | 0, node => return node
  | bits + 1, node => do
    let bit ← nextBit (start + node)
    treeFrom start bits (2 * node + bit)

/-- The number that bits from the highest to the lowest spell. -/
def tree (start bits : Nat) : Predicted Nat :=
  return (← treeFrom start bits 1) - 2 ^ bits

/-- Bits from the lowest to the highest, of the given weight. -/
def reverseTreeFrom (start : Nat) : (bits node weight : Nat) → Predicted Nat
  | 0, _, _ => return 0
  | bits + 1, node, weight => do
    let bit ← nextBit (start + node)
    let rest ← reverseTreeFrom start bits (2 * node + bit) (2 * weight)
    return weight * bit + rest

/-- The number that bits from the lowest to the highest spell. -/
def reverseTree (start bits : Nat) : Predicted Nat :=
  reverseTreeFrom start bits 1 1

/-- The number that bits without a prediction spell behind `value`. -/
def evenBits : (bits value : Nat) → Predicted Nat
  | 0, value => return value
  | bits + 1, value => do
    widen
    let bit ← fun model =>
      let half := model.range / 2
      if model.code < half then (.ok (0, { model with range := half }) : Except Ending _)
      else .ok (1, { model with range := half, code := model.code - half })
    evenBits bits (2 * value + bit)

/-! ### Places of the chances -/

/-- For each state and alignment, whether a copy comes. -/
def copyPlace : Nat := 0

/-- For each state, whether a copy goes back by one of the last distances. -/
def repeatPlace : Nat := 192

/-- For each state, whether a copy goes back by another than the last distance. -/
def olderPlace : Nat := 204

/-- For each state, whether a copy goes back by another than the last two distances. -/
def secondOlderPlace : Nat := 216

/-- For each state, whether a copy goes back by the last of the four distances. -/
def thirdOlderPlace : Nat := 228

/-- For each state and alignment, whether a copy by the last distance has more than a byte. -/
def longPlace : Nat := 240

/-- The classes of distances, for each of the four shortest lengths. -/
def classPlace : Nat := 432

def nearPlace : Nat := 688

def alignmentPlace : Nat := 816

/-- The lengths of copies by a new distance. -/
def newLengthPlace : Nat := 832

/-- The lengths of copies by one of the last distances. -/
def repeatLengthPlace : Nat := 1346

/-- The bytes. -/
def literalPlace : Nat := 1860

/-- How bytes are predicted: by high bits of the byte before, by low bits of their place, and
    all else by the alignment of their place. -/
structure Properties where
  before : Nat
  place : Nat
  alignment : Nat
  deriving Repr, DecidableEq

def Properties.ofByte? (byte : Nat) : Option Properties :=
  let properties : Properties :=
    { before := byte % 9, place := byte / 9 % 5, alignment := byte / 45 }
  if byte < 225 ∧ properties.before + properties.place ≤ 4 then some properties else none

/-- A model without any knowledge. -/
def Properties.chances (properties : Properties) : Array Nat :=
  Array.replicate (literalPlace + 0x300 * 2 ^ (properties.before + properties.place)) evenChance

/-- What came last: a number for the last few decisions, and the last four distances. -/
structure History where
  state : Nat
  last : Nat
  second : Nat
  third : Nat
  fourth : Nat
  deriving Repr, DecidableEq

def History.empty : History :=
  { state := 0, last := 0, second := 0, third := 0, fourth := 0 }

def stateAfterByte (state : Nat) : Nat :=
  if state < 4 then 0 else if state < 10 then state - 3 else state - 6

/-- The length of a copy, whose chances begin at a place. -/
def readLength (start alignment : Nat) : Predicted Nat := do
  let long ← nextBit start
  if long = 0 then return 2 + (← tree (start + 2 + 8 * alignment) 3)
  let longer ← nextBit (start + 1)
  if longer = 0 then return 10 + (← tree (start + 130 + 8 * alignment) 3)
  return 18 + (← tree (start + 258) 8)

/-- A new distance, less one, for a copy of the length. -/
def readDistance (length : Nat) : Predicted Nat := do
  let kind ← tree (classPlace + 64 * min (length - 2) 3) 6
  if kind < 4 then return kind
  let bits := kind / 2 - 1
  let base := (2 + kind % 2) * 2 ^ bits
  if kind < 14 then return base + (← reverseTree (nearPlace + base - kind - 1) bits)
  let high ← evenBits (bits - 4) 0
  let low ← reverseTree alignmentPlace 4
  return base + 16 * high + low

/-- A byte whose bits are predicted together with those of the byte that a copy would give.
    Once they differ, the other bits are predicted alone. -/
def readMatched (start : Nat) : (bits matched node : Nat) → (together : Bool) → Predicted Nat
  | 0, _, node, _ => return node
  | bits + 1, matched, node, together => do
    let other := matched / 2 ^ bits % 2
    let bit ← nextBit (if together then start + 0x100 * (1 + other) + node else start + node)
    readMatched start bits matched (2 * node + bit) (together && bit = other)

/-- The output of the chunks, and how much of it copies reach. -/
structure Output where
  bytes : ByteArray
  /-- Where the output begins that copies reach. -/
  start : Nat
  /-- How far copies reach back. -/
  reach : Nat

/-- The byte that a copy by a distance, less one, gives; `none` if it goes back too far. -/
def Output.back? (output : Output) (distance : Nat) : Option UInt8 :=
  if h : distance < output.bytes.size then
    if output.start + distance < output.bytes.size ∧ distance < output.reach then
      some output.bytes[output.bytes.size - 1 - distance]
    else none
  else none

def readByte (properties : Properties) (history : History) (output : Output) :
    Predicted UInt8 := do
  let before := ((output.back? 0).getD 0).toNat
  let place := output.bytes.size - output.start
  let group := place % 2 ^ properties.place * 2 ^ properties.before +
    before / 2 ^ (8 - properties.before)
  let start := literalPlace + 0x300 * group
  if history.state < 7 then return UInt8.ofNat (← treeFrom start 8 1)
  let matched := ((output.back? history.last).getD 0).toNat
  return UInt8.ofNat (← readMatched start 8 matched 1 true)

def readRepeat (alignment : Nat) (history : History) : Predicted (Nat × History) := do
  let { state, last, second, third, fourth } := history
  let older ← nextBit (olderPlace + state)
  let long (history : History) : Predicted (Nat × History) := do
    let length ← readLength repeatLengthPlace alignment
    return (length, { history with state := if state < 7 then 8 else 11 })
  if older = 0 then
    let more ← nextBit (longPlace + 16 * state + alignment)
    if more = 0 then return (1, { history with state := if state < 7 then 9 else 11 })
    long history
  else
    let secondOlder ← nextBit (secondOlderPlace + state)
    if secondOlder = 0 then long { history with last := second, second := last }
    else
      let thirdOlder ← nextBit (thirdOlderPlace + state)
      if thirdOlder = 0 then long { history with last := third, second := last, third := second }
      else long { state, last := fourth, second := last, third := second, fourth := third }

def readNew (alignment : Nat) (history : History) : Predicted (Nat × History) := do
  let length ← readLength newLengthPlace alignment
  let distance ← readDistance length
  return (length,
    { state := if history.state < 7 then 7 else 10
      last := distance, second := history.last, third := history.second
      fourth := history.third })

/-- Read decisions until there are `target` bytes. `fuel` is at least the number of bytes that
    are missing. -/
def readDecisions (properties : Properties) (target fuel : Nat) (history : History)
    (output : Output) : Predicted (History × Output) := do
  match fuel with
  | 0 => return (history, output)
  | fuel + 1 =>
    if target ≤ output.bytes.size then return (history, output)
    let alignment := (output.bytes.size - output.start) % 2 ^ properties.alignment
    let copy ← nextBit (copyPlace + 16 * history.state + alignment)
    if copy = 0 then
      let byte ← readByte properties history output
      readDecisions properties target fuel
        { history with state := stateAfterByte history.state }
        { output with bytes := output.bytes.push byte }
    else
      let again ← nextBit (repeatPlace + history.state)
      let (length, history) ←
        if again = 0 then readNew alignment history else readRepeat alignment history
      if (output.back? history.last).isNone ∨ target < output.bytes.size + length then
        throw .corrupt
      readDecisions properties target fuel history
        { output with bytes := copyBack output.bytes (history.last + 1) length }

/-- What goes on to count from chunk to chunk. -/
structure Chunks where
  output : Output
  /-- Whether a chunk has begun the output that copies reach. -/
  begun : Bool
  /-- How the bytes are predicted, once a chunk has told. -/
  properties : Option Properties
  chances : Array Nat
  history : History

/-- Append `size` bytes as they are told by the bytes of a chunk. The number that they spell
    must be used up. -/
def Chunks.readPredicted (chunks : Chunks) (properties : Properties) (input : ByteArray)
    (size : Nat) : Except Ending Chunks := do
  if input.size < 5 ∨ input[0]? ≠ some 0 then throw .corrupt
  let code := (input.extract 1 5).toList.foldl (fun code byte => 256 * code + byte.toNat) 0
  let { output, chances, history, .. } := chunks
  let target := output.bytes.size + size
  let model : Model := { input, place := 5, range := 2 ^ 32 - 1, code, chances }
  let ((history, output), model) ← (do
    let result ← readDecisions properties target size history output
    widen
    return result : Predicted (History × Output)).run model
  if model.code ≠ 0 ∨ model.place ≠ input.size then throw .corrupt
  let { chances, .. } := model
  return { output, begun := true, properties := some properties, chances, history }

/-- The output that copies reach begins anew. -/
def Chunks.restart (chunks : Chunks) : Chunks :=
  { chunks with
    output := { chunks.output with start := chunks.output.bytes.size }
    begun := true }

def Chunks.readPlain (chunks : Chunks) (stream : ByteArray) (place : Nat) :
    Except Ending (Chunks × Nat) := do
  match highBits? stream (8 * (place + 1)) 16 with
  | none => throw .truncated
  | some size =>
    let stop := place + 3 + size + 1
    if stream.size < stop then throw .truncated
    let { output, begun, properties, chances, history } := chunks
    let bytes := output.bytes ++ stream.extract (place + 3) stop
    return ({ output := { output with bytes }, begun, properties, chances, history }, stop)

/-- Read a chunk of predicted bytes. Its control byte tells whether the model is kept, is
    forgotten, or is replaced by one with other properties. -/
def Chunks.readCoded (chunks : Chunks) (control : Nat) (stream : ByteArray) (place : Nat) :
    Except Ending (Chunks × Nat) := do
  match highBits? stream (8 * (place + 1)) 16, highBits? stream (8 * (place + 3)) 16 with
  | some size, some packedSize =>
    let size := control % 32 * 2 ^ 16 + size + 1
    let fresh := 0xC0 ≤ control
    let start := if fresh then place + 6 else place + 5
    let stop := start + packedSize + 1
    if stream.size < stop then throw .truncated
    let properties :=
      if fresh then (stream[place + 5]?).bind fun byte => Properties.ofByte? byte.toNat
      else chunks.properties
    match properties with
    | none => throw .corrupt
    | some properties =>
      let chunks := if 0xA0 ≤ control then
          { chunks with chances := properties.chances, history := .empty }
        else chunks
      let chunks ← chunks.readPredicted properties (stream.extract start stop) size
      return (chunks, stop)
  | _, _ => throw .truncated

/-- Read chunks up to the end that a zero byte tells. The place behind it. -/
def Chunks.read (chunks : Chunks) (limit : Nat) (stream : ByteArray) (fuel place : Nat) :
    Except Ending (ByteArray × Nat) := do
  match fuel with
  | 0 => throw .truncated
  | fuel + 1 =>
    if limit < chunks.output.bytes.size then throw .limited
    match stream[place]? with
    | none => throw .truncated
    | some control =>
      let control := control.toNat
      if control = 0 then return (chunks.output.bytes, place + 1)
      let chunks := if control = 1 ∨ 0xE0 ≤ control then
          { chunks.restart with properties := none }
        else chunks
      if !chunks.begun ∨ (2 < control ∧ control < 0x80) then throw .corrupt
      let (chunks, place) ← if control < 0x80 then chunks.readPlain stream place
        else chunks.readCoded control stream place
      chunks.read limit stream fuel place

/-- Append what the chunks from a place on hold, in which copies reach back by `reach` bytes.
    The place behind them. -/
def readChunks (limit reach : Nat) (stream : ByteArray) (place : Nat) (output : ByteArray) :
    Except Ending (ByteArray × Nat) :=
  let chunks : Chunks :=
    { output := { bytes := output, start := output.size, reach }, begun := false
      properties := none, chances := #[], history := .empty }
  chunks.read limit stream (stream.size + 1) place

end Lzma

end Zip

end Stencil
