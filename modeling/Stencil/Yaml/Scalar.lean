import Stencil.Yaml.Basic
import Stencil.Yaml.Character

/-! # Scalars in their five styles

A scalar is plain, in single or double quotes, or a literal or folded block. Each reader
begins at the first character of a scalar and stops behind it. Line ends inside of a scalar
that is not literal are folded: one becomes a blank, and of several the first is dropped.

The readers are loops whose number of rounds is bounded by `fuel`; a number greater than the
length of the text is enough for all of them. Each collects the characters found so far in
reverse.
-/

namespace Stencil.Yaml

/-- The blanks and line ends between two words of a scalar. -/
structure Gap where
  /-- The blanks in reverse, if no line has ended. -/
  blanks : List Char := []
  /-- The first line end. -/
  first : Option Char := none
  /-- The line ends behind the first one, in reverse. -/
  others : List Char := []
  /-- Whether a line has ended. -/
  broken : Bool := false
  deriving Repr, DecidableEq

namespace Gap

/-- A gap that begins with an escaped line end, which stands for nothing. -/
def escaped : Gap :=
  { broken := true }

def reversed (gap : Gap) : List Char :=
  match gap.broken, gap.first with
  | false, _ => gap.blanks
  | true, some '\n' => if gap.others.isEmpty then [' '] else gap.others
  | true, first => gap.others ++ first.toList

def addBlank (gap : Gap) (c : Char) : Gap :=
  if gap.broken then gap else { gap with blanks := c :: gap.blanks }

/-- The gap with a further line end. -/
def addBreak (gap : Gap) (c : Char) : Gap :=
  if gap.broken then { gap with others := c :: gap.others }
  else { first := some c, broken := true }

end Gap

/-- A gap that goes on at the cursor, and the cursor behind it. Left of the column `least` of
    a new line there must be no tab. -/
def takeGap (fuel least : Nat) (gap : Gap) (cursor : Cursor) : Option (Gap × Cursor) :=
  match fuel with
  | 0 => none
  | fuel + 1 =>
    match cursor.rest with
    | [] => some (gap, cursor)
    | c :: _ =>
      if isGap c then
        if gap.broken && c == '\t' && cursor.column < least then none
        else takeGap fuel least (gap.addBlank c) cursor.next
      else
        match cursor.takeBreak? with
        | some (c, below) => takeGap fuel least (gap.addBreak c) below
        | none => some (gap, cursor)

/-- The characters that one character behind a reverse solidus stands for. -/
def escapes : List (Char × Char) :=
  [('0', '\x00'), ('a', '\x07'), ('b', '\x08'), ('t', '\t'), ('\t', '\t'), ('n', '\n'),
   ('v', '\x0b'), ('f', '\x0c'), ('r', '\r'), ('e', '\x1b'), (' ', ' '), ('\x22', '\x22'),
   ('/', '/'), ('\\', '\\'), ('N', '\u0085'), ('_', '\u00a0'), ('L', '\u2028'),
   ('P', '\u2029')]

/-- How many hexadecimal digits follow a letter behind a reverse solidus. -/
def codeLengths : List (Char × Nat) :=
  [('x', 2), ('u', 4), ('U', 8)]

def charOfCode? (digits : List Char) : Option Char := do
  let code ← numeral? 16 digits
  if h : code.isValidChar then some (Char.ofNatAux code h) else none

/-- The character of an escape in double quotes from behind its reverse solidus, and how many
    characters tell it. -/
def takeEscape? (text : List Char) : Option (Char × Nat) :=
  match text with
  | [] => none
  | letter :: rest =>
    match codeLengths.lookup letter with
    | some length =>
      if rest.length < length then none
      else (charOfCode? (rest.take length)).map fun c => (c, length + 1)
    | none => (escapes.lookup letter).map fun c => (c, 1)

/-- The characters of a scalar in quotes up to a blank, a line end or its last quote; with the
    gap that an escaped line end begins. -/
def takeQuotedWord (fuel : Nat) (single : Bool) (taken : List Char) (cursor : Cursor) :
    Option (List Char × Gap × Cursor) :=
  match fuel with
  | 0 => none
  | fuel + 1 =>
    match cursor.rest with
    | [] => some (taken, {}, cursor)
    | c :: rest =>
      if isGapOrBreak c then some (taken, {}, cursor)
      else if single then
        if c == '\x27' then
          if rest.head? == some '\x27' then takeQuotedWord fuel single ('\x27' :: taken) (cursor.move 2)
          else some (taken, {}, cursor)
        else takeQuotedWord fuel single (c :: taken) cursor.next
      else if c == '\x22' then some (taken, {}, cursor)
      else if c == '\\' then
        if beginsBreak rest then some (taken, .escaped, cursor.next.skipBreak)
        else
          match takeEscape? rest with
          | some (found, length) =>
            takeQuotedWord fuel single (found :: taken) (cursor.move (length + 1))
          | none => none
      else takeQuotedWord fuel single (c :: taken) cursor.next

/-- The words of a scalar in quotes with the gaps between them, up to its last quote. -/
def takeQuotedWords (fuel : Nat) (single : Bool) (taken : List Char) (cursor : Cursor) :
    Option (List Char × Cursor) :=
  match fuel with
  | 0 => none
  | fuel + 1 =>
    if cursor.atDocumentMark || cursor.rest.isEmpty then none
    else do
      let (taken, gap, behind) ← takeQuotedWord (fuel + 1) single taken cursor
      if behind.head? == some (if single then '\x27' else '\x22') then
        return (taken.reverse, behind.next)
      else
        let (gap, behind) ← takeGap (fuel + 1) 0 gap behind
        takeQuotedWords fuel single (gap.reversed ++ taken) behind

def takeQuoted? (fuel : Nat) (single : Bool) (cursor : Cursor) : Option (List Char × Cursor) :=
  takeQuotedWords fuel single [] cursor.next

/-- Whether the character separates the items of a flow collection. -/
def isFlowMark (c : Char) : Bool :=
  c == ',' || c == '[' || c == ']' || c == '\x7b' || c == '\x7d'

/-- The characters of a plain scalar up to a blank, a line end or what ends the scalar. In a
    flow collection a colon must not stand before a separator. -/
def takePlainWord (flow : Bool) (taken : List Char) : (text : List Char) → Option (List Char)
  | [] => some taken
  | c :: rest =>
    if isGapOrBreak c then some taken
    else if flow && c == ':' && rest.head?.any (fun next => isFlowMark next || next == '?') then
      none
    else if (c == ':' && beginsBlank rest) || (flow && isFlowMark c) then some taken
    else takePlainWord flow (c :: taken) rest

/-- The words of a plain scalar with the gaps between them, and whether the gap behind the
    last word ends a line. Outside of flow collections each line begins at the column `least`
    or right of it. -/
def takePlainWords (fuel : Nat) (flow : Bool) (least : Nat) (gap : Gap) (taken : List Char)
    (cursor : Cursor) : Option (List Char × Bool × Cursor) :=
  match fuel with
  | 0 => none
  | fuel + 1 =>
    let stop (taken : List Char) (gap : Gap) (cursor : Cursor) :=
      some (taken.reverse, gap.broken, cursor)
    if cursor.atDocumentMark || cursor.head? == some '#' then stop taken gap cursor
    else do
      let word ← takePlainWord flow [] cursor.rest
      let behind := cursor.move word.length
      let taken := if word.isEmpty then taken else word ++ gap.reversed ++ taken
      let gap := if word.isEmpty then gap else {}
      if behind.rest.isEmpty || !beginsBlank behind.rest then stop taken gap behind
      else
        let (gap, behind) ← takeGap (fuel + 1) least gap behind
        if !flow && behind.column < least then stop taken gap behind
        else takePlainWords fuel flow least gap taken behind

/-- The plain scalar at the cursor, and whether the gap behind it ends a line. -/
def takePlain? (fuel : Nat) (flow : Bool) (least : Nat) (cursor : Cursor) :
    Option (List Char × Bool × Cursor) :=
  takePlainWords fuel flow least {} [] cursor

/-- How the line ends at the end of a block scalar are kept: the last one, none, or all. -/
inductive Chomping where
  | clip
  | strip
  | keep
  deriving Repr, DecidableEq

/-- The mark of a way to keep line ends. -/
def Chomping.ofMark? : Option Char → Option Chomping
  | some '+' => some .keep
  | some '-' => some .strip
  | _ => none

/-- How far a block scalar is indented, if its header says so: a digit, but no zero. -/
def takeIndentation? (cursor : Cursor) : Option (Option Nat × Cursor) :=
  match cursor.head? with
  | some c =>
    if c == '0' then none
    else if c.isDigit then some (some (c.toNat - '0'.toNat), cursor.next)
    else some (none, cursor)
  | none => some (none, cursor)

/-- How the end of a block scalar is kept and how far it is indented, in either order. -/
def takeMarks? (cursor : Cursor) : Option (Chomping × Option Nat × Cursor) :=
  match Chomping.ofMark? cursor.head? with
  | some chomping =>
    (takeIndentation? cursor.next).map fun (stated, behind) => (chomping, stated, behind)
  | none =>
    (takeIndentation? cursor).map fun (stated, behind) =>
      match stated, Chomping.ofMark? behind.head? with
      | some _, some chomping => (chomping, stated, behind.next)
      | _, _ => (.clip, stated, behind)

/-- The header of a block scalar from behind its first character: how its end is kept and how
    far it is indented; with the cursor on the line below. -/
def takeHeader? (cursor : Cursor) : Option (Chomping × Option Nat × Cursor) := do
  let (chomping, stated, behind) ← takeMarks? cursor
  let behind := behind.skipWhile isGap
  let lineEnd := if behind.head? == some '#' then behind.toLineEnd else behind
  if endsLine lineEnd.rest then return (chomping, stated, lineEnd.skipBreak) else none

/-- The blank lines of a block scalar and the indentation behind them: the line ends in
    reverse, the widest indentation, and the cursor behind it. `indent` is the column of the
    text, if it is known; left of it there must be no tab. -/
def takeBlankLines (fuel : Nat) (indent : Option Nat) (widest : Nat) (breaks : List Char)
    (cursor : Cursor) : Option (List Char × Nat × Cursor) :=
  match fuel with
  | 0 => none
  | fuel + 1 =>
    let spaces := (cursor.rest.takeWhile (· == ' ')).length
    let start := cursor.move (indent.elim spaces fun indent => min spaces (indent - cursor.column))
    let widest := max widest start.column
    if indent.all (start.column < ·) && start.head? == some '\t' then none
    else
      match start.takeBreak? with
      | some (c, below) => takeBlankLines fuel indent widest (c :: breaks) below
      | none => some (breaks, widest, start)

/-- The lines of a block scalar that begin at the column `indent`. `pending` is the line end
    before the cursor and `breaks` those of the blank lines behind it, in reverse; `indented`
    says that the line before began with a blank. -/
def takeBlockLines (fuel : Nat) (folded : Bool) (indent : Nat) (indented : Bool)
    (pending : Option Char) (breaks taken : List Char) (cursor : Cursor) :
    Option (List Char × Option Char × List Char × Cursor) :=
  match fuel with
  | 0 => none
  | fuel + 1 =>
    if cursor.column ≠ indent || cursor.rest.isEmpty then some (taken, pending, breaks, cursor)
    else do
      let deeper := cursor.head?.any isGap
      let joint :=
        if folded && pending == some '\n' && !indented && !deeper then
          if breaks.isEmpty then [' '] else []
        else pending.toList
      let line := cursor.rest.takeWhile fun c => !isBreak c
      let behind := cursor.move line.length
      let taken := line.reverse ++ breaks ++ joint ++ taken
      let (pending, below) := match behind.takeBreak? with
        | some (c, below) => (some c, below)
        | none => (none, behind)
      let (breaks, _, start) ← takeBlankLines (fuel + 1) (some indent) 0 [] below
      takeBlockLines fuel folded indent deeper pending breaks taken start

/-- The literal or folded block scalar at the cursor. Its text stands at the column `least` or
    right of it; a stated indentation counts from the column left of that. -/
def takeBlock? (fuel : Nat) (folded : Bool) (least : Nat) (cursor : Cursor) :
    Option (List Char × Cursor) := do
  let (chomping, stated, body) ← takeHeader? cursor.next
  let known := stated.map fun count => least - 1 + count
  let (breaks, widest, start) ← takeBlankLines fuel known 0 [] body
  let indent := known.getD (max widest (max least 1))
  let (taken, pending, breaks, behind) ←
    takeBlockLines fuel folded indent false none breaks [] start
  let ending := match chomping with
    | .strip => []
    | .clip => pending.toList
    | .keep => breaks ++ pending.toList
  return ((ending ++ taken).reverse, behind)

end Stencil.Yaml
