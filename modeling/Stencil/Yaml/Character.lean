/-! # Characters of YAML

Which characters a stream may hold, which of them end a line, and the place of a reader in
the text.
-/

namespace Stencil.Yaml

def isBreak (c : Char) : Bool :=
  c == '\n' || c == '\r' || c == '\u0085' || c == '\u2028' || c == '\u2029'

/-- A blank on a line. -/
def isGap (c : Char) : Bool :=
  c == ' ' || c == '\t'

/-- Whether the character is a blank or ends a line. -/
def isGapOrBreak (c : Char) : Bool :=
  isGap c || isBreak c

/-- Characters of the names of anchors and handles. -/
def isNameChar (c : Char) : Bool :=
  c.isAlphanum || c == '_' || c == '-'

/-- Whether a stream may hold the character. -/
def isAllowed (c : Char) : Bool :=
  c == '\t' || c == '\n' || c == '\r' || (' ' ≤ c && c ≤ '~') || c == '\u0085' ||
    ('\u00a0' ≤ c && c ≤ '\ufffd') || 0x10000 ≤ c.toNat

/-- Characters that stand in a scalar without an escape. -/
def isPrintable (c : Char) : Bool :=
  c == '\n' || (' ' ≤ c && c ≤ '~') || ('\u00a0' ≤ c && c ≤ '\ufffd' && c != '\ufeff') ||
    0x10000 ≤ c.toNat

/-- Whether the text is at its end, or begins with a blank or the end of a line. -/
def beginsBlank (text : List Char) : Bool :=
  text.head?.all isGapOrBreak

/-- Whether the text begins with a line end. -/
def beginsBreak (text : List Char) : Bool :=
  text.head?.any isBreak

/-- Whether the text is at its end or begins with the end of a line. -/
def endsLine (text : List Char) : Bool :=
  text.head?.all isBreak

/-- A place in a text: how many bytes and lines precede it, how many characters precede it on
    its line, and what follows it. -/
structure Cursor where
  offset : Nat := 0
  line : Nat := 0
  column : Nat := 0
  rest : List Char
  deriving Repr, DecidableEq

namespace Cursor

def head? (cursor : Cursor) : Option Char :=
  cursor.rest.head?

def next (cursor : Cursor) : Cursor :=
  match cursor.rest with
  | [] => cursor
  | c :: rest =>
    { cursor with offset := cursor.offset + c.utf8Size, column := cursor.column + 1, rest }

def move (cursor : Cursor) (count : Nat) : Cursor :=
  let passed := cursor.rest.take count
  { cursor with
    offset := passed.foldl (fun offset c => offset + c.utf8Size) cursor.offset
    column := cursor.column + passed.length
    rest := cursor.rest.drop count }

def skipWhile (cursor : Cursor) (belongs : Char → Bool) : Cursor :=
  cursor.move (cursor.rest.takeWhile belongs).length

def toLineEnd (cursor : Cursor) : Cursor :=
  cursor.skipWhile fun c => !isBreak c

/-- The text of the line end at the cursor, and the cursor on the next line. A return and a
    newline together end one line. All line ends mean a newline but the separators of lines
    and of paragraphs, which stay. -/
def takeBreak? (cursor : Cursor) : Option (Char × Cursor) :=
  let below (c : Char) (size : Nat) (rest : List Char) :=
    some (c, { offset := cursor.offset + size, line := cursor.line + 1, column := 0, rest })
  match cursor.rest with
  | '\r' :: '\n' :: rest => below '\n' 2 rest
  | c :: rest =>
    if c == '\u2028' || c == '\u2029' then below c c.utf8Size rest
    else if isBreak c then below '\n' c.utf8Size rest
    else none
  | [] => none

def skipBreak (cursor : Cursor) : Cursor :=
  match cursor.takeBreak? with
  | some (_, below) => below
  | none => cursor

/-- Whether a mark of three equal characters stands alone at the start of the line. -/
def atMark (cursor : Cursor) (mark : Char) : Bool :=
  cursor.column == 0 && cursor.rest.take 3 == [mark, mark, mark] &&
    beginsBlank (cursor.rest.drop 3)

/-- Whether a document begins or ends at the cursor. -/
def atDocumentMark (cursor : Cursor) : Bool :=
  cursor.atMark '-' || cursor.atMark '.'

end Cursor

end Stencil.Yaml
