import Stencil.Yaml.Basic
import Stencil.Yaml.Character

/-! # Printing YAML

Texts are written as plain scalars where they read back as texts, in quotes elsewhere, and
with several lines as literal blocks. The quotes are double ones where a character has to
be escaped.
-/

namespace Stencil

namespace Yaml

/-- Whether the text as a plain scalar would be read as something else, or be taken for a
    number by its digits. -/
def isAmbiguous (text : List Char) : Bool :=
  text.isEmpty || isNull text || (truth? text).isSome || isNumber text || isPaddedNumeral text

/-- Characters that begin something else than a plain scalar. -/
def isOpening (c : Char) : Bool :=
  "#,[]\x7b\x7d&*!|>\x27\x22%@\x60".toList.contains c

/-- Whether a relation holds between two characters that follow each other. -/
def anyNeighbours (text : List Char) (relation : Char → Char → Bool) : Bool :=
  (text.zip (text.drop 1)).any fun (c, next) => relation c next

/-- Whether the text has an indicator that a plain scalar in a block must not have: at its
    start, a colon before a blank, or a number sign behind one. -/
def hasIndicator (text : List Char) : Bool :=
  let inner := text.getLast? == some ':' || anyNeighbours text fun c next =>
    (c == ':' && isGapOrBreak next) || (isGapOrBreak c && next == '#')
  let start := match text with
    | [] => false
    | c :: rest =>
      isOpening c || ((c == '?' || c == '-') && beginsBlank rest) ||
        text.take 3 = ['-', '-', '-'] || text.take 3 = ['.', '.', '.']
  start || inner

/-- Whether characters have to be escaped, or blanks would be lost at a line end. -/
def needsEscapes (text : List Char) : Bool :=
  !text.all isPrintable || anyNeighbours text fun c next => c == ' ' && isBreak next

def canBePlain (text : List Char) : Bool :=
  !hasIndicator text && !text.any isBreak && !needsEscapes text &&
    text.head? ≠ some ' ' && text.getLast? ≠ some ' '

def canBeSingleQuoted (text : List Char) : Bool :=
  !needsEscapes text && !anyNeighbours text fun c next => isBreak c && next == ' '

def canBeLiteral (text : List Char) : Bool :=
  !needsEscapes text && text.getLast? ≠ some ' '

/-- The text with an indentation before each line that is not empty; `fresh` says that a line
    begins here. -/
def indentLines (indent : Nat) (fresh : Bool) : (text : List Char) → List Char
  | [] => []
  | c :: rest =>
    if isBreak c then c :: indentLines indent true rest
    else
      (if fresh then List.replicate indent ' ' else []) ++ c :: indentLines indent false rest

/-- The text in single quotes; its lines stand at a column. -/
def singleQuoted (indent : Nat) (text : List Char) : List Char :=
  let behind := if text.getLast?.any isBreak then List.replicate indent ' ' else []
  let lines := indentLines indent false text
  '\x27' :: Text.replaceChar '\x27' ['\x27', '\x27'] lines ++ behind ++ ['\x27']

/-- Letters that stand for a character behind a reverse solidus. -/
def escapeLetters : List (Char × Char) :=
  [('\x00', '0'), ('\x07', 'a'), ('\x08', 'b'), ('\t', 't'), ('\n', 'n'), ('\x0b', 'v'),
   ('\x0c', 'f'), ('\r', 'r'), ('\x1b', 'e'), ('\x22', '\x22'), ('\\', '\\'), ('\u0085', 'N'),
   ('\u00a0', '_'), ('\u2028', 'L'), ('\u2029', 'P')]

/-- A code in a number of hexadecimal digits. -/
def codeDigits (count code : Nat) : List Char :=
  let digits := (Nat.toDigits 16 code).map Char.toUpper
  List.replicate (count - digits.length) '0' ++ digits

def escapeQuoted (c : Char) : List Char :=
  if isPrintable c && !isBreak c && c != '\x22' && c != '\\' then [c]
  else
    match escapeLetters.lookup c with
    | some letter => ['\\', letter]
    | none =>
      if c.toNat < 0x100 then '\\' :: 'x' :: codeDigits 2 c.toNat
      else if c.toNat < 0x10000 then '\\' :: 'u' :: codeDigits 4 c.toNat
      else '\\' :: 'U' :: codeDigits 8 c.toNat

def doubleQuoted (text : List Char) : List Char :=
  '\x22' :: text.flatMap escapeQuoted ++ ['\x22']

/-- The header and the lines of a literal block that is indented by some columns. -/
def literal (indent : Nat) (text : List Char) : List Char :=
  let indentMark := if text.head?.any isGapOrBreak then ['2'] else []
  let endMark := match text.reverse with
    | [c] => if isBreak c then ['+'] else ['-']
    | c :: before :: _ => if !isBreak c then ['-'] else if isBreak before then ['+'] else []
    | [] => ['-']
  '|' :: indentMark ++ endMark ++ '\n' :: indentLines indent true text

/-- A text as a scalar in a block whose lines are indented by some columns. -/
def scalar (indent : Nat) (text : List Char) : List Char :=
  if text.contains '\n' then
    if canBeLiteral text then literal indent text else doubleQuoted text
  else if !isAmbiguous text && canBePlain text then text
  else if canBeSingleQuoted text then singleQuoted indent text
  else doubleQuoted text

/-- A scalar with the end of its line, which it may have already. -/
def scalarLine (indent : Nat) (text : List Char) : List Char :=
  let written := scalar indent text
  if written.getLast?.any isBreak then written else written ++ ['\n']

end Yaml

end Stencil
