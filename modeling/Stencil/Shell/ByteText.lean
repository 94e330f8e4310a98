import Stencil.Text.Basic
import Stencil.Text.Utf8

/-! # Text as bytes

Scripts and their utilities take text byte by byte: a script may cut a character in two, and
what it prints need not be text at all. Such text is written with one character below 256
for each byte.
-/

namespace Stencil.Shell

/-- A text with one character for each byte. -/
abbrev ByteText := List Char

namespace ByteText

def ofBytes (bytes : ByteArray) : ByteText :=
  bytes.toList.map fun byte => Char.ofNat byte.toNat

def toBytes (text : ByteText) : ByteArray :=
  text.foldl (fun bytes c => bytes.push c.toUInt8) (ByteArray.emptyWithCapacity text.length)

/-- The bytes of a string in UTF-8, as a text. -/
def ofString (string : String) : ByteText :=
  ofBytes string.toUTF8

/-- The characters that the bytes of a text encode. -/
def decode (text : ByteText) : List Char :=
  if text.all fun c => c.toNat < 128 then text else Text.decodeLossy (toBytes text)

def toString (text : ByteText) : String :=
  String.ofList (decode text)

/-- The lines of a text, without their ends; text behind the last end is a line, too. -/
def lines (text : ByteText) : List ByteText :=
  match text with
  | [] => []
  | _ =>
    let pieces := Text.splitAll '\n' text
    if pieces.getLast? = some [] then pieces.dropLast else pieces

/-- Lines as a text, each with its end. -/
def unlines (lines : List ByteText) : ByteText :=
  lines.flatMap fun line => line ++ ['\n']

/-- A blank on a line. -/
def isGap (c : Char) : Bool :=
  c == ' ' || c == '\t'

def isSpace (c : Char) : Bool :=
  c == ' ' || ('\t' ≤ c && c ≤ '\r')

def words (text : ByteText) : List ByteText :=
  let step (c : Char) (state : List ByteText × Bool) :=
    if isSpace c then (state.1, false)
    else match state with
      | (word :: rest, true) => ((c :: word) :: rest, true)
      | (rest, _) => ([c] :: rest, true)
  (text.foldr step ([], false)).1

def ofNat (number : Nat) : ByteText :=
  (Nat.repr number).toList

def ofInt (number : Int) : ByteText :=
  if number < 0 then '-' :: ofNat number.natAbs else ofNat number.natAbs

/-- Whether the first text comes before the second one, byte by byte, or is the same. -/
def isAtMost : ByteText → ByteText → Bool
  | [], _ => true
  | _, [] => false
  | c :: rest, d :: other => if c = d then isAtMost rest other else c < d

end ByteText

end Stencil.Shell
