import Stencil.Json.Basic
import Stencil.Text.Basic

/-! # Reading JSON

A text is one value with blanks around it. Values are nested at most 127 deep. Of equal
keys in an object the last one counts. An escape of half a surrogate pair is refused, and
so is a number beyond the range of 64 bit floating point.

A number that is not whole is read in floating point arithmetic: as many leading digits as
fit 64 bits form a whole number, which is scaled by a power of ten.
-/

namespace Stencil

namespace JsonNumber

def greatestWhole : Nat := 2 ^ 64 - 1

/-- A number as it is spelled: its sign, the digits before and after the point, and the
    exponent of ten. -/
structure Numeral where
  negative : Bool
  whole : List Char
  /-- The digits after the point; `none` when there is no point. -/
  fraction : Option (List Char)
  exponent : Option Int
  deriving Repr, DecidableEq

def digitValue (c : Char) : Nat :=
  c.toNat - '0'.toNat

/-- Append digits to a whole number as long as it fits 64 bits; what is left begins with
    the first digit that does not fit. -/
def appendDigits (value : Nat) : List Char → Nat × List Char
  | [] => (value, [])
  | d :: rest =>
    let next := value * 10 + digitValue d
    if greatestWhole < next then (value, d :: rest) else appendDigits next rest

/-- The number that a numeral spells; `none` if it is out of range. -/
def ofNumeral? (numeral : Numeral) : Option JsonNumber :=
  let signed (value : Binary64) : JsonNumber :=
    .float (if numeral.negative then value.neg else value)
  let (leading, dropped) := appendDigits 0 numeral.whole
  let scaled (digits : Nat) (exponent : Int) : Option JsonNumber :=
    (Binary64.ofNat? digits).bind fun value => (value.scaleByTen? exponent).map signed
  match numeral.fraction, numeral.exponent with
  | none, none =>
    if dropped ≠ [] then scaled leading dropped.length
    else if !numeral.negative then some (.whole leading)
    else if leading ≠ 0 ∧ leading ≤ 2 ^ 63 then some (.whole (-(leading : Int)))
    else scaled leading 0
  | fraction, exponent =>
    let fraction := fraction.getD []
    let (digits, ignored) := appendDigits leading fraction
    let places : Int := fraction.length - ignored.length
    scaled digits (dropped.length - places + exponent.getD 0)

end JsonNumber

namespace Json

/-- The four characters between the tokens of a text. -/
def isSpace (c : Char) : Bool :=
  c == ' ' || c == '\n' || c == '\t' || c == '\r'

def skipSpace (text : List Char) : List Char :=
  text.dropWhile isSpace

def takeDigits (text : List Char) : List Char × List Char :=
  (text.takeWhile Char.isDigit, text.dropWhile Char.isDigit)

/-- The part of a numeral after a point, at least one digit. -/
def readFraction : List Char → Option (Option (List Char) × List Char)
  | '.' :: rest =>
    match takeDigits rest with
    | ([], _) => none
    | (digits, after) => some (some digits, after)
  | text => some (none, text)

/-- The exponent of a numeral, at least one digit. -/
def readExponent : List Char → Option (Option Int × List Char)
  | c :: rest =>
    if c = 'e' ∨ c = 'E' then
      let (negative, unsigned) := match rest with
        | '+' :: after => (false, after)
        | '-' :: after => (true, after)
        | _ => (false, rest)
      match takeDigits unsigned with
      | ([], _) => none
      | (digits, after) =>
        let value : Nat := digits.foldl (fun n d => n * 10 + JsonNumber.digitValue d) 0
        some (some (if negative then -(value : Int) else value), after)
    else some (none, c :: rest)
  | [] => some (none, [])

/-- A number. The digits before the point do not begin with a zero unless it is alone. -/
def readNumber (text : List Char) : Option (Json × List Char) :=
  let (negative, unsigned) := match text with
    | '-' :: rest => (true, rest)
    | _ => (false, text)
  match takeDigits unsigned with
  | ([], _) => none
  | (whole, afterWhole) =>
    if whole.head? = some '0' ∧ whole.length ≠ 1 then none
    else do
      let (fraction, afterFraction) ← readFraction afterWhole
      let (exponent, rest) ← readExponent afterFraction
      let value ← JsonNumber.ofNumeral? { negative, whole, fraction, exponent }
      return (number value, rest)

def hexValue? (c : Char) : Option Nat :=
  if '0' ≤ c ∧ c ≤ '9' then some (c.toNat - '0'.toNat)
  else if 'a' ≤ c ∧ c ≤ 'f' then some (c.toNat - 'a'.toNat + 10)
  else if 'A' ≤ c ∧ c ≤ 'F' then some (c.toNat - 'A'.toNat + 10)
  else none

def readHex4 : List Char → Option (Nat × List Char)
  | a :: b :: c :: d :: rest => do
    let a ← hexValue? a
    let b ← hexValue? b
    let c ← hexValue? c
    let d ← hexValue? d
    return (((a * 16 + b) * 16 + c) * 16 + d, rest)
  | _ => none

/-- The character of a numeric escape; a pair of surrogates makes one character. -/
def readUnicodeEscape (text : List Char) : Option (Char × List Char) := do
  let (unit, rest) ← readHex4 text
  if 0xD800 ≤ unit ∧ unit < 0xDC00 then
    match rest with
    | '\\' :: 'u' :: second => do
      let (low, rest) ← readHex4 second
      if 0xDC00 ≤ low ∧ low < 0xE000 then
        return (Char.ofNat (0x10000 + (unit - 0xD800) * 0x400 + (low - 0xDC00)), rest)
      else none
    | _ => none
  else if 0xDC00 ≤ unit ∧ unit < 0xE000 then none
  else return (Char.ofNat unit, rest)

/-- The character that an escape stands for, behind the reverse solidus. -/
def readEscape : List Char → Option (Char × List Char)
  | '\x22' :: rest => some ('\x22', rest)
  | '\\' :: rest => some ('\\', rest)
  | '/' :: rest => some ('/', rest)
  | 'b' :: rest => some ('\x08', rest)
  | 'f' :: rest => some ('\x0c', rest)
  | 'n' :: rest => some ('\n', rest)
  | 'r' :: rest => some ('\r', rest)
  | 't' :: rest => some ('\t', rest)
  | 'u' :: rest => readUnicodeEscape rest
  | _ => none

/-- The characters of a string up to its closing quote. `fuel` bounds their number and
    `read` holds those read so far, the last one first. -/
def readChars (fuel : Nat) (read : List Char) (text : List Char) : Option (String × List Char) :=
  match fuel with
  | 0 => none
  | fuel + 1 =>
    match text with
    | [] => none
    | '\x22' :: rest => some (String.ofList read.reverse, rest)
    | '\\' :: rest => do
      let (c, rest) ← readEscape rest
      readChars fuel (c :: read) rest
    | c :: rest => if c.toNat < 0x20 then none else readChars fuel (c :: read) rest

def readString (fuel : Nat) : List Char → Option (String × List Char)
  | '\x22' :: rest => readChars fuel [] rest
  | _ => none

def readItems (readItem : List Char → Option (Json × List Char)) (fuel : Nat) (read : List Json)
    (text : List Char) : Option (Json × List Char) :=
  match fuel with
  | 0 => none
  | fuel + 1 => do
    let (item, rest) ← readItem text
    match skipSpace rest with
    | ',' :: rest => readItems readItem fuel (item :: read) rest
    | ']' :: rest => some (array (item :: read).reverse, rest)
    | _ => none

def readFields (readItem : List Char → Option (Json × List Char)) (fuel : Nat) (read : List (String × Json))
    (text : List Char) : Option (Json × List Char) :=
  match fuel with
  | 0 => none
  | fuel + 1 => do
    let (key, rest) ← readString fuel (skipSpace text)
    match skipSpace rest with
    | ':' :: rest =>
      let (value, rest) ← readItem rest
      let read := insertField key value read
      match skipSpace rest with
      | ',' :: rest => readFields readItem fuel read rest
      | '}' :: rest => some (object read, rest)
      | _ => none
    | _ => none

/-- A value that may hold values `depth` deep, with blanks before it. `fuel` is at least
    the length of the text. -/
def readValue (depth fuel : Nat) (text : List Char) : Option (Json × List Char) :=
  match skipSpace text with
  | 'n' :: 'u' :: 'l' :: 'l' :: rest => some (null, rest)
  | 't' :: 'r' :: 'u' :: 'e' :: rest => some (bool true, rest)
  | 'f' :: 'a' :: 'l' :: 's' :: 'e' :: rest => some (bool false, rest)
  | '\x22' :: rest => (readChars fuel [] rest).map fun (value, rest) => (string value, rest)
  | '[' :: rest =>
    match depth with
    | 0 => none
    | depth + 1 =>
      match skipSpace rest with
      | ']' :: rest => some (array [], rest)
      | rest => readItems (readValue depth fuel) fuel [] rest
  | '\x7b' :: rest =>
    match depth with
    | 0 => none
    | depth + 1 =>
      match skipSpace rest with
      | '\x7d' :: rest => some (object [], rest)
      | rest => readFields (readValue depth fuel) fuel [] rest
  | text => readNumber text

def greatestDepth : Nat := 127

/-- The value that a text spells. -/
def read? (text : List Char) : Option Json := do
  let (value, rest) ← readValue greatestDepth (text.length + 1) text
  if (skipSpace rest).isEmpty then return value else none

end Json

end Stencil
