import Stencil.Host.Name
import Stencil.Text.Utf8

/-! # Hosts of addresses

The host of an address is a name, four bytes or fewer numbers that spell them, or eight
groups of 16 bits in brackets. A name whose last label is a number must be numeric as a
whole.
-/

namespace Stencil.Host

open Stencil.Text

/-- The bytes of a text in which a percent sign and two hexadecimal digits stand for one
    byte. -/
def percentDecode : List Char → List UInt8
  | '%' :: high :: low :: rest =>
    match hexValue? high, hexValue? low with
    | some a, some b => UInt8.ofNat (a * 16 + b) :: percentDecode rest
    | _, _ => '%'.toUInt8 :: percentDecode (high :: low :: rest)
  | c :: rest => (String.singleton c).toUTF8.toList ++ percentDecode rest
  | [] => []

/-- The number that a part of a numeric host spells: hexadecimal, octal or decimal by how it
    begins. -/
def hostNumber? (part : List Char) : Option Nat :=
  match part with
  | '0' :: 'x' :: digits | '0' :: 'X' :: digits => numeral? 16 digits
  | '0' :: digits => numeral? 8 digits
  | [] => none
  | digits => numeral? 10 digits

def hostParts (host : List Char) : List (List Char) :=
  let parts := Text.splitAll '.' host
  if parts.getLast? = some [] then parts.dropLast else parts

/-- Whether the last part of a host is a number, so that all of it must be numeric. -/
def endsInNumber (host : List Char) : Bool :=
  match (hostParts host).getLast? with
  | none => false
  | some part =>
    (!part.isEmpty && part.all Char.isDigit) ||
      match part with
      | '0' :: 'x' :: digits | '0' :: 'X' :: digits => (numeral? 16 digits).isSome
      | _ => false

/-- Whether a host is one of four numbers or fewer, of which the last fills the bytes that
    are left. -/
def isNumericHost (host : List Char) : Bool :=
  match (hostParts host).mapM hostNumber? with
  | none => false
  | some numbers =>
    numbers.length ≤ 4 && numbers.dropLast.all (· ≤ 255) &&
      numbers.getLast?.any (· < 256 ^ (5 - numbers.length))

def isGroup (text : List Char) : Bool :=
  !text.isEmpty && text.length ≤ 4 && (numeral? 16 text).isSome

def isDottedBytes (text : List Char) : Bool :=
  let parts := Text.splitAll '.' text
  parts.length = 4 && parts.all fun part =>
    (part = ['0'] || part.head? != some '0') && (Text.decimal? part).any (· ≤ 255)

/-- How many groups of 16 bits the text between colons is; `none` if it is no groups. The
    last one may be written as four bytes. -/
def groupCount? (text : List Char) (last : Bool) : Option Nat :=
  if text.isEmpty then some 0
  else
    let groups := Text.splitAll ':' text
    if groups.all isGroup then some groups.length
    else if last && groups.dropLast.all isGroup && groups.getLast?.any isDottedBytes then
      some (groups.length + 1)
    else none

/-- Whether the text is eight groups, or fewer with one double colon for those that are
    left out. -/
def isBracketedHost (text : List Char) : Bool :=
  match Text.cutFirst? [':', ':'] text with
  | none => groupCount? text true = some 8
  | some (before, after) =>
    match groupCount? before false, groupCount? after true with
    | some first, some second => first + second ≤ 7
    | _, _ => false

def isHost (host : List Char) : Bool :=
  match host with
  | '[' :: rest =>
    match Text.dropTail? [']'] rest with
    | some inner => isBracketedHost inner
    | none => false
  | _ =>
    match nameOf? (Text.decodeLossy (percentDecode host).toByteArray) with
    | none => false
    | some name => !name.isEmpty && (!endsInNumber name || isNumericHost name)

end Stencil.Host
