import Stencil.Text.Utf8
import Stencil.Zip.Checksum
import Stencil.Zip.Record

/-! # Extra fields

The record of an entry may have extra fields: a number that tells what is in a field, its
length, and so many bytes. They widen numbers of the record, spell its name and comment in
UTF-8, or tell how the entry is encrypted. Times with finer steps are checked only, and other
fields are skipped.

Reading stops where the bytes end, even within a field, and what was read up to there counts.
A field that contradicts itself makes the directory unreadable.
-/

namespace Stencil

namespace Zip

/-! ## Names of entries

A flag of an entry tells whether its name is UTF-8. Without it, a name is spelled in the
code page of the first personal computers, whose lower half is ASCII.
-/

/-- The upper half of code page 437, from 128 on. -/
def codePageUpper : List Char :=
  ("ÇüéâäàåçêëèïîìÄÅÉæÆôöòûùÿÖÜ¢£¥₧ƒáíóúñÑªº¿⌐¬½¼¡«»░▒▓│┤╡╢╖╕╣║╗╝╜╛┐" ++
    "└┴┬├─┼╞╟╚╔╩╦╠═╬╧╨╤╥╙╘╒╓╫╪┘┌█▄▌▐▀αßΓπΣσµτΦΘΩδ∞φε∩≡±≥≤⌠⌡÷≈°∙·√ⁿ²■\u00a0").toList

def codePageChar (byte : UInt8) : Char :=
  if byte.toNat < 128 then Char.ofNat byte.toNat
  else (codePageUpper[byte.toNat - 128]?).getD Text.replacement

def decodeName (utf8 : Bool) (bytes : ByteArray) : String :=
  String.ofList (if utf8 then Text.decodeLossy bytes else bytes.toList.map codePageChar)

/-! ## Fields -/

/-- What a record of the directory tells of its entry, as far as extra fields can change
    it. -/
structure Listing where
  /-- The name as it is spelled in the record. -/
  plainName : ByteArray
  name : String
  comment : String
  method : Nat
  size : Nat
  packedSize : Nat
  offset : Nat
  /-- Whether a field tells how the entry is encrypted. -/
  isSealed : Bool

namespace ExtraField

/-- Why reading extra fields stops. -/
inductive Halt where
  /-- There are no more bytes. -/
  | exhausted
  /-- A field contradicts itself. -/
  | invalid
  deriving Repr, DecidableEq

/-- What is told so far, and the bytes that are left. -/
structure Progress where
  listing : Listing
  rest : List UInt8

/-- Reading extra fields. What was told before reading stops is kept. -/
abbrev Reader := ExceptT Halt (StateM Progress)

def takeBytes (count : Nat) : Reader (List UInt8) := do
  let { listing, rest } ← get
  if rest.length < count then throw .exhausted
  set ({ listing, rest := rest.drop count } : Progress)
  return rest.take count

def takeNumber (width : Nat) : Reader Nat :=
  return decode (← takeBytes width)

def tell (change : Listing → Listing) : Reader Unit :=
  modify fun progress => { progress with listing := change progress.listing }

def require (condition : Bool) : Reader Unit :=
  if condition then pure () else throw .invalid

/-- A wide number, if the field has all of them or `stated` tells that it is found here. The
    number of bytes that it took. -/
def readWideNumber (length stated : Nat) (change : Nat → Listing → Listing) : Reader Nat := do
  if 24 ≤ length ∨ stated = wide32 then
    let number ← takeNumber 8
    tell (change number)
    return 8
  else return 0

/-- The field with wide numbers: the sizes and the offset. -/
def readWide (length : Nat) : Reader Unit := do
  let { listing, .. } ← get
  let first ← readWideNumber length listing.size fun number listing =>
    { listing with size := number }
  let second ← readWideNumber length listing.packedSize fun number listing =>
    { listing with packedSize := number }
  let third ← readWideNumber length listing.offset fun number listing =>
    { listing with offset := number }
  require (first + second + third ≤ length)
  let _ ← takeBytes (length - (first + second + third))

/-- The field with times in steps of 100 nanoseconds. -/
def readFineTimes (length : Nat) : Reader Unit := do
  require (length = 32)
  let _ ← takeNumber 4
  let tag ← takeNumber 2
  require (tag = 1)
  let size ← takeNumber 2
  require (size = 24)
  let _ ← takeBytes 24

/-- The field with up to three times in seconds, whose flags tell which are there. -/
def readTimes (length : Nat) : Reader Unit := do
  let flags ← takeNumber 1
  let present := (List.range 8).countP fun bit => flags / 2 ^ bit % 2 = 1
  require (length = 5 ∨ length = 1 + 4 * present)
  require (flags < 8)
  let _ ← takeBytes (if length = 5 then 4 else length - 1)

/-- The field that tells how the entry is encrypted, and how it was packed before. -/
def readSeal (length : Nat) : Reader Unit := do
  require (length = 7)
  let version ← takeNumber 2
  let vendor ← takeNumber 2
  let strength ← takeNumber 1
  let method ← takeNumber 2
  require (vendor = 0x4541 && (version = 1 || version = 2) && 1 ≤ strength && strength ≤ 3)
  tell fun listing => { listing with method, isSealed := true }

/-- A text in UTF-8 that belongs to some bytes, which it repeats the checksum of. -/
def readText (length : Nat) (owner : ByteArray) : Reader (ByteArray × String) := do
  let _ ← takeNumber 1
  let stated ← takeNumber 4
  require (5 ≤ length)
  let bytes := (← takeBytes (length - 5)).toByteArray
  require (stated = (checksum owner).toNat)
  match String.fromUTF8? bytes with
  | some text => return (bytes, text)
  | none => throw .invalid

/-- The content of a field of the given kind and length. -/
def readContent (kind length : Nat) : Reader Unit := do
  match kind with
  | 0x0001 => readWide length
  | 0x000A => readFineTimes length
  | 0x5455 => readTimes length
  | 0x6375 =>
    let (_, comment) ← readText length (← get).listing.comment.toUTF8
    tell fun listing => { listing with comment }
  | 0x7075 =>
    let (plainName, name) ← readText length (← get).listing.plainName
    tell fun listing => { listing with plainName, name }
  | 0x9901 => readSeal length
  | _ =>
    let _ ← takeBytes length

def readAll : (fuel : Nat) → Reader Unit
  | 0 => throw .exhausted
  | fuel + 1 => do
    let kind ← takeNumber 2
    let length ← takeNumber 2
    readContent kind length
    readAll fuel

end ExtraField

/-- What is told with the extra fields; `none` if one of them is invalid, or if one is missing
    that tells how the entry is encrypted. -/
def Listing.extend? (listing : Listing) (extra : List UInt8) : Option Listing :=
  match (ExtraField.readAll (extra.length + 1)).run { listing, rest := extra } with
  | (.error .invalid, _) => none
  | (_, { listing, .. }) =>
    if listing.method = sealedMethod && !listing.isSealed then none else some listing

end Zip

end Stencil
