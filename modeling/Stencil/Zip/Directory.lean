import Std.Data.HashMap
import Stencil.Zip.EndRecord
import Stencil.Zip.Entry
import Stencil.Zip.ExtraField

/-! # Directories of containers

The directory of a container has one record per entry. An end record leads to it, the last
one that leads to a directory of which all records can be read.
-/

namespace Stencil

namespace Zip

/-- Where the packed bytes begin that the local record at a place stands before; `none` if no
    local record stands there. -/
def packedStart? (bytes : ByteArray) (place : Nat) : Option Nat := do
  if !signatureAt bytes place localSignature then none
  let name ← field? bytes (place + 26) 2
  let extra ← field? bytes (place + 28) 2
  return place + localSize + name + extra

/-- The entry whose record stands at a place of the directory, and the place behind the
    record. The entry must begin before the directory. -/
def readRecord? (bytes : ByteArray) (directory : DirectoryPlace) (place : Nat) :
    Option (Entry × Nat) := do
  if !signatureAt bytes place recordSignature then none
  let flags ← field? bytes (place + 8) 2
  let method ← field? bytes (place + 10) 2
  let time ← field? bytes (place + 12) 2
  let date ← field? bytes (place + 14) 2
  let checksum ← field? bytes (place + 16) 4
  let packedSize ← field? bytes (place + 20) 4
  let size ← field? bytes (place + 24) 4
  let nameLength ← field? bytes (place + 28) 2
  let extraLength ← field? bytes (place + 30) 2
  let commentLength ← field? bytes (place + 32) 2
  let offset ← field? bytes (place + 42) 4
  let extraPlace := place + recordSize + nameLength
  let plainName ← slice? bytes (place + recordSize) nameLength
  let extra ← slice? bytes extraPlace extraLength
  let comment ← slice? bytes (extraPlace + extraLength) commentLength
  let utf8 := hasFlag flags utf8Flag
  let listing : Listing :=
    { plainName, name := decodeName utf8 plainName, comment := decodeName utf8 comment
      method, size, packedSize, offset, isSealed := false }
  let listing ← listing.extend? extra.toList
  let start := directory.base + listing.offset
  if directory.start ≤ start then none
  let packed := packedStart? bytes start
  let entry : Entry :=
    { name := listing.name, method := Method.ofCode listing.method
      encrypted := hasFlag flags encryptedFlag || listing.isSealed, lost := packed.isNone
      modified := { date, time }, checksum, size := listing.size
      packedSize := listing.packedSize
      packed := match packed with
        | some start => bytes.extract start (start + listing.packedSize)
        | none => ByteArray.empty }
  return (entry, extraPlace + extraLength + commentLength)

/-- The entries of `count` records from a place on. `read` holds the entries before, the last
    one first. -/
def readRecords? (bytes : ByteArray) (directory : DirectoryPlace) :
    (count place : Nat) → (read : List Entry) → Option (List Entry)
  | 0, _, read => some read.reverse
  | count + 1, place, read =>
    match readRecord? bytes directory place with
    | some (entry, place) => readRecords? bytes directory count place (entry :: read)
    | none => none

/-- Entries with different names, and the index of each name. -/
structure NamedEntries where
  entries : Array Entry
  indices : Std.HashMap String Nat

/-- Entries with one more. An entry of the same name gives its place to the new one. -/
def NamedEntries.insert (named : NamedEntries) (entry : Entry) : NamedEntries :=
  let { entries, indices } := named
  match indices[entry.name]? with
  | some index => { entries := entries.setIfInBounds index entry, indices }
  | none =>
    { indices := indices.insert entry.name entries.size, entries := entries.push entry }

/-- Entries by their names: of several of one name, the last one at the place of the first. -/
def uniqueByName (entries : List Entry) : List Entry :=
  (entries.foldl NamedEntries.insert { entries := #[], indices := ∅ }).entries.toList

/-- The entries of the directory that the end record at a place leads to. -/
def readAt? (bytes : ByteArray) (place : Nat) : Option (List Entry) := do
  if !signatureAt bytes place endSignature then none
  let directory ← directoryPlace? bytes place
  let entries ← readRecords? bytes directory directory.count directory.start []
  return uniqueByName entries

/-- The first result of places counted down from below `stop`. -/
def lastPlace? {α : Type} (read : Nat → Option α) : (stop : Nat) → Option α
  | 0 => none
  | place + 1 =>
    match read place with
    | some found => some found
    | none => lastPlace? read place

/-- The entries of a container, in the order of its directory. -/
def read (bytes : ByteArray) : Except ContainerError (List Entry) :=
  match lastPlace? (readAt? bytes) (bytes.size + 1 - endSize) with
  | some entries => .ok entries
  | none => .error .noDirectory

end Zip

end Stencil
