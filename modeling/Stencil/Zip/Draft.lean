import Std.Data.HashSet
import Stencil.Zip.Entry
import Stencil.Zip.Record

/-! # Containers under construction

A container is written entry by entry: the local record and the packed bytes of each entry
stand in front, and behind them the directory and the end record. Entries are written as they
are packed. Numbers that are too large for their fields stand in an extra field, or in the
wide end record.
-/

namespace Stencil

namespace Zip

def neededVersion : Nat := 20

/-- The version of the format that is needed to read wide numbers. -/
def wideVersion : Nat := 45

/-- The flags of an entry with the given name. -/
def nameFlags (name : String) : Nat :=
  if name.toList.all fun c => c.toNat < 128 then 0 else utf8Flag

/-- The fields that both records of an entry share, up to the length of the name. -/
def sharedFields (entry : Entry) : List UInt8 :=
  encode 2 neededVersion ++ encode 2 (nameFlags entry.name) ++ encode 2 entry.method.code ++
    encode 2 entry.modified.time ++ encode 2 entry.modified.date ++ encode 4 entry.checksum ++
    encode 4 (min wide32 entry.packedSize) ++ encode 4 (min wide32 entry.size) ++
    encode 2 entry.name.utf8ByteSize

def localRecord (entry : Entry) : ByteArray :=
  (encode 4 localSignature ++ sharedFields entry ++ encode 2 0).toByteArray ++ entry.name.toUTF8

/-- The extra field with those of the numbers that are too large for their own fields. -/
def wideField (numbers : List Nat) : List UInt8 :=
  match numbers.filter fun number => wide32 ≤ number with
  | [] => []
  | wide => encode 2 wideExtra ++ encode 2 (8 * wide.length) ++ wide.flatMap (encode 8)

/-- The record of an entry in the directory, given the offset of its local record. -/
def directoryRecord (entry : Entry) (offset : Nat) : ByteArray :=
  let extra := wideField [entry.size, entry.packedSize, offset]
  (encode 4 recordSignature ++ encode 2 neededVersion ++ sharedFields entry ++
    encode 2 extra.length ++ encode 2 0 ++ encode 2 0 ++ encode 2 0 ++ encode 4 0 ++
    encode 4 (min wide32 offset)).toByteArray ++ entry.name.toUTF8 ++ extra.toByteArray

/-- The wide end record of a directory behind `offset` bytes, and its locator. -/
def wideEndRecord (count size offset : Nat) : List UInt8 :=
  encode 4 wideEndSignature ++ encode 8 (wideEndSize - 12) ++ encode 2 wideVersion ++
    encode 2 wideVersion ++ encode 4 0 ++ encode 4 0 ++ encode 8 count ++ encode 8 count ++
    encode 8 size ++ encode 8 offset ++ encode 4 locatorSignature ++ encode 4 0 ++
    encode 8 (offset + size) ++ encode 4 1

/-- The end record of a directory behind `offset` bytes. A wide one stands before it if a
    number is too large. -/
def endRecord (count size offset : Nat) : ByteArray :=
  let wide := if wide16 ≤ count ∨ wide32 ≤ size ∨ wide32 ≤ offset then
      wideEndRecord count size offset
    else []
  (wide ++ encode 4 endSignature ++ encode 2 0 ++ encode 2 0 ++ encode 2 (min wide16 count) ++
    encode 2 (min wide16 count) ++ encode 4 (min wide32 size) ++ encode 4 (min wide32 offset) ++
    encode 2 0).toByteArray

/-- A container under construction: the entries written so far, and their directory. -/
structure Draft where
  body : ByteArray
  directory : ByteArray
  count : Nat

def Draft.empty : Draft :=
  { body := ByteArray.empty, directory := ByteArray.empty, count := 0 }

def Draft.add (draft : Draft) (entry : Entry) : Draft :=
  let { body, directory, count } := draft
  { directory := directory ++ directoryRecord entry body.size
    body := body ++ localRecord entry ++ entry.packed
    count := count + 1 }

/-- The bytes of the container. -/
def Draft.finish (draft : Draft) : ByteArray :=
  draft.body ++ draft.directory ++ endRecord draft.count draft.directory.size draft.body.size

/-- The name that occurs a second time, if there is one. `seen` holds the names before. -/
def duplicate? (seen : Std.HashSet String) : List String → Option String
  | [] => none
  | name :: rest =>
    if seen.contains name then some name else duplicate? (seen.insert name) rest

/-- The container with the given entries. -/
def write (entries : List Entry) : Except ContainerError ByteArray :=
  match duplicate? ∅ (entries.map Entry.name) with
  | some name => .error (.duplicateName name)
  | none => .ok (entries.foldl Draft.add Draft.empty).finish

end Zip

end Stencil
