import Stencil.Zip.Record

/-! # End records

The end record tells where the directory is. A container may have other bytes before its
first entry and behind its end record; all its offsets then count from the first entry, and
a record's true place tells how many bytes there are before it.

When the numbers of the end record are too small, a wide end record counts instead of it.
What it tells must fit what stands around it.
-/

namespace Stencil

namespace Zip

/-- Where a directory is, in a container whose offsets count from `base`. -/
structure DirectoryPlace where
  base : Nat
  start : Nat
  count : Nat
  deriving Repr, DecidableEq

structure EndRecord where
  place : Nat
  disk : Nat
  directoryDisk : Nat
  /-- The number of entries on the last disk. -/
  count : Nat
  /-- The number of all entries. -/
  total : Nat
  offset : Nat
  deriving Repr, DecidableEq

namespace EndRecord

/-- The end record at a place. Its comment must end within the bytes. -/
def read? (bytes : ByteArray) (place : Nat) : Option EndRecord := do
  let disk ← field? bytes (place + 4) 2
  let directoryDisk ← field? bytes (place + 6) 2
  let count ← field? bytes (place + 8) 2
  let total ← field? bytes (place + 10) 2
  let offset ← field? bytes (place + 16) 4
  let comment ← field? bytes (place + 20) 2
  if bytes.size < place + endSize + comment then none
  else return { place, disk, directoryDisk, count, total, offset }

def mayBeWide (record : EndRecord) : Bool :=
  record.total = wide16 || record.offset = wide32

/-- Where the record is that tells of a wide end record, if there is one: right before the
    end record. -/
def locator? (bytes : ByteArray) (record : EndRecord) : Option Nat :=
  let place := record.place - locatorSize
  if record.mayBeWide && locatorSize ≤ record.place && signatureAt bytes place locatorSignature
  then some place else none

/-- The directory that the end record itself tells of. It begins with the first record of an
    entry at the stated offset or, behind other bytes, after it. -/
def plainPlace? (bytes : ByteArray) (record : EndRecord) : Option DirectoryPlace :=
  if record.disk ≠ record.directoryDisk then none
  else if record.total = 0 then
    let base := record.place - record.offset
    some { base, start := base + record.offset, count := record.count }
  else
    findRecord? bytes recordSignature
      (fun place => some { base := place - record.offset, start := place, count := record.count })
      record.offset (record.place - record.offset - 3)

end EndRecord

/-- A record that tells where the wide end record is. -/
structure Locator where
  place : Nat
  directoryDisk : Nat
  /-- The offset of the wide end record. -/
  offset : Nat
  disks : Nat
  deriving Repr, DecidableEq

namespace Locator

def read? (bytes : ByteArray) (place : Nat) : Option Locator := do
  let directoryDisk ← field? bytes (place + 4) 4
  let offset ← field? bytes (place + 8) 8
  let disks ← field? bytes (place + 16) 4
  return { place, directoryDisk, offset, disks }

/-- The directory that the wide end record at a place tells of, if that record fills the space
    before the locator and there is space before it for all records. Its other numbers decide
    whether this directory can be read. -/
def wideEnd? (bytes : ByteArray) (locator : Locator) (place : Nat) :
    Option (Option DirectoryPlace) := do
  let size ← field? bytes (place + 4) 8
  let version ← field? bytes (place + 12) 2
  let neededVersion ← field? bytes (place + 14) 2
  let disk ← field? bytes (place + 16) 4
  let directoryDisk ← field? bytes (place + 20) 4
  let count ← field? bytes (place + 24) 8
  let total ← field? bytes (place + 32) 8
  let offset ← field? bytes (place + 48) 8
  if size + 12 < wideEndSize || place + size + 12 ≠ locator.place ||
      directoryDisk ≠ locator.directoryDisk || place < total * recordSize + offset then none
  else if total < count || version < neededVersion || disk ≠ directoryDisk then return none
  else
    let base := place - locator.offset
    return some { base, start := base + offset, count := total }

/-- The directory that the wide end record tells of. It begins at the stated offset or, behind
    other bytes, after it. -/
def widePlace? (bytes : ByteArray) (locator : Locator) : Option DirectoryPlace :=
  if 1 < locator.disks then none
  else
    (findRecord? bytes wideEndSignature (locator.wideEnd? bytes) locator.offset
      (locator.place - locator.offset)).join

end Locator

/-- The directory that the end record at a place leads to. -/
def directoryPlace? (bytes : ByteArray) (place : Nat) : Option DirectoryPlace := do
  let record ← EndRecord.read? bytes place
  match record.locator? bytes with
  | none => record.plainPlace? bytes
  | some place => (← Locator.read? bytes place).widePlace? bytes

end Zip

end Stencil
