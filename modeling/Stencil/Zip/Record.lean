import Stencil.Zip.Field

/-! # Records of containers

A container consists of records, each of which begins with a number of its own. There is a
local record before each entry's packed bytes, a record in the directory for each entry, and
an end record. Large containers have a second, wider end record, and a record that tells
where it is.
-/

namespace Stencil

namespace Zip

def localSignature : Nat := 0x04034B50

def recordSignature : Nat := 0x02014B50

def endSignature : Nat := 0x06054B50

def wideEndSignature : Nat := 0x06064B50

/-- The number at the head of the record that tells where the wide end record is. -/
def locatorSignature : Nat := 0x07064B50

/-- The size of a local record without its name and extra fields. -/
def localSize : Nat := 30

/-- The size of a record of the directory without its name, extra fields and comment. -/
def recordSize : Nat := 46

/-- The size of the end record without its comment. -/
def endSize : Nat := 22

def locatorSize : Nat := 20

def wideEndSize : Nat := 56

def encryptedFlag : Nat := 0x1

/-- The flag of an entry whose name is UTF-8. -/
def utf8Flag : Nat := 0x800

/-- Stands in a field of 16 bits for a number that is found elsewhere. -/
def wide16 : Nat := 0xFFFF

/-- Stands in a field of 32 bits for a number that is found elsewhere. -/
def wide32 : Nat := 0xFFFFFFFF

/-- The number of the method of encrypted entries, whose own method is found elsewhere. -/
def sealedMethod : Nat := 99

/-- The number of the extra field with wide numbers. -/
def wideExtra : Nat := 0x0001

def hasFlag (flags flag : Nat) : Bool :=
  flags / flag % 2 = 1

/-- Whether the number stands at a place. -/
def signatureAt (bytes : ByteArray) (place signature : Nat) : Bool :=
  field? bytes place 4 = some signature

/-- The first of `count` places from a place on where a record begins that is accepted. -/
def findRecord? {α : Type} (bytes : ByteArray) (signature : Nat) (accept : Nat → Option α)
    (place : Nat) : (count : Nat) → Option α
  | 0 => none
  | count + 1 =>
    let found := if bytes[place]? = some (UInt8.ofNat signature) ∧
        signatureAt bytes place signature then accept place else none
    match found with
    | some found => some found
    | none => findRecord? bytes signature accept (place + 1) count

/-- Why bytes are no container, or entries cannot be one. -/
inductive ContainerError where
  /-- No end record leads to a directory. -/
  | noDirectory
  /-- Two entries have the same name. -/
  | duplicateName (name : String)
  deriving Repr, DecidableEq

def ContainerError.message : ContainerError → String
  | noDirectory => "invalid archive: no directory of entries"
  | duplicateName name => "invalid archive: duplicate file name " ++ name

end Zip

end Stencil
