import Stencil.Instances

/-! # Checksums

The content of an entry is guarded by a cyclic redundancy check of 32 bits. Some ways of
packing bring checks of their own: one of 64 bits, and one of 32 bits that takes the highest
bit of a byte first.

Each check takes a byte at a time into a register. What a byte does to the register is
found in a table.
-/

namespace Stencil

namespace Zip

/-- Take one bit out of the register: the polynomial is added when it is set. -/
def checksumBit (register : UInt32) : UInt32 :=
  if register &&& 1 = 1 then (register >>> 1) ^^^ 0xEDB88320 else register >>> 1

/-- What each byte leaves in an empty register. -/
def checksumTable : Array UInt32 :=
  ((List.range 256).map fun byte => Nat.repeat checksumBit 8 byte.toUInt32).toArray

/-- Put one byte into the register. -/
def checksumByte (register : UInt32) (byte : UInt8) : UInt32 :=
  (checksumTable[((register ^^^ byte.toUInt32) &&& 0xFF).toNat]?).getD 0 ^^^ (register >>> 8)

def checksum (bytes : ByteArray) : UInt32 :=
  bytes.foldl checksumByte 0xFFFFFFFF ^^^ 0xFFFFFFFF

/-- Take one bit out of the register of 64 bits. -/
def wideChecksumBit (register : UInt64) : UInt64 :=
  if register &&& 1 = 1 then (register >>> 1) ^^^ 0xC96C5795D7870F42 else register >>> 1

def wideChecksumTable : Array UInt64 :=
  ((List.range 256).map fun byte => Nat.repeat wideChecksumBit 8 byte.toUInt64).toArray

/-- Put one byte into the register of 64 bits. -/
def wideChecksumByte (register : UInt64) (byte : UInt8) : UInt64 :=
  (wideChecksumTable[((register ^^^ byte.toUInt64) &&& 0xFF).toNat]?).getD 0 ^^^ (register >>> 8)

def wideChecksum (bytes : ByteArray) : UInt64 :=
  bytes.foldl wideChecksumByte 0xFFFFFFFFFFFFFFFF ^^^ 0xFFFFFFFFFFFFFFFF

/-- Take one bit out of the register that goes from the highest bit down. -/
def highChecksumBit (register : UInt32) : UInt32 :=
  if register &&& 0x80000000 ≠ 0 then (register <<< 1) ^^^ 0x04C11DB7 else register <<< 1

/-- What each byte leaves in an empty register that goes from the highest bit down. -/
def highChecksumTable : Array UInt32 :=
  ((List.range 256).map fun byte => Nat.repeat highChecksumBit 8 (UInt32.ofNat (byte * 2 ^ 24))).toArray

/-- Put one byte into the register that goes from the highest bit down. -/
def highChecksumByte (register : UInt32) (byte : UInt8) : UInt32 :=
  (highChecksumTable[((register >>> 24) ^^^ byte.toUInt32).toNat]?).getD 0 ^^^ (register <<< 8)

/-- The checksum of the bytes from `start` on that takes the highest bit of a byte first. -/
def highChecksum (bytes : ByteArray) (start : Nat) : UInt32 :=
  bytes.foldl highChecksumByte 0xFFFFFFFF start ^^^ 0xFFFFFFFF

end Zip

end Stencil
