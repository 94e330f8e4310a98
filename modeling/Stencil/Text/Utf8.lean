/-! # Decoding UTF-8 without failure

Bytes that are no text are replaced by the replacement character, one for each longest
stretch that begins a character and is not completed.
-/

namespace Stencil.Text

/-- Stands for bytes that are no text. -/
def replacement : Char := '\ufffd'

/-- The lead byte of a character of several bytes: how many bytes follow, the bits it
    contributes, and the least and greatest byte that may come next. -/
def leadByte? (byte : Nat) : Option (Nat × Nat × Nat × Nat) :=
  if 0xC2 ≤ byte ∧ byte ≤ 0xDF then some (1, byte - 0xC0, 0x80, 0xBF)
  else if byte = 0xE0 then some (2, 0, 0xA0, 0xBF)
  else if byte = 0xED then some (2, 0xD, 0x80, 0x9F)
  else if 0xE1 ≤ byte ∧ byte ≤ 0xEF then some (2, byte - 0xE0, 0x80, 0xBF)
  else if byte = 0xF0 then some (3, 0, 0x90, 0xBF)
  else if 0xF1 ≤ byte ∧ byte ≤ 0xF3 then some (3, byte - 0xF0, 0x80, 0xBF)
  else if byte = 0xF4 then some (3, 4, 0x80, 0x8F)
  else none

/-- The characters of the bytes. Within a character, `missing` bytes are still to come, the
    next of them between `least` and `greatest`, and `code` holds the bits so far. -/
def decodeFrom (missing code least greatest : Nat) : List UInt8 → List Char
  | [] => if missing = 0 then [] else [replacement]
  | byte :: rest =>
    let value := byte.toNat
    if 0 < missing ∧ least ≤ value ∧ value ≤ greatest then
      let code := code * 64 + value % 64
      if missing = 1 then Char.ofNat code :: decodeFrom 0 0 0 0 rest
      else decodeFrom (missing - 1) code 0x80 0xBF rest
    else
      (if 0 < missing then [replacement] else []) ++
        if value < 0x80 then Char.ofNat value :: decodeFrom 0 0 0 0 rest
        else match leadByte? value with
          | some (missing, code, least, greatest) => decodeFrom missing code least greatest rest
          | none => replacement :: decodeFrom 0 0 0 0 rest

/-- The text of the bytes, with a replacement character for what is no text. -/
def decodeLossy (bytes : ByteArray) : List Char :=
  decodeFrom 0 0 0 0 bytes.toList

end Stencil.Text
