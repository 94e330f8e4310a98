import Stencil.Instances

/-! # Numbers in binary records

A record holds numbers of a fixed count of bytes, the least significant byte first.
-/

namespace Stencil

namespace Zip

/-- The `width` bytes of a number; what does not fit is cut off. -/
def encode (width : Nat) (value : Nat) : List UInt8 :=
  match width with
  | 0 => []
  | width + 1 => UInt8.ofNat value :: encode width (value / 256)

def decode : List UInt8 → Nat
  | [] => 0
  | byte :: rest => byte.toNat + 256 * decode rest

/-- The bytes from `start` on, `width` of them; `none` if there are not that many. -/
def slice? (bytes : ByteArray) (start width : Nat) : Option ByteArray :=
  if start + width ≤ bytes.size then some (bytes.extract start (start + width)) else none

/-- The number of `width` bytes at `start`; `none` behind the end. -/
def field? (bytes : ByteArray) (start width : Nat) : Option Nat :=
  (slice? bytes start width).map fun field => decode field.toList

/-- A number takes as many bytes as it is given. -/
theorem length_encode (width value : Nat) : (encode width value).length = width := by
  induction width generalizing value with
  | zero => rfl
  | succ width ih => simp [encode, ih]

/-- A number reads back up to what was cut off. -/
theorem decode_encode (width value : Nat) : decode (encode width value) = value % 256 ^ width := by
  induction width generalizing value with
  | zero => simp [encode, decode, Nat.mod_one]
  | succ width ih =>
    rw [encode, decode, ih, UInt8.toNat_ofNat', Nat.pow_succ' (n := width)]
    exact Nat.mod_mul.symm

end Zip

end Stencil
