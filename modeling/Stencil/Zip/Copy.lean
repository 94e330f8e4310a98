/-! # Copies of earlier output

Most ways of packing tell some bytes as a copy of bytes that came before. A copy may reach
into itself: its bytes are then repeated.
-/

namespace Stencil

namespace Zip

/-- Append `length` bytes, each a copy of the one `distance` before it. Before the output
    there are zeros. -/
def copyBack (output : ByteArray) (distance : Nat) : (length : Nat) → ByteArray
  | 0 => output
  | length + 1 =>
    let byte := if h : 0 < distance ∧ distance ≤ output.size then output[output.size - distance]
      else 0
    copyBack (output.push byte) distance length

end Zip

end Stencil
