/-! # Sets of code points given as ranges

A property of characters is stored as the ascending list of its maximal ranges. A
look-up stops at the first range that ends at or after the code point.
-/

namespace Stencil.Text

/-- The code points from the first component up to and including the second. -/
abbrev CodeRange := Nat × Nat

/-- Whether one of the ascending `ranges` holds the code point `n`. -/
def inRanges : (ranges : List CodeRange) → (n : Nat) → Bool
  | [], _ => false
  | (first, last) :: rest, n => if n ≤ last then first ≤ n else inRanges rest n

end Stencil.Text
