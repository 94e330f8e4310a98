/-! # Options of a report

What can be chosen about a report besides its template and its payload.
-/

namespace Stencil

/-- The choices that a report is made with. -/
structure RenderOptions where
  /-- The width of every picture, in pixels. -/
  imageWidth : Nat := 250
  /-- The height of every picture, in pixels. -/
  imageHeight : Nat := 250
  /-- How many pictures are fetched at once. -/
  concurrency : Nat := 4
  /-- Whether line ends in values become line breaks. -/
  linebreaks : Bool := true
  /-- Whether a warning stops the report. -/
  strict : Bool := false
  deriving Repr, DecidableEq

end Stencil
