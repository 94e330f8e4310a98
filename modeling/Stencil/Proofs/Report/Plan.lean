import Mathlib.Data.List.Forall2
import Stencil.Report.Plan

/-! # Supplied plans

Each outcome of the fetches goes to the piece that asked for it. What is supplied has the shape of
the plan, whatever the outcomes are.
-/

namespace Stencil

namespace Piece

/-- The piece with the picture that its request is answered with. -/
def fetched (fetch : Fetcher) : Piece PictureRequest → Piece ByteArray
  | .literal markup => .literal markup
  | .text value elements => .text value elements
  | .image request elements =>
    .image (request.bind fun request => (fetch request.locator).toOption) elements

/-- A piece that asks for a picture may be supplied with one. -/
inductive Supplied : Piece PictureRequest → Piece ByteArray → Prop where
  | literal (markup : Markup) : Supplied (literal markup) (literal markup)
  | text (value : Option Markup) (elements : List Markup) :
      Supplied (text value elements) (text value elements)
  | bare (elements : List Markup) : Supplied (image none elements) (image none elements)
  | image (request : PictureRequest) (picture : Option ByteArray) (elements : List Markup) :
      Supplied (image (some request) elements) (image picture elements)

end Piece

namespace PartPlan

/-- The plan with the pictures that its requests are answered with. -/
def fetched (fetch : Fetcher) (plan : PartPlan PictureRequest) : PartPlan ByteArray :=
  { plan with pieces := plan.pieces.map (Piece.fetched fetch) }

theorem supplyPieces_fetched (fetch : Fetcher) (pieces : List (Piece PictureRequest))
    (outcomes : List FetchOutcome) :
    supplyPieces pieces
        ((pieces.filterMap Piece.picture?).map (fun request => fetch request.locator) ++ outcomes) =
      (pieces.map (Piece.fetched fetch), outcomes) := by
  induction pieces with
  | nil => rfl
  | cons piece rest ih =>
      cases piece with
      | literal text =>
          rw [List.filterMap_cons_none rfl, supplyPieces, ih]
          rfl
      | text value elements =>
          rw [List.filterMap_cons_none rfl, supplyPieces, ih]
          rfl
      | image request elements =>
          cases request with
          | none =>
              rw [List.filterMap_cons_none rfl, supplyPieces, ih]
              rfl
          | some request =>
              have asked : (Piece.image (some request) elements).picture? = some request := rfl
              rw [List.filterMap_cons_some asked, List.map_cons, List.cons_append, supplyPieces,
                List.tail_cons, ih]
              rfl

/-- Every request is answered by its own locator. -/
theorem supply_fetched (fetch : Fetcher) (plans : List (PartPlan PictureRequest)) :
    supply plans ((plans.flatMap pictures).map fun request => fetch request.locator) =
      plans.map (fetched fetch) := by
  induction plans with
  | nil => rfl
  | cons plan rest ih =>
      rw [List.flatMap_cons, List.map_append, supply, pictures, supplyPieces_fetched, List.map_cons]
      exact congrArg (plan.fetched fetch :: ·) ih

theorem supplied_supplyPieces (pieces : List (Piece PictureRequest))
    (outcomes : List FetchOutcome) :
    List.Forall₂ Piece.Supplied pieces (supplyPieces pieces outcomes).1 := by
  induction pieces generalizing outcomes with
  | nil => exact .nil
  | cons piece rest ih =>
      cases piece with
      | literal text => exact .cons (.literal text) (ih outcomes)
      | text value elements => exact .cons (.text value elements) (ih outcomes)
      | image request elements =>
          cases request with
          | none => exact .cons (.bare elements) (ih outcomes)
          | some request => exact .cons (.image request _ elements) (ih outcomes.tail)

end PartPlan

end Stencil
