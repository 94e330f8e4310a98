import Stencil.Asset.Failure
import Stencil.Markup.Escape
import Stencil.Payload
import Stencil.Report.Options
import Stencil.Report.Warning
import Stencil.Scan

/-! # Plans

A plan says what a part will be made of: its literal text, the values of its text tags and
the pictures of its image tags. While the pictures are not fetched, a plan holds a request
for each; supplied with the outcomes of the fetches, it holds the pictures that were found.

The markup elements inside a tag are kept behind what the tag is replaced by.
-/

namespace Stencil

/-- A piece of a planned part. Pictures are told by values of `Picture`. -/
inductive Piece (Picture : Type) where
  /-- Text that is kept as it is. -/
  | literal (text : Markup)
  /-- The value of a text tag, if it has one, and the elements inside the tag. -/
  | text (value : Option Markup) (elements : List Markup)
  /-- The picture of an image tag, if it has one, and the elements inside the tag. -/
  | image (picture : Option Picture) (elements : List Markup)

namespace Piece

def picture? {Picture : Type} : Piece Picture → Option Picture
  | image picture _ => picture
  | literal _ | text _ _ => none

/-- Whether the piece is a text tag with a value. -/
def isSubstituted {Picture : Type} : Piece Picture → Bool
  | text value _ => value.isSome
  | literal _ | image _ _ => false

/-- Whether the piece takes the place of a tag. -/
def isTag {Picture : Type} : Piece Picture → Bool
  | literal _ => false
  | text _ _ | image _ _ => true

end Piece

/-- The fetch that an image tag asks for. -/
structure PictureRequest where
  identifier : String
  raw : String
  part : String
  locator : String
  deriving Repr, DecidableEq

namespace PictureRequest

/-- The warning of a request that a failure answers. -/
def warning? (request : PictureRequest) : FetchOutcome → Option Warning
  | .ok _ => none
  | .error failure => some
      { identifier := request.identifier, raw := request.raw, part := request.part
        reason := .fetchFailed failure.message }

/-- The warnings of requests, given the outcome of each. -/
def warnings (requests : List PictureRequest) (outcomes : List FetchOutcome) : List Warning :=
  (requests.zip outcomes).filterMap fun (request, outcome) => request.warning? outcome

end PictureRequest

/-- What a part will be made of. -/
structure PartPlan (Picture : Type) where
  name : String
  /-- The markup of the part in the template. -/
  source : Markup
  pieces : List (Piece Picture)
  /-- The warnings of the part, those of its pictures apart. -/
  warnings : List Warning

namespace PartPlan

/-- Whether anything in the part is replaced. -/
def hasTags {Picture : Type} (plan : PartPlan Picture) : Bool :=
  plan.pieces.any Piece.isTag

def pictures {Picture : Type} (plan : PartPlan Picture) : List Picture :=
  plan.pieces.filterMap Piece.picture?

def tagCount {Picture : Type} (plan : PartPlan Picture) : Nat :=
  plan.pieces.countP Piece.isTag

/-- How many text tags of the part have a value. -/
def substitutedCount {Picture : Type} (plan : PartPlan Picture) : Nat :=
  plan.pieces.countP Piece.isSubstituted

/-- The warning of a span that is no tag. -/
def malformedWarning (part : String) (span : MalformedSpan) : Warning :=
  { identifier := (Tag.parse span.text).identifier, raw := String.ofList span.text, part
    reason := .malformed span.defect.message }

/-- The warning of a tag that finds nothing to use in what it is bound to. -/
def bindingWarning? (part : String) (payload : Payload) (span : TagSpan) : Option Warning :=
  let binding := payload.binding span.tag.identifier
  let usable := match span.tag.kind with
    | .text => binding.text?
    | .image => binding.locator?
  match usable with
  | some _ => none
  | none => some
      { identifier := span.tag.identifier, raw := String.ofList span.text, part
        reason := match binding with
          | .missing => .unresolved
          | _ => .notAnAsset }

/-- What takes the place of a tag. -/
def pieceOfTag (part : String) (payload : Payload) (linebreaks : Bool) (span : TagSpan) :
    Piece PictureRequest :=
  let binding := payload.binding span.tag.identifier
  match span.tag.kind with
  | .text =>
    .text (binding.text?.map fun value => Markup.ofValue value.toList linebreaks) span.markup
  | .image =>
    let request := binding.locator?.map fun locator =>
      { identifier := span.tag.identifier, raw := String.ofList span.text, part, locator }
    .image request span.markup

def pieceOf (part : String) (payload : Payload) (linebreaks : Bool) :
    Segment → Piece PictureRequest
  | .literal text => .literal text
  | .tag span => pieceOfTag part payload linebreaks span

def make (payload : Payload) (linebreaks : Bool) (name : String) (source : Markup) :
    PartPlan PictureRequest :=
  let scan := Stencil.scan source
  { name, source
    pieces := scan.segments.map (pieceOf name payload linebreaks)
    warnings := scan.malformed.map (malformedWarning name) ++
      scan.tags.filterMap (bindingWarning? name payload) }

/-- Pieces with the outcomes of the fetches they ask for, which are taken from the front of
    a list; and the outcomes that are left. -/
def supplyPieces : List (Piece PictureRequest) → List FetchOutcome →
    List (Piece ByteArray) × List FetchOutcome
  | [], outcomes => ([], outcomes)
  | .literal text :: rest, outcomes =>
    let (pieces, outcomes) := supplyPieces rest outcomes
    (.literal text :: pieces, outcomes)
  | .text value elements :: rest, outcomes =>
    let (pieces, outcomes) := supplyPieces rest outcomes
    (.text value elements :: pieces, outcomes)
  | .image none elements :: rest, outcomes =>
    let (pieces, outcomes) := supplyPieces rest outcomes
    (.image none elements :: pieces, outcomes)
  | .image (some _) elements :: rest, outcomes =>
    let picture := outcomes.head?.bind Except.toOption
    let (pieces, outcomes) := supplyPieces rest outcomes.tail
    (.image picture elements :: pieces, outcomes)

/-- Plans with the outcomes of all their fetches, in order. -/
def supply : List (PartPlan PictureRequest) → List FetchOutcome → List (PartPlan ByteArray)
  | [], _ => []
  | plan :: rest, outcomes =>
    let (pieces, outcomes) := supplyPieces plan.pieces outcomes
    { plan with pieces } :: supply rest outcomes

end PartPlan

end Stencil
