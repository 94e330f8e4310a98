import Stencil.Image.Drawing
import Stencil.Package.ContentTypes
import Stencil.Package.Document
import Stencil.Package.Relationships
import Stencil.Report.Plan

/-! # Embedding pictures

A picture that is put into a part becomes a part of its own, a relationship of the part
refers to it, its media type is declared, and a drawing with a new number stands in the
text.

The relationships and the declarations are written into the document when all pictures are
embedded. Names and identifiers that the document has already are passed over.
-/

namespace Stencil

/-- A document while pictures are put into it. -/
structure Embedding where
  document : Document
  /-- The declarations of media types as they will be. -/
  contentTypes : Markup
  /-- The relationships as they will be, of each part that received a picture; in the order
      of the names of their parts. -/
  relationships : List (String × Markup)
  /-- The number that the search for a free media name begins with. -/
  nextMedia : Nat
  nextDrawing : UInt32
  embedded : Nat

namespace Embedding

/-- The first number from `start` on that is not taken, among `bound` numbers; the number
    behind them if all are taken. -/
def firstFree (taken : Nat → Bool) : (bound start : Nat) → Nat
  | 0, start => start
  | bound + 1, start => if taken start then firstFree taken bound (start + 1) else start

def mediaName (format : ImageFormat) (number : Nat) : String :=
  "word/media/reportgen_image" ++ toString number ++ "." ++ format.extension

def relationshipId (number : Nat) : List Char :=
  "rIdReportgen".toList ++ (toString number).toList

/-- The first number from `start` on whose media name is free. No more names than there are
    parts can be taken. -/
def freeMedia (document : Document) (format : ImageFormat) (start : Nat) : Nat :=
  firstFree (fun number => document.contains (mediaName format number))
    document.parts.length start

/-- The first number from `start` on whose relationship identifier is free. No more
    identifiers can be taken than the relationships have characters. -/
def freeRelationship (relationships : Option Markup) (start : Nat) : Nat :=
  match relationships with
  | none => start
  | some markup =>
    firstFree (fun number => Relationships.hasId markup (relationshipId number))
      markup.length start

/-- Relationships by the names of their parts, in the order of the names, with new ones for
    a name. -/
def setRelationships (name : String) (markup : Markup) :
    List (String × Markup) → List (String × Markup)
  | [] => [(name, markup)]
  | (other, kept) :: rest =>
    if name = other then (name, markup) :: rest
    else if name < other then (name, markup) :: (other, kept) :: rest
    else (other, kept) :: setRelationships name markup rest

/-- A document before its first picture. -/
def begin (document : Document) (contentTypes : Markup) (nextDrawing : UInt32) : Embedding :=
  { document, contentTypes, relationships := [], nextMedia := 1, nextDrawing, embedded := 0 }

/-- The relationships part of a name as it will be, if there will be one. -/
def relationships? (embedding : Embedding) (name : String) : Option Markup :=
  match embedding.relationships.lookup name with
  | some markup => some markup
  | none => embedding.document.markup? name

/-- Put a picture into a part: the drawing that stands for it, and the document with it. -/
def embed (options : RenderOptions) (part : String) (picture : ByteArray)
    (embedding : Embedding) : Markup × Embedding :=
  let format := ImageFormat.detect picture
  let mediaNumber := freeMedia embedding.document format embedding.nextMedia
  let media := mediaName format mediaNumber
  let relationshipsName := Relationships.partFor part
  let relationships := embedding.relationships? relationshipsName
  let id := relationshipId (freeRelationship relationships (embedding.embedded + 1))
  let target := (Relationships.target part media).toList
  let drawing := Drawing.inline id embedding.nextDrawing.toNat (PartName.file media.toList)
    options.imageWidth options.imageHeight
  (drawing,
    { document := embedding.document.set media (.binary picture)
      contentTypes := ContentTypes.ensure embedding.contentTypes format
      relationships := setRelationships relationshipsName
        (Relationships.addImage relationships id target) embedding.relationships
      nextMedia := mediaNumber + 1
      nextDrawing := embedding.nextDrawing + 1
      embedded := embedding.embedded + 1 })

/-- The markup of a piece, and the document with its picture. -/
def writePiece (options : RenderOptions) (part : String) :
    Piece ByteArray → Embedding → Markup × Embedding
  | .literal text, embedding => (text, embedding)
  | .text value elements, embedding => (value.getD [] ++ elements.flatten, embedding)
  | .image none elements, embedding => (elements.flatten, embedding)
  | .image (some picture) elements, embedding =>
    let (drawing, embedding) := embedding.embed options part picture
    (drawing ++ elements.flatten, embedding)

/-- The markup of pieces, one after the other, and the document with their pictures. -/
def writePieces (options : RenderOptions) (part : String) :
    List (Piece ByteArray) → Embedding → Markup × Embedding
  | [], embedding => ([], embedding)
  | piece :: rest, embedding =>
    let (text, embedding) := writePiece options part piece embedding
    let (following, embedding) := writePieces options part rest embedding
    (text ++ following, embedding)

/-- The document with a planned part written into it; a part without tags stays as it is. -/
def writePart (options : RenderOptions) (embedding : Embedding) (plan : PartPlan ByteArray) :
    Embedding :=
  if plan.hasTags then
    let (text, embedding) := writePieces options plan.name plan.pieces embedding
    { embedding with document := embedding.document.set plan.name (.markup text) }
  else embedding

/-- The document with the relationships and declarations of its pictures. -/
def finish (embedding : Embedding) : Document :=
  if embedding.embedded = 0 then embedding.document
  else
    let related := embedding.relationships.foldl
      (fun document (name, markup) => document.set name (.markup markup)) embedding.document
    related.set PartName.contentTypes (.markup embedding.contentTypes)

end Embedding

end Stencil
