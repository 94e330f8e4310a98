import Stencil.Report.Embedding

/-! # Placements

A placement records what a picture was given when it was put into a part, so that the text of
the part can be told from its pieces and its placements alone.
-/

namespace Stencil

/-- A picture that was put into a part. -/
structure Placement where
  part : String
  picture : ByteArray
  /-- The name of its media part. -/
  media : String
  /-- The identifier of its relationship. -/
  relationship : List Char
  /-- The number of its drawing. -/
  number : Nat

namespace Placement

/-- The drawing that stands in the part. -/
def drawing (options : RenderOptions) (placement : Placement) : Markup :=
  Drawing.inline placement.relationship placement.number (PartName.file placement.media.toList)
    options.imageWidth options.imageHeight

/-- What the relationship refers to. -/
def target (placement : Placement) : List Char :=
  (Relationships.target placement.part placement.media).toList

/-- The part that the relationship is declared in. -/
def home (placement : Placement) : String :=
  Relationships.partFor placement.part

end Placement

/-- What pieces are written as, given the placements of their pictures. -/
inductive Written (options : RenderOptions) :
    List (Piece ByteArray) → List Placement → Markup → Prop where
  | nil : Written options [] [] []
  | literal {rest placements following} (text : Markup)
      (later : Written options rest placements following) :
      Written options (.literal text :: rest) placements (text ++ following)
  | text {rest placements following} (value : Option Markup) (elements : List Markup)
      (later : Written options rest placements following) :
      Written options (.text value elements :: rest) placements
        (value.getD [] ++ elements.flatten ++ following)
  | bare {rest placements following} (elements : List Markup)
      (later : Written options rest placements following) :
      Written options (.image none elements :: rest) placements (elements.flatten ++ following)
  | drawn {rest placements following} (placement : Placement) (elements : List Markup)
      (later : Written options rest placements following) :
      Written options (.image (some placement.picture) elements :: rest) (placement :: placements)
        (placement.drawing options ++ elements.flatten ++ following)

/-- The pictures of pieces are placed in their order. -/
theorem Written.map_picture {options : RenderOptions} {pieces : List (Piece ByteArray)}
    {placements : List Placement} {text : Markup} (h : Written options pieces placements text) :
    placements.map Placement.picture = pieces.filterMap Piece.picture? := by
  induction h with
  | nil => rfl
  | literal | text | bare => simpa [Piece.picture?]
  | drawn => simpa [Piece.picture?]

/-- There is a placement for every picture. -/
theorem Written.length_eq {options : RenderOptions} {pieces : List (Piece ByteArray)}
    {placements : List Placement} {text : Markup} (h : Written options pieces placements text) :
    placements.length = (pieces.filterMap Piece.picture?).length := by
  rw [← h.map_picture, List.length_map]

namespace Written

variable {options : RenderOptions} {ahead behind : List (Piece ByteArray)}
  {placements following : List Placement} {text trail : Markup}

/-- Pieces are written one after the other, each with its own placements. -/
theorem of_append (written : Written options (ahead ++ behind) placements text) :
    ∃ placed following lead trail, placements = placed ++ following ∧ text = lead ++ trail ∧
      Written options ahead placed lead ∧ Written options behind following trail := by
  induction ahead generalizing placements text with
  | nil => exact ⟨[], placements, [], text, rfl, rfl, .nil, written⟩
  | cons piece rest ih =>
      cases written with
      | literal literal later =>
          obtain ⟨placed, following, lead, trail, rfl, rfl, first, second⟩ := ih later
          exact ⟨placed, following, _, trail, rfl, (List.append_assoc ..).symm,
            .literal literal first, second⟩
      | text value elements later =>
          obtain ⟨placed, following, lead, trail, rfl, rfl, first, second⟩ := ih later
          exact ⟨placed, following, _, trail, rfl, (List.append_assoc ..).symm,
            .text value elements first, second⟩
      | bare elements later =>
          obtain ⟨placed, following, lead, trail, rfl, rfl, first, second⟩ := ih later
          exact ⟨placed, following, _, trail, rfl, (List.append_assoc ..).symm,
            .bare elements first, second⟩
      | drawn placement elements later =>
          obtain ⟨placed, following, lead, trail, rfl, rfl, first, second⟩ := ih later
          exact ⟨placement :: placed, following, _, trail, rfl, (List.append_assoc ..).symm,
            .drawn placement elements first, second⟩

theorem append (written : Written options ahead placements text)
    (later : Written options behind following trail) :
    Written options (ahead ++ behind) (placements ++ following) (text ++ trail) := by
  induction written with
  | nil => exact later
  | literal literal _ ih => exact List.append_assoc .. ▸ .literal literal ih
  | text value elements _ ih => exact List.append_assoc .. ▸ .text value elements ih
  | bare elements _ ih => exact List.append_assoc .. ▸ .bare elements ih
  | drawn placement elements _ ih => exact List.append_assoc .. ▸ .drawn placement elements ih

end Written

namespace Embedding

/-- What the next picture of a part is given. -/
def placement (part : String) (picture : ByteArray) (embedding : Embedding) : Placement :=
  let format := ImageFormat.detect picture
  let relationships := embedding.relationships? (Relationships.partFor part)
  { part, picture
    media := mediaName format (freeMedia embedding.document format embedding.nextMedia)
    relationship := relationshipId (freeRelationship relationships (embedding.embedded + 1))
    number := embedding.nextDrawing.toNat }

/-- Pictures are put into parts, one after the other. -/
inductive Run (options : RenderOptions) : Embedding → List Placement → Embedding → Prop where
  | done (embedding : Embedding) : Run options embedding [] embedding
  | embed {before after placements} (part : String) (picture : ByteArray)
      (later : Run options (before.embed options part picture).2 placements after) :
      Run options before (before.placement part picture :: placements) after

/-- Pieces are written by putting their pictures into the part. -/
theorem exists_run_writePieces (options : RenderOptions) (part : String)
    (pieces : List (Piece ByteArray)) (embedding : Embedding) :
    ∃ placements, Run options embedding placements (writePieces options part pieces embedding).2 ∧
      Written options pieces placements (writePieces options part pieces embedding).1 ∧
      ∀ placement ∈ placements, placement.part = part := by
  induction pieces generalizing embedding with
  | nil => exact ⟨[], .done embedding, .nil, by simp⟩
  | cons piece rest ih =>
      cases piece with
      | literal text =>
          obtain ⟨placements, run, written, inPart⟩ := ih embedding
          exact ⟨placements, run, .literal text written, inPart⟩
      | text value elements =>
          obtain ⟨placements, run, written, inPart⟩ := ih embedding
          exact ⟨placements, run, .text value elements written, inPart⟩
      | image picture? elements =>
          cases picture? with
          | none =>
              obtain ⟨placements, run, written, inPart⟩ := ih embedding
              exact ⟨placements, run, .bare elements written, inPart⟩
          | some picture =>
              obtain ⟨placements, run, written, inPart⟩ := ih (embedding.embed options part picture).2
              refine ⟨embedding.placement part picture :: placements, .embed part picture run, ?_, ?_⟩
              · exact .drawn (embedding.placement part picture) elements written
              · exact List.forall_mem_cons.mpr ⟨rfl, inPart⟩

end Embedding

end Stencil
