import Stencil.Proofs.Report.Placement
import Stencil.Proofs.Report.Plan
import Stencil.Proofs.Scan.Splice

/-! # Fillings of tags

What a part is written as is a splice of its source: a text tag is filled with its value, an image
tag with a drawing if it has a picture, and the elements inside the tag stand behind either.

Main statement: `spliced_of_written`.
-/

namespace Stencil

/-- What a text tag is replaced by. -/
def TagSpan.value? (payload : Payload) (linebreaks : Bool) (tag : TagSpan) : Option Markup :=
  (payload.binding tag.tag.identifier).text?.map fun value => Markup.ofValue value.toList linebreaks

/-- The bytes that the locator of an image tag is answered with. -/
def TagSpan.picture? (payload : Payload) (fetch : Fetcher) (tag : TagSpan) : Option ByteArray :=
  (payload.binding tag.tag.identifier).locator?.bind fun locator => (fetch locator).toOption

/-- Pieces that take the place of segments. `answers` tells which pictures an image tag may
    have. -/
inductive Fits (payload : Payload) (linebreaks : Bool)
    (answers : TagSpan → Option ByteArray → Prop) : Segment → Piece ByteArray → Prop where
  | literal (text : Markup) : Fits payload linebreaks answers (.literal text) (.literal text)
  | text (tag : TagSpan) (kind : tag.tag.kind = .text) :
      Fits payload linebreaks answers (.tag tag) (.text (tag.value? payload linebreaks) tag.markup)
  | image (tag : TagSpan) (kind : tag.tag.kind = .image) (picture : Option ByteArray)
      (answered : answers tag picture) :
      Fits payload linebreaks answers (.tag tag) (.image picture tag.markup)

/-- The filling of an image tag with elements inside. -/
inductive PictureFilling (options : RenderOptions) (placements : List Placement)
    (elements : List Markup) : Option ByteArray → Markup → Prop where
  | bare : PictureFilling options placements elements none elements.flatten
  | drawn (placement : Placement) (placed : placement ∈ placements) :
      PictureFilling options placements elements (some placement.picture)
        (placement.drawing options ++ elements.flatten)

/-- The filling of a tag whose span is given. -/
def Fills (payload : Payload) (options : RenderOptions) (placements : List Placement)
    (answers : TagSpan → Option ByteArray → Prop) (span : Markup) (tag : TagSpan)
    (filling : Markup) : Prop :=
  match tag.tag.kind with
  | .text =>
    filling = (tag.value? payload options.linebreaks).getD [] ++ (Markup.elements span).flatten
  | .image => ∃ picture, answers tag picture ∧
      PictureFilling options placements (Markup.elements span) picture filling

section Fitting

variable {payload : Payload} {options : RenderOptions} {placements : List Placement}
  {answers : TagSpan → Option ByteArray → Prop} {segments : List Segment}
  {pieces : List (Piece ByteArray)} {text : Markup}

theorem Fills.mono {more : List Placement} (subset : placements ⊆ more) {span filling : Markup}
    {tag : TagSpan} (h : Fills payload options placements answers span tag filling) :
    Fills payload options more answers span tag filling := by
  unfold Fills at h ⊢
  split
  · next kind => rwa [kind] at h
  · next kind =>
    rw [kind] at h
    obtain ⟨picture, answered, filled⟩ := h
    refine ⟨picture, answered, ?_⟩
    cases filled with
    | bare => exact .bare
    | drawn placement placed => exact .drawn placement (subset placed)

theorem LaidOut.mono {fill fill' : Markup → TagSpan → Markup → Prop}
    (imp : ∀ span tag filling, fill span tag filling → fill' span tag filling)
    (h : LaidOut fill segments text) : LaidOut fill' segments text := by
  induction h with
  | nil => exact .nil
  | literal literal _ ih => exact .literal literal ih
  | tag tag filled _ ih =>
      exact .tag tag (fun start span read => imp _ _ _ (filled start span read)) ih

theorem laidOut_of_written
    (fits : List.Forall₂ (Fits payload options.linebreaks answers) segments pieces)
    (written : Written options pieces placements text) :
    LaidOut (Fills payload options placements answers) segments text := by
  induction fits generalizing placements text with
  | nil =>
      cases written
      exact .nil
  | cons first _ ih =>
      cases first with
      | literal literal =>
          cases written with
          | literal _ later => exact .literal literal (ih later)
      | text tag kind =>
          cases written with
          | text _ _ later =>
              refine .tag tag (fun start span read => ?_) (ih later)
              rw [Fills, kind, markup_of_readSpan read]
      | image tag kind picture answered =>
          cases written with
          | bare _ later =>
              refine .tag tag (fun start span read => ?_) (ih later)
              rw [Fills, kind, markup_of_readSpan read]
              exact ⟨none, answered, .bare⟩
          | drawn placement _ later =>
              refine .tag tag (fun start span read => ?_) ((ih later).mono fun _ _ _ => ?_)
              · rw [Fills, kind, markup_of_readSpan read]
                exact ⟨some placement.picture, answered, .drawn placement List.mem_cons_self⟩
              · exact Fills.mono (List.subset_cons_self placement _)

/-- What pieces are written as is a splice of the source they were made from. -/
theorem spliced_of_written {source : Markup}
    (fits : List.Forall₂ (Fits payload options.linebreaks answers) (scan source).segments pieces)
    (written : Written options pieces placements text) :
    Spliced (Fills payload options placements answers) 0 source (scan source).tags text :=
  spliced_of_laidOut (laidOut_of_written fits written)

/-- Pieces without a tag are written as the source. -/
theorem written_of_untagged {source : Markup}
    (fits : List.Forall₂ (Fits payload options.linebreaks answers) (scan source).segments pieces)
    (untagged : pieces.any Piece.isTag = false) : Written options pieces [] source := by
  have literal : ∀ {segments : List Segment} {pieces : List (Piece ByteArray)},
      List.Forall₂ (Fits payload options.linebreaks answers) segments pieces →
      pieces.any Piece.isTag = false →
      segments.filterMap Segment.tag? = [] ∧ ∃ text, Written options pieces [] text := by
    intro segments pieces fits untagged
    induction fits with
    | nil => exact ⟨rfl, [], .nil⟩
    | cons first _ ih =>
        rw [List.any_cons, Bool.or_eq_false_iff] at untagged
        obtain ⟨tagless, text, written⟩ := ih untagged.2
        cases first with
        | literal literal => exact ⟨tagless, _, .literal literal written⟩
        | text => cases untagged.1
        | image => cases untagged.1
  obtain ⟨tagless, text, written⟩ := literal fits untagged
  have spliced := spliced_of_written fits written
  rw [Scan.tags, tagless] at spliced
  exact spliced.eq_of_nil ▸ written

end Fitting

namespace PartPlan

variable {payload : Payload} {linebreaks : Bool}

/-- The piece of a tag fits it, whatever it is supplied with. -/
theorem fits_pieceOf {name : String} {segment : Segment} {piece : Piece ByteArray}
    (h : Piece.Supplied (pieceOf name payload linebreaks segment) piece) :
    Fits payload linebreaks (fun _ _ => True) segment piece := by
  cases segment with
  | literal text =>
      cases h
      exact .literal text
  | tag tag =>
      rw [pieceOf, pieceOfTag] at h
      cases kind : tag.tag.kind with
      | text =>
          simp only [kind] at h
          cases h
          exact .text tag kind
      | image =>
          simp only [kind] at h
          generalize (payload.binding tag.tag.identifier).locator?.map _ = request at h
          cases h with
          | bare => exact .image tag kind none trivial
          | image _ picture => exact .image tag kind picture trivial

/-- The pieces of a plan fit the segments of its source, whatever the outcomes are. -/
theorem fits_of_supplied {name : String} {segments : List Segment}
    {pieces : List (Piece ByteArray)}
    (h : List.Forall₂ Piece.Supplied (segments.map (pieceOf name payload linebreaks)) pieces) :
    List.Forall₂ (Fits payload linebreaks fun _ _ => True) segments pieces :=
  (List.forall₂_map_left_iff.mp h).imp fun _ _ => fits_pieceOf

/-- The pieces of a plan fit the segments of its source with the pictures that are fetched. -/
theorem fits_fetched (payload : Payload) (linebreaks : Bool) (name : String) (fetch : Fetcher)
    (segments : List Segment) :
    List.Forall₂ (Fits payload linebreaks fun tag picture => picture = tag.picture? payload fetch)
      segments ((segments.map (pieceOf name payload linebreaks)).map (Piece.fetched fetch)) := by
  rw [List.map_map, List.forall₂_map_right_iff]
  refine List.forall₂_same.mpr fun segment _ => ?_
  cases segment with
  | literal text => exact .literal text
  | tag tag =>
      rw [Function.comp_apply, pieceOf, pieceOfTag]
      cases kind : tag.tag.kind with
      | text => exact .text tag kind
      | image =>
          simp only [Piece.fetched]
          refine .image tag kind _ ?_
          rw [TagSpan.picture?, Option.bind_map]
          rfl

/-- A plan of a part whose pieces fit the segments of its source. -/
structure FitsSource (payload : Payload) (linebreaks : Bool)
    (answers : TagSpan → Option ByteArray → Prop) (plan : PartPlan PictureRequest)
    (supplied : PartPlan ByteArray) : Prop where
  name : supplied.name = plan.name
  source : supplied.source = plan.source
  pieces :
    List.Forall₂ (Fits payload linebreaks answers) (scan plan.source).segments supplied.pieces

section

variable {answers : TagSpan → Option ByteArray → Prop}

theorem FitsSource.hasTags_eq {plan : PartPlan PictureRequest} {supplied : PartPlan ByteArray}
    (h : FitsSource payload linebreaks answers plan supplied) :
    supplied.hasTags = (scan plan.source).segments.any fun segment => segment.tag?.isSome := by
  have same : ∀ {segments : List Segment} {pieces : List (Piece ByteArray)},
      List.Forall₂ (Fits payload linebreaks answers) segments pieces →
      pieces.any Piece.isTag = segments.any fun segment => segment.tag?.isSome := by
    intro segments pieces fits
    induction fits with
    | nil => rfl
    | cons first _ ih =>
        rw [List.any_cons, List.any_cons, ih]
        cases first <;> rfl
  exact same h.pieces

variable {plans : List (PartPlan PictureRequest)} {supplied : List (PartPlan ByteArray)}

theorem exists_fitsSource_of_mem
    (fits : List.Forall₂ (FitsSource payload linebreaks answers) plans supplied)
    {plan : PartPlan ByteArray} (mem : plan ∈ supplied) :
    ∃ before ∈ plans, FitsSource payload linebreaks answers before plan := by
  induction fits with
  | nil => cases mem
  | cons first _ ih =>
      rcases List.mem_cons.mp mem with rfl | later
      · exact ⟨_, List.mem_cons_self, first⟩
      · obtain ⟨before, listed, fit⟩ := ih later
        exact ⟨before, List.mem_cons_of_mem _ listed, fit⟩

theorem map_name_of_fitsSource
    (fits : List.Forall₂ (FitsSource payload linebreaks answers) plans supplied) :
    supplied.map name = plans.map name := by
  induction fits with
  | nil => rfl
  | cons first _ ih => rw [List.map_cons, List.map_cons, first.name, ih]

end

variable {plans : List (PartPlan PictureRequest)}

/-- Plans fit their sources, whatever the outcomes of their fetches are. -/
theorem fitsSource_supply
    (made : ∀ plan ∈ plans, plan = make payload linebreaks plan.name plan.source)
    (outcomes : List FetchOutcome) :
    List.Forall₂ (FitsSource payload linebreaks fun _ _ => True) plans (supply plans outcomes) := by
  induction plans generalizing outcomes with
  | nil => exact .nil
  | cons plan rest ih =>
      refine .cons ⟨rfl, rfl, ?_⟩ (ih (List.forall_mem_of_forall_mem_cons made) _)
      have pieces : plan.pieces = (make payload linebreaks plan.name plan.source).pieces :=
        congrArg PartPlan.pieces (made plan List.mem_cons_self)
      have supplied := supplied_supplyPieces plan.pieces outcomes
      generalize (supplyPieces plan.pieces outcomes).1 = pieces' at supplied ⊢
      rw [pieces] at supplied
      exact fits_of_supplied supplied

/-- Fetched plans fit their sources with the pictures that are fetched. -/
theorem fitsSource_fetched (fetch : Fetcher)
    (made : ∀ plan ∈ plans, plan = make payload linebreaks plan.name plan.source) :
    List.Forall₂
      (FitsSource payload linebreaks fun tag picture => picture = tag.picture? payload fetch)
      plans (plans.map (fetched fetch)) := by
  rw [List.forall₂_map_right_iff]
  refine List.forall₂_same.mpr fun plan mem => ⟨rfl, rfl, ?_⟩
  have fits := fits_fetched payload linebreaks plan.name fetch (scan plan.source).segments
  have pieces : plan.pieces = (make payload linebreaks plan.name plan.source).pieces :=
    congrArg PartPlan.pieces (made plan mem)
  rw [fetched, pieces]
  exact fits

end PartPlan

end Stencil
