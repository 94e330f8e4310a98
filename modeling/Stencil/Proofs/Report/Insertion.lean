import Stencil.Proofs.Report.Retexting
import Stencil.Proofs.Report.Splice
import Stencil.Proofs.Scan.Insertion

/-! # Reports of tags with elements inside

A tag that a text processor has split over several runs is filled as if it stood in one: the text is
that of the contiguous tag, with the elements that split it behind what replaces it. Only the numbers
of drawings may differ, since an element may bring a number of its own.

Main statement: `render_inserted`.
-/

namespace Stencil

namespace Piece

variable {Picture : Type}

/-- The piece with other elements inside its tag. -/
def holding (elements : List Markup) : Piece Picture → Piece Picture
  | .literal markup => .literal markup
  | .text value _ => .text value elements
  | .image request _ => .image request elements

@[simp] theorem picture?_holding (elements : List Markup) (piece : Piece Picture) :
    (piece.holding elements).picture? = piece.picture? := by
  rcases piece with _ | _ | (_ | _) <;> rfl

@[simp] theorem isTag_holding (elements : List Markup) (piece : Piece Picture) :
    (piece.holding elements).isTag = piece.isTag := by
  cases piece <;> rfl

end Piece

namespace PartPlan

variable (payload : Payload) (linebreaks : Bool) (fetch : Fetcher) (name : String)

/-- What takes the place of a segment once the pictures are fetched. -/
def fetchedPiece (segment : Segment) : Piece ByteArray :=
  (pieceOf name payload linebreaks segment).fetched fetch

theorem fetchedPiece_moved (size : Nat) (segment : Segment) :
    fetchedPiece payload linebreaks fetch name (segment.moved size) =
      fetchedPiece payload linebreaks fetch name segment := by
  cases segment <;> rfl

theorem fetchedPiece_holding (elements : List Markup) (tag : TagSpan) :
    fetchedPiece payload linebreaks fetch name (.tag (tag.holding elements)) =
      (fetchedPiece payload linebreaks fetch name (.tag tag)).holding elements := by
  simp only [fetchedPiece, pieceOf, pieceOfTag, TagSpan.holding]
  cases tag.tag.kind <;> rfl

theorem fits_fetchedPiece (segments : List Segment) :
    List.Forall₂ (Fits payload linebreaks fun tag picture => picture = tag.picture? payload fetch)
      segments (segments.map (fetchedPiece payload linebreaks fetch name)) := by
  have fits := fits_fetched payload linebreaks name fetch segments
  rwa [List.map_map] at fits

theorem pieces_fetched_make (source : Markup) :
    ((make payload linebreaks name source).fetched fetch).pieces =
      (scan source).segments.map (fetchedPiece payload linebreaks fetch name) := by
  rw [fetched, make, List.map_map]
  rfl

end PartPlan

section Pieces

variable {payload : Payload} {options : RenderOptions} {fetch : Fetcher} {placements : List Placement}
  {front back : List Segment} {tag : TagSpan} {elements : List Markup} {text : Markup}

/-- Elements inside a tag without any are written behind what replaces it. -/
theorem Fits.written_holding {answers : TagSpan → Option ByteArray → Prop} {piece : Piece ByteArray}
    (fits : Fits payload options.linebreaks answers (.tag tag) piece) (bare : tag.markup = [])
    (written : Written options [piece] placements text) (elements : List Markup) :
    Written options [piece.holding elements] placements (text ++ elements.flatten) := by
  cases fits with
  | text _ kind =>
      rw [bare] at written
      cases written with
      | text _ _ later =>
          cases later
          simpa [Piece.holding] using Written.text (tag.value? payload options.linebreaks) elements .nil
  | image _ kind picture answered =>
      rw [bare] at written
      cases written with
      | bare _ later =>
          cases later
          simpa [Piece.holding] using Written.bare elements .nil
      | drawn placement _ later =>
          cases later
          simpa [Piece.holding] using Written.drawn placement elements .nil

theorem exists_holding_of_written {name : String} {start : Nat} {span : Markup}
    (read : Scan.readSpan start span = .inl tag) (bare : tag.markup = []) (elements : List Markup)
    (written : Written options ((front ++ .tag tag :: back).map
      (PartPlan.fetchedPiece payload options.linebreaks fetch name)) placements text) :
    let fill := Fills payload options placements fun tag picture =>
      picture = tag.picture? payload fetch
    ∃ lead filling trail, text = lead ++ filling ++ trail ∧ LaidOut fill front lead ∧
      fill span tag filling ∧ LaidOut fill back trail ∧
      Written options ((front ++ .tag (tag.holding elements) :: back).map
        (PartPlan.fetchedPiece payload options.linebreaks fetch name)) placements
        (lead ++ filling ++ elements.flatten ++ trail) := by
  intro fill
  have fits := PartPlan.fits_fetchedPiece payload options.linebreaks fetch name
  have fit := (List.forall₂_cons.mp (fits [.tag tag])).1
  rw [List.map_append, List.map_cons, ← List.singleton_append] at written
  -- the pieces before the tag, its own and those behind it have placements of their own
  obtain ⟨placed, _, lead, _, rfl, rfl, first, rest⟩ := written.of_append
  obtain ⟨own, following, filling, trail, rfl, rfl, filled, last⟩ := rest.of_append
  refine ⟨lead, filling, trail, (List.append_assoc ..).symm, ?_, ?_, ?_, ?_⟩
  · exact (laidOut_of_written (fits front) first).mono fun _ _ _ =>
      Fills.mono (List.subset_append_left _ _)
  · cases laidOut_of_written (fits [.tag tag]) filled with
    | tag _ fills later =>
        cases later
        rw [List.append_nil]
        exact (fills start span read).mono
          (List.Subset.trans (List.subset_append_left _ _) (List.subset_append_right _ _))
  · exact (laidOut_of_written (fits back) last).mono fun _ _ _ =>
      Fills.mono (List.Subset.trans (List.subset_append_right _ _) (List.subset_append_right _ _))
  · have held := first.append ((fit.written_holding bare filled elements).append last)
    rw [List.map_append, List.map_cons, ← List.singleton_append, PartPlan.fetchedPiece_holding]
    simpa only [List.append_assoc] using held

end Pieces

namespace PartPlan

section Holding

variable {payload : Payload} {linebreaks : Bool} {fetch : Fetcher} {name : String}
  {kind : TagKind} {before body changed after : Markup} {tag : TagSpan} {elements : List Markup}

/-- With elements inside a tag, all pieces but that of the tag are the same. -/
theorem pieces_holding (recognised : Recognised before kind body after tag)
    (plain : Markup.Plain body) (inserted : Inserted elements body changed) (payload : Payload)
    (linebreaks : Bool) (fetch : Fetcher) (name : String) :
    ((make payload linebreaks name (before ++ kind.enclose changed ++ after)).fetched fetch).pieces =
      ((scan before).segments ++ .tag (tag.holding elements) ::
        (scan after).segments.map (Segment.moved tag.stop)).map
          (fetchedPiece payload linebreaks fetch name) := by
  have unmoved (segments : List Segment) (size : Nat) :
      (segments.map (Segment.moved size)).map (fetchedPiece payload linebreaks fetch name) =
        segments.map (fetchedPiece payload linebreaks fetch name) := by
    rw [List.map_map]
    exact List.map_congr_left fun segment _ => fetchedPiece_moved ..
  rw [pieces_fetched_make, recognised.segments_holding plain inserted, List.map_append,
    List.map_append, List.map_cons, List.map_cons, unmoved _ (Text.byteSize elements.flatten)]

/-- Elements inside a tag ask for no other pictures. -/
theorem Retexted.alike (recognised : Recognised before kind body after tag)
    (plain : Markup.Plain body) (inserted : Inserted elements body changed)
    {plan plan' : PartPlan ByteArray}
    (h : Retexted payload linebreaks fetch name (before ++ kind.enclose body ++ after)
      (before ++ kind.enclose changed ++ after) plan plan') : plan.Alike plan' := by
  cases h with
  | same => exact ⟨rfl, rfl, rfl⟩
  | changed =>
      have held := pieces_holding recognised plain inserted payload linebreaks fetch name
      refine ⟨rfl, ?_, ?_⟩
      · rw [pictures, pictures, held, pieces_fetched_make, recognised.segments_eq]
        simp only [List.map_append, List.map_cons, List.filterMap_append, List.filterMap_cons,
          fetchedPiece_holding, Piece.picture?_holding]
      · rw [hasTags, hasTags, held, pieces_fetched_make, recognised.segments_eq]
        simp only [List.map_append, List.map_cons, List.any_append, List.any_cons,
          fetchedPiece_holding, Piece.isTag_holding]

end Holding

end PartPlan

/-- A text that is filled from segments with a tag among them, and the text with elements behind what
    replaces the tag, up to the numbers of drawings. -/
def FilledBehind (fill : Markup → TagSpan → Markup → Prop) (front : List Segment) (span : Markup)
    (tag : TagSpan) (back : List Segment) (elements : List Markup) (text text' : Markup) : Prop :=
  ∃ lead filling trail, LaidOut fill front lead ∧ fill span tag filling ∧ LaidOut fill back trail ∧
    text = lead ++ filling ++ trail ∧ Renumbered (lead ++ filling ++ elements.flatten ++ trail) text'

/-- Filled documents, the second of which has elements behind what replaces a tag of one part, up to
    the numbers of drawings. -/
structure FilledHolding (payload : Payload) (options : RenderOptions) (fetch : Fetcher) (name : String)
    (front : List Segment) (span : Markup) (tag : TagSpan) (back : List Segment)
    (elements : List Markup) (document output output' : Document) : Prop where
  part : ∃ text text', output.markup? name = some text ∧ output'.markup? name = some text' ∧
    FilledBehind (Replaces payload options fetch output) front span tag back elements text text'
  others : ∀ other ∈ document.templateNames, other ≠ name → ∃ text text',
    output.markup? other = some text ∧ output'.markup? other = some text' ∧ Renumbered text text'

section Holding

variable {kind : TagKind} {before body changed after : Markup} {tag : TagSpan} {elements : List Markup}

theorem filledHolding_of_differIn (recognised : Recognised before kind body after tag)
    (plain : Markup.Plain body) (inserted : Inserted elements body changed) {name : String}
    {document document' output output' : Document}
    (differ : Document.DifferIn name (before ++ kind.enclose body ++ after)
      (before ++ kind.enclose changed ++ after) document document')
    {payload : Payload} {options : RenderOptions} {fetch : Fetcher}
    (filled : filledDocument document payload options fetch = .ok output)
    (filled' : filledDocument document' payload options fetch = .ok output') :
    FilledHolding payload options fetch name (scan before).segments (kind.enclose body) tag
      ((scan after).segments.map (Segment.moved tag.stop)) elements document output output' := by
  obtain ⟨-, placements, embedding, sound, rfl, texts⟩ := exists_filledAlike_of_differIn differ
    (fun _ _ => PartPlan.Retexted.alike recognised plain inserted) filled filled'
  constructor
  case part =>
    obtain ⟨plan, plan', retexted, named, block, block', text, text', inside, renumbers, written,
      there, written', there'⟩ := texts name differ.mem_templateNames
    cases retexted with
    | same _ other => exact absurd named other
    | changed =>
        obtain ⟨read, -, -⟩ := recognised.readSpan_eq
        have bare : tag.markup = [] := by
          rw [markup_of_readSpan read, elements_enclose, Markup.elements_of_inner plain]
        rw [PartPlan.pieces_fetched_make, recognised.segments_eq] at written
        rw [PartPlan.pieces_holding recognised plain inserted] at written'
        obtain ⟨lead, filling, trail, rfl, ahead, replaced, behind, held⟩ :=
          exists_holding_of_written read bare elements written
        -- `held` is the second text with the placements of the first one, which differ in their numbers
        have replaces (span : Markup) (tag : TagSpan) (filling : Markup)
            (fills : Fills payload options block (fun tag picture => picture = tag.picture? payload fetch)
              span tag filling) :
            Replaces payload options fetch embedding.finish span tag filling :=
          replaces_of_fills sound (fills.mono inside)
        exact ⟨_, text', there, there', lead, filling, trail, ahead.mono replaces,
          replaces _ _ _ replaced, behind.mono replaces, rfl, held.renumbered written' renumbers⟩
  case others =>
    intro other listed apart
    obtain ⟨plan, plan', retexted, rfl, block, block', text, text', -, renumbers, written, there,
      written', there'⟩ := texts other listed
    cases retexted with
    | same => exact ⟨text, text', there, there', written.renumbered written' renumbers⟩
    | changed => exact absurd rfl apart

/-- Filled documents are read back with the elements where they are. -/
theorem FilledHolding.of_reread {payload : Payload} {options : RenderOptions} {fetch : Fetcher}
    {name : String} {front back : List Segment} {span : Markup}
    {document output output' again again' : Document} {bytes bytes' : ByteArray}
    (tagged : PartName.isTemplate name = true) (reread : output.Reread bytes again)
    (reread' : output'.Reread bytes' again')
    (h : FilledHolding payload options fetch name front span tag back elements document output
      output') :
    FilledHolding payload options fetch name front span tag back elements document again again' := by
  constructor
  case part =>
    obtain ⟨text, text', there, there', lead, filling, trail, ahead, replaced, behind, rest⟩ := h.part
    exact ⟨text, text', reread.template_eq tagged there, reread'.template_eq tagged there', lead, filling,
      trail, ahead.mono fun _ _ _ => Replaces.of_reread reread, replaced.of_reread reread,
      behind.mono fun _ _ _ => Replaces.of_reread reread, rest⟩
  case others =>
    intro other listed apart
    have tagged := Document.isTemplate_of_mem_templateNames listed
    obtain ⟨text, text', there, there', same⟩ := h.others other listed apart
    exact ⟨text, text', reread.template_eq tagged there, reread'.template_eq tagged there', same⟩

/-- A tag that is split over several runs behaves like the contiguous tag. With elements inserted
    anywhere in its body, a tag is scanned as the same tag among the same segments, and it holds the
    elements in their order. What is filled, and what the report is opened as, is the same text with
    the elements behind what replaces the tag, up to the numbers of drawings. -/
theorem render_inserted (recognised : Recognised before kind body after tag)
    (plain : Markup.Plain body) (inserted : Inserted elements body changed) :
    (scan (before ++ kind.enclose body ++ after)).segments =
      (scan before).segments ++ .tag tag :: (scan after).segments.map (Segment.moved tag.stop) ∧
    (scan (before ++ kind.enclose changed ++ after)).segments =
      (scan before).segments ++ .tag (tag.holding elements) ::
        ((scan after).segments.map (Segment.moved tag.stop)).map
          (Segment.moved (Text.byteSize elements.flatten)) ∧
    ∀ name document document',
      Document.DifferIn name (before ++ kind.enclose body ++ after)
        (before ++ kind.enclose changed ++ after) document document' →
      ∀ payload options fetch,
        ((∃ output, filledDocument document payload options fetch = .ok output) ↔
          ∃ output, filledDocument document' payload options fetch = .ok output) ∧
        (∀ output output', filledDocument document payload options fetch = .ok output →
          filledDocument document' payload options fetch = .ok output' →
          (∀ report, render document payload options fetch = .ok report →
            output.pack = .ok report.bytes) ∧
          (∀ report, render document' payload options fetch = .ok report →
            output'.pack = .ok report.bytes) ∧
          FilledHolding payload options fetch name (scan before).segments (kind.enclose body) tag
            ((scan after).segments.map (Segment.moved tag.stop)) elements document output output') ∧
        ∀ report report', render document payload options fetch = .ok report →
          render document' payload options fetch = .ok report' →
          Reopenable document payload options fetch report →
          Reopenable document' payload options fetch report' →
          ∃ again again', Document.read report.bytes = .ok again ∧
            Document.read report'.bytes = .ok again' ∧
            FilledHolding payload options fetch name (scan before).segments (kind.enclose body) tag
              ((scan after).segments.map (Segment.moved tag.stop)) elements document again again' := by
  refine ⟨recognised.segments_eq, recognised.segments_holding plain inserted, ?_⟩
  intro name document document' differ payload options fetch
  refine ⟨⟨?_, ?_⟩, fun output output' filled filled' => ⟨?_, ?_, ?_⟩,
    fun report report' rendered rendered' reopenable reopenable' => ?_⟩
  · exact fun ⟨_, filled⟩ => exists_filledDocument_of_differIn differ filled
  · exact fun ⟨_, filled⟩ => exists_filledDocument_of_differIn differ.symm filled
  · exact fun report rendered => pack_of_render rendered filled
  · exact fun report rendered => pack_of_render rendered filled'
  · exact filledHolding_of_differIn recognised plain inserted differ filled filled'
  · obtain ⟨output, -, -, filled, -⟩ := exists_placements_of_render rendered
    obtain ⟨output', -, -, filled', -⟩ := exists_placements_of_render rendered'
    obtain ⟨again, reread⟩ := exists_reread_of_render rendered reopenable filled
    obtain ⟨again', reread'⟩ := exists_reread_of_render rendered' reopenable' filled'
    exact ⟨again, again', reread.opened, reread'.opened,
      (filledHolding_of_differIn recognised plain inserted differ filled filled').of_reread
        differ.tagged reread reread'⟩

end Holding

namespace Sample

/-- The text before the tag that is split over two runs. -/
def beforeLogo : Markup := "<w:r><w:t>{{name}}: ".toList

def afterLogo : Markup := " {%seal:x%}{%gone}.</w:t></w:r>".toList

/-- The text with the tag in one run. -/
def contiguousRuns : Markup :=
  beforeLogo ++ TagKind.image.enclose ['l', 'o', 'g', 'o'] ++ afterLogo

def contiguous : Document :=
  template contiguousRuns

def logo : TagSpan :=
  { start := 20, stop := 27, text := "{%logo}".toList
    tag := { kind := .image, identifier := "logo", formatter := none }, markup := [] }

theorem recognised_logo : Recognised beforeLogo .image ['l', 'o', 'g', 'o'] afterLogo logo where
  listed := by decide +kernel
  start := by decide
  stop := by decide

/-- The elements that split the tag. -/
def breaks : List Markup :=
  ["</w:t>".toList, "</w:r>".toList, "<w:r>".toList, "<w:t>".toList]

/-- The body of the tag with the elements that split it. -/
def splitLogo : Markup :=
  'l' :: 'o' :: (breaks.flatten ++ ['g', 'o'])

theorem inserted_breaks : Inserted breaks ['l', 'o', 'g', 'o'] splitLogo := by
  have found : ∀ element ∈ breaks, Markup.takeElement? element = some (element, []) ∧
      element.all isBody = true := by decide
  have inner : ∀ element ∈ breaks, Markup.IsElement element ∧ BraceFree element := fun element mem =>
    ⟨(Markup.takeElement?_eq_some.mp (found element mem).1).1,
      List.all_eq_true.mp (found element mem).2⟩
  exact .keep 'l' (.keep 'o' (Inserted.many inner (.keep 'g' (.keep 'o' .nil))))

theorem names_template (text : Markup) : (template text).names = [PartName.contentTypes,
    PartName.mainDocument, Relationships.partFor PartName.mainDocument] := rfl

theorem content?_template (text : Markup) (name : String) : (template text).content? name =
    if types.name = name then some types.content
    else if PartName.mainDocument = name then some (.markup text)
    else if links.name = name then some links.content else none := by
  have body : (original PartName.mainDocument (.markup text)).name = PartName.mainDocument := rfl
  simp only [Document.content?, Document.part?, template, opened, List.find?_cons, List.find?_nil, body]
  by_cases first : types.name = name
  · simp only [first, if_true, decide_true, Option.map_some]
  by_cases second : PartName.mainDocument = name
  · simp only [first, second, if_true, if_false, decide_true, decide_false, Option.map_some]
    rfl
  by_cases third : links.name = name
  · simp only [first, second, third, if_true, if_false, decide_true, decide_false, Option.map_some]
  · simp only [first, second, third, if_false, decide_false, Option.map_none]

theorem markup?_template (text : Markup) :
    (template text).markup? PartName.mainDocument = some text := by
  have apart : types.name ≠ PartName.mainDocument := by decide
  refine Document.markup?_of_content? ?_
  rw [content?_template, if_neg apart, if_pos rfl]

theorem differIn_template (source source' : Markup) :
    Document.DifferIn PartName.mainDocument source source' (template source)
      (template source') where
  tagged := by decide
  names := (names_template source').trans (names_template source).symm
  there := markup?_template source
  there' := markup?_template source'
  others := fun name apart => by
    rw [content?_template, content?_template, if_neg apart.symm, if_neg apart.symm]

theorem exists_reopenable_contiguous :
    ∃ report, render contiguous payload {} fetch = .ok report ∧
      Reopenable contiguous payload {} fetch report :=
  exists_reopenable_template (by decide) (by decide +kernel)

end Sample

/-- The report of the template whose tag is split over two runs is opened as that of the one with the
    tag in one run. -/
theorem render_inserted_sample :
    ∃ report report' again again',
      render Sample.contiguous Sample.payload {} Sample.fetch = .ok report ∧
      render Sample.document Sample.payload {} Sample.fetch = .ok report' ∧
      Document.read report.bytes = .ok again ∧ Document.read report'.bytes = .ok again' ∧
      FilledHolding Sample.payload {} Sample.fetch PartName.mainDocument
        (scan Sample.beforeLogo).segments (TagKind.image.enclose ['l', 'o', 'g', 'o']) Sample.logo
        ((scan Sample.afterLogo).segments.map (Segment.moved Sample.logo.stop)) Sample.breaks
        Sample.contiguous again again' := by
  obtain ⟨-, -, documents⟩ := render_inserted Sample.recognised_logo (by decide)
    Sample.inserted_breaks
  have differ := Sample.differIn_template
    (Sample.beforeLogo ++ TagKind.image.enclose ['l', 'o', 'g', 'o'] ++ Sample.afterLogo)
    (Sample.beforeLogo ++ TagKind.image.enclose Sample.splitLogo ++ Sample.afterLogo)
  obtain ⟨-, -, opened⟩ := documents _ _ _ differ Sample.payload {} Sample.fetch
  obtain ⟨report, rendered, reopenable⟩ := Sample.exists_reopenable_contiguous
  obtain ⟨report', rendered', reopenable'⟩ := Sample.exists_reopenable
  obtain ⟨again, again', read, read', holding⟩ :=
    opened report report' rendered rendered' reopenable reopenable'
  exact ⟨report, report', again, again', rendered, rendered', read, read', holding⟩

end Stencil
