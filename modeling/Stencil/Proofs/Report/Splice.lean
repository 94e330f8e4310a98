import Stencil.Proofs.Report.Packing

/-! # Reports are splices of their templates

Every part with tags keeps what stands between its tags, byte for byte. A text tag is replaced by
its value, an image tag by a drawing of the picture that its own locator was answered with, and the
elements inside a tag stand behind what replaces it. So it is in the filled document, and in what is
opened of the report.

Main statement: `render_splices`.
-/

namespace Stencil

/-- Whether markup is read as a drawing that names a media part, and the media part of a document has
    the bytes of the picture. -/
def Depicts (options : RenderOptions) (output : Document) (picture : ByteArray)
    (drawing : Markup) : Prop :=
  ∃ media index relationship, media = Embedding.mediaName (ImageFormat.detect picture) index ∧
    output.content? media = some (.binary picture) ∧
    Drawing.Shows drawing relationship (PartName.file media.toList) options.imageWidth
      options.imageHeight

/-- What takes the place of a tag in a document. -/
def Replaces (payload : Payload) (options : RenderOptions) (fetch : Fetcher) (output : Document)
    (span : Markup) (tag : TagSpan) (filling : Markup) : Prop :=
  match tag.tag.kind with
  | .text =>
    filling = (tag.value? payload options.linebreaks).getD [] ++ (Markup.elements span).flatten
  | .image =>
    match tag.picture? payload fetch with
    | none => filling = (Markup.elements span).flatten
    | some picture => ∃ drawing, Depicts options output picture drawing ∧
        filling = drawing ++ (Markup.elements span).flatten

/-- Whether every part with tags of a document is a splice of the part of the template. -/
def Document.IsSpliceOf (output template : Document) (payload : Payload) (options : RenderOptions)
    (fetch : Fetcher) : Prop :=
  ∀ name ∈ template.templateNames, ∃ source text, template.markup? name = some source ∧
    output.markup? name = some text ∧
    Spliced (Replaces payload options fetch output) 0 source (scan source).tags text

section Rendering

variable {document : Document} {payload : Payload} {options : RenderOptions} {fetch : Fetcher}

/-- The drawing of a picture that was put into a part. -/
theorem Embedding.Sound.depicts {placements : List Placement} {embedding : Embedding}
    (sound : Sound document placements embedding) {placement : Placement}
    (placed : placement ∈ placements) :
    Depicts options embedding.finish placement.picture (placement.drawing options) := by
  obtain ⟨index, named⟩ := sound.named placement placed
  exact ⟨placement.media, index, _, named, sound.content?_finish_media placed,
    sound.shows_drawing placed options⟩

/-- A filling with a placed picture is a replacement in the finished document. -/
theorem replaces_of_fills {placements : List Placement} {embedding : Embedding}
    (sound : Embedding.Sound document placements embedding) {span filling : Markup} {tag : TagSpan}
    (h : Fills payload options placements (fun tag picture => picture = tag.picture? payload fetch)
      span tag filling) :
    Replaces payload options fetch embedding.finish span tag filling := by
  unfold Fills at h
  unfold Replaces
  split
  · next kind => rwa [kind] at h
  · next kind =>
    rw [kind] at h
    obtain ⟨picture, answered, filled⟩ := h
    rw [← answered]
    cases filled with
    | bare => rfl
    | drawn placement placed => exact ⟨_, sound.depicts placed, rfl⟩

/-- What replaces a tag is read back with the media part that it names. -/
theorem Replaces.of_reread {output again : Document} {bytes : ByteArray}
    (reread : output.Reread bytes again) {span filling : Markup} {tag : TagSpan}
    (h : Replaces payload options fetch output span tag filling) :
    Replaces payload options fetch again span tag filling := by
  unfold Replaces at h ⊢
  split
  · next kind => rwa [kind] at h
  · next kind =>
    rw [kind] at h
    cases answered : tag.picture? payload fetch with
    | none => rwa [answered] at h
    | some picture =>
        rw [answered] at h
        obtain ⟨drawing, ⟨media, index, relationship, named, stored, shows⟩, filled⟩ := h
        exact ⟨drawing, ⟨media, index, relationship, named, reread.media_eq named stored, shows⟩,
          filled⟩

theorem Spliced.mono {fill fill' : Markup → TagSpan → Markup → Prop}
    (imp : ∀ span tag filling, fill span tag filling → fill' span tag filling) {start : Nat}
    {source text : Markup} {tags : List TagSpan} (h : Spliced fill start source tags text) :
    Spliced fill' start source tags text :=
  h.imp fun span tag filling _ _ => imp span tag filling

/-- A splice is read back as it is. -/
theorem Document.IsSpliceOf.of_reread {output again : Document} {bytes : ByteArray}
    (reread : output.Reread bytes again) (h : output.IsSpliceOf document payload options fetch) :
    again.IsSpliceOf document payload options fetch := by
  intro name listed
  obtain ⟨source, text, there, filled, spliced⟩ := h name listed
  have again := reread.template_eq (Document.isTemplate_of_mem_templateNames listed) filled
  exact ⟨source, text, there, again, spliced.mono fun _ _ _ => Replaces.of_reread reread⟩

theorem isSpliceOf_of_render {report : Report}
    (rendered : render document payload options fetch = .ok report) {output : Document}
    (filled : filledDocument document payload options fetch = .ok output) :
    output.IsSpliceOf document payload options fetch := by
  obtain ⟨output', placements, embedding, filled', -, same, sound, -, parts⟩ :=
    exists_placements_of_render rendered
  rw [filled, Except.ok.injEq, same] at filled'
  subst filled' same
  intro name listed
  obtain ⟨source, block, text, there, part⟩ := parts name listed
  obtain ⟨pieces, fits, written⟩ := part.written
  refine ⟨source, text, there, part.text, (spliced_of_written fits written).mono ?_⟩
  intro span tag filling fills
  exact replaces_of_fills sound (fills.mono part.placed.subset)

/-- Every part with tags of a report is a splice of the part of the template: of the document that the
    report packs, and of the one that the bytes of the report are opened as. -/
theorem render_splices {report : Report}
    (rendered : render document payload options fetch = .ok report) :
    (∃ output, filledDocument document payload options fetch = .ok output ∧
      output.pack = .ok report.bytes ∧ output.IsSpliceOf document payload options fetch) ∧
    (Reopenable document payload options fetch report →
      ∃ again, Document.read report.bytes = .ok again ∧
        again.IsSpliceOf document payload options fetch) := by
  obtain ⟨output, -, -, filled, packed, -⟩ := exists_placements_of_render rendered
  have splice := isSpliceOf_of_render rendered filled
  refine ⟨⟨output, filled, packed, splice⟩, fun reopenable => ?_⟩
  obtain ⟨again, reread⟩ := exists_reread_of_render rendered reopenable filled
  exact ⟨again, reread.opened, splice.of_reread reread⟩

end Rendering

/-- The report of the small template is opened as a splice of it. -/
theorem render_splices_sample :
    ∃ report again, render Sample.document Sample.payload {} Sample.fetch = .ok report ∧
      Document.read report.bytes = .ok again ∧
      again.IsSpliceOf Sample.document Sample.payload {} Sample.fetch := by
  obtain ⟨report, rendered, reopenable⟩ := Sample.exists_reopenable
  obtain ⟨-, opened⟩ := render_splices rendered
  obtain ⟨again, read, splice⟩ := opened reopenable
  exact ⟨report, again, rendered, read, splice⟩

end Stencil
