import Stencil.Proofs.Report.Packing

/-! # Every picture is linked

A picture that was put into a part is declared once among the relationships of the part, by an
identifier that was free there, and what the declaration refers to is a new media part with the
bytes of the picture. The identifiers and the targets are those that are read from the drawings and
from the elements of the relationships.

Main statement: `render_links_pictures`.
-/

namespace Stencil

/-- Whether one more picture finds a place in the relationships of a part, if there are any. -/
def Document.AcceptsPictures (document : Document) (part : String) : Prop :=
  ∀ markup, document.markup? (Relationships.partFor part) = some markup →
    Relationships.Extendable markup

/-- A picture of a report that is linked from its part, as it is read: its drawing refers to a
    relationship, and the relationships of the part give this identifier, once, to an element that
    refers to the media part. -/
structure LinkedPicture (document : Document) (options : RenderOptions) (output : Document)
    (placement : Placement) : Prop where
  shown : Drawing.Shows (placement.drawing options) placement.relationship
    (PartName.file placement.media.toList) options.imageWidth options.imageHeight
  declared : ∃ markup target,
    output.markup? (Relationships.partFor placement.part) = some markup ∧
    Relationships.Declares markup placement.relationship target ∧
    Relationships.resolve placement.part target = placement.media.toList
  named : ∃ number, placement.media =
    Embedding.mediaName (ImageFormat.detect placement.picture) number
  stored : output.content? placement.media = some (.binary placement.picture)
  added : document.contains placement.media = false
  unused : ∀ markup, document.markup? (Relationships.partFor placement.part) = some markup →
    Relationships.hasId markup placement.relationship = false

/-- The pictures of a report, in the order of the image tags that have one: they stand in the texts of
    their parts and are linked from them, each by a name of its own. -/
structure LinkedPictures (document : Document) (payload : Payload) (options : RenderOptions)
    (fetch : Fetcher) (output : Document) (placements : List Placement) : Prop where
  written : ∀ name ∈ document.templateNames, ∃ source block text,
    document.markup? name = some source ∧
    WrittenPart payload options (fun tag picture => picture = tag.picture? payload fetch) placements
      name source output block text
  linked : ∀ placement ∈ placements, document.AcceptsPictures placement.part →
    LinkedPicture document options output placement
  relationships : ∀ part, document.AcceptsPictures part →
    ((placements.filter (·.part = part)).map Placement.relationship).Nodup
  media : (placements.map Placement.media).Nodup

namespace Embedding.Sound

variable {document : Document} {placements : List Placement} {embedding : Embedding}

theorem linkedPicture (h : Sound document placements embedding) {placement : Placement}
    (mem : placement ∈ placements) (accepts : document.AcceptsPictures placement.part)
    (options : RenderOptions) : LinkedPicture document options embedding.finish placement := by
  obtain ⟨after, there, linked⟩ := h.linked_finish mem accepts
  have own : placement ∈ placements.filter (·.home = placement.home) :=
    List.mem_filter.mpr ⟨mem, decide_eq_true rfl⟩
  obtain ⟨number, named⟩ := h.named placement mem
  constructor
  case shown =>
    have shows := h.shows_drawing mem options
    rwa [Markup.escape_of_isAlphanum (linked.plain placement own)] at shows
  case declared =>
    refine ⟨after, _, there, linked.declared placement own, ?_⟩
    rw [Placement.target, named, escape_target_mediaName]
    exact Relationships.resolve_target placement.part _ (not_infix_mediaName _ number)
  case named => exact ⟨number, named⟩
  case stored => exact h.content?_finish_media mem
  case added => exact h.fresh placement mem
  case unused => exact fun markup same => linked.fresh markup same placement own

/-- The identifiers that are given within one part differ. -/
theorem nodup_relationships (h : Sound document placements embedding) {part : String}
    (accepts : document.AcceptsPictures part) :
    ((placements.filter (·.part = part)).map Placement.relationship).Nodup := by
  have inHome : (placements.filter (·.part = part)).Sublist
      (placements.filter (·.home = Relationships.partFor part)) := by
    refine List.monotone_filter_right placements fun placement here => ?_
    have same := of_decide_eq_true here
    exact decide_eq_true (same ▸ rfl)
  cases own : placements.filter (·.home = Relationships.partFor part) with
  | nil =>
      rw [own] at inHome
      rw [List.sublist_nil.mp inHome]
      exact List.nodup_nil
  | cons first rest =>
      obtain ⟨mem, lives⟩ := List.mem_filter.mp (own ▸ List.mem_cons_self : first ∈ _)
      have home : first.home = Relationships.partFor part := of_decide_eq_true lives
      obtain ⟨after, -, linked⟩ := h.linked_finish mem fun markup same => accepts markup (home ▸ same)
      rw [home] at linked
      exact linked.distinct.sublist (inHome.map Placement.relationship)

end Embedding.Sound

/-- Both searches end with the first number that is free. -/
def SearchesEnd : Prop :=
  (∀ (document : Document) (format : ImageFormat) (start : Nat),
    Embedding.IsFirstFree
      (fun number => document.contains (Embedding.mediaName format number)) start
      (Embedding.freeMedia document format start)) ∧
  ∀ (relationships : Option Markup) (start : Nat),
    Embedding.IsFirstFree
      (fun number => relationships.any fun markup =>
        Relationships.hasId markup (Embedding.relationshipId number)) start
      (Embedding.freeRelationship relationships start)

section Rereading

variable {document output again : Document} {payload : Payload} {options : RenderOptions}
  {fetch : Fetcher} {placements : List Placement} {bytes : ByteArray}

/-- A linked picture is read back with the element that declares it. -/
theorem LinkedPicture.of_reread {placement : Placement} (reread : output.Reread bytes again)
    (h : LinkedPicture document options output placement) :
    LinkedPicture document options again placement := by
  obtain ⟨markup, target, there, declares, resolved⟩ := h.declared
  obtain ⟨number, named⟩ := h.named
  exact
    { h with
      declared := ⟨markup, target, reread.markup?_eq (PartName.isMarkup_partFor _) there, declares,
        resolved⟩
      stored := reread.media_eq named h.stored }

theorem LinkedPictures.of_reread (reread : output.Reread bytes again)
    (h : LinkedPictures document payload options fetch output placements) :
    LinkedPictures document payload options fetch again placements := by
  constructor
  case written =>
    intro name listed
    obtain ⟨source, block, text, there, part⟩ := h.written name listed
    have again := reread.template_eq (Document.isTemplate_of_mem_templateNames listed) part.text
    exact ⟨source, block, text, there, { part with text := again }⟩
  case linked =>
    exact fun placement mem accepts => (h.linked placement mem accepts).of_reread reread
  case relationships => exact h.relationships
  case media => exact h.media

end Rereading

/-- Every picture of a report is linked from its part, where it finds a place in the relationships
    of the part: in the document that the report packs, and in the one that the bytes of the report are
    opened as. The searches for free numbers end. -/
theorem render_links_pictures {document : Document} {payload : Payload} {options : RenderOptions}
    {fetch : Fetcher} {report : Report}
    (rendered : render document payload options fetch = .ok report) :
    (∃ output placements, filledDocument document payload options fetch = .ok output ∧
      output.pack = .ok report.bytes ∧
      placements.length = report.statistics.imagesEmbedded ∧
      LinkedPictures document payload options fetch output placements ∧
      (Reopenable document payload options fetch report →
        ∃ again, Document.read report.bytes = .ok again ∧
          LinkedPictures document payload options fetch again placements)) ∧
    SearchesEnd := by
  obtain ⟨output, placements, embedding, filled, packed, rfl, sound, length, written⟩ :=
    exists_placements_of_render rendered
  have linked : LinkedPictures document payload options fetch embedding.finish placements :=
    { written
      linked := fun placement mem accepts => sound.linkedPicture mem accepts options
      relationships := fun part accepts => sound.nodup_relationships accepts
      media := sound.distinct }
  refine ⟨⟨embedding.finish, placements, filled, packed, length, linked, fun reopenable => ?_⟩,
    Embedding.freeMedia_isFirstFree, Embedding.freeRelationship_isFirstFree⟩
  obtain ⟨again, reread⟩ := exists_reread_of_render rendered reopenable filled
  exact ⟨again, reread.opened, linked.of_reread reread⟩

/-- The pictures of the small template are linked in what its report is opened as. -/
theorem render_links_pictures_sample :
    Sample.document.AcceptsPictures PartName.mainDocument ∧
    (∃ report again placements,
      render Sample.document Sample.payload {} Sample.fetch = .ok report ∧
      placements.length = report.statistics.imagesEmbedded ∧
      Document.read report.bytes = .ok again ∧
      LinkedPictures Sample.document Sample.payload {} Sample.fetch again placements) ∧
    SearchesEnd := by
  obtain ⟨report, rendered, reopenable⟩ := Sample.exists_reopenable
  obtain ⟨⟨output, placements, -, -, length, -, opened⟩, searches⟩ := render_links_pictures rendered
  obtain ⟨again, read, linked⟩ := opened reopenable
  refine ⟨fun markup there => .inl ?_, ⟨report, again, placements, rendered, length, read, linked⟩,
    searches⟩
  have links : Sample.document.markup? (Relationships.partFor PartName.mainDocument) =
      some "<Relationships><Relationship Id=\"rIdReportgen1\"/></Relationships>".toList := by
    decide +kernel
  rw [links, Option.some.injEq] at there
  exact there ▸ Text.occurs_iff.mp (by decide +kernel)

end Stencil
