import Stencil.Proofs.Package.Extension
import Stencil.Proofs.Package.Reading
import Stencil.Proofs.Report.Account

/-! # What a report leaves as it is

A report changes the text of the parts with tags, and where pictures are embedded it changes
declarations and relationships. All other parts stay as they are, and the added ones stand behind
them.

Main statement: `render_changes_only`.
-/

namespace Stencil

/-- The media part that a placement adds. -/
def Placement.mediaPart (placement : Placement) : Part :=
  { name := placement.media, content := .binary placement.picture, original := false
    modified := true }

namespace Embedding

theorem mem_map_setRelationships {name other : String} {markup : Markup}
    {related : List (String × Markup)} :
    other ∈ (setRelationships name markup related).map Prod.fst ↔
      other = name ∨ other ∈ related.map Prod.fst := by
  refine ⟨mem_setRelationships, fun h => ?_⟩
  induction related with
  | nil => simpa [setRelationships] using h
  | cons entry rest ih =>
      obtain ⟨first, kept⟩ := entry
      rw [setRelationships]
      split
      · next same => simpa [← same] using h
      · split
        · simpa using h
        · simp only [List.map_cons, List.mem_cons] at h ⊢
          tauto

/-- What was added to a document while pictures were put into it, and what may have changed. -/
structure Framed (document : Document) (changing : String → Prop) (placements : List Placement)
    (embedding : Embedding) : Prop where
  frame : document.Extends changing (placements.map Placement.mediaPart) embedding.document
  named : ∀ placement ∈ placements, ∃ number,
    placement.media = mediaName (ImageFormat.detect placement.picture) number
  sorted : embedding.homes.Pairwise (· < ·)
  housed : ∀ home, home ∈ embedding.homes ↔ ∃ placement ∈ placements, placement.home = home
  counted : embedding.embedded = placements.length

namespace Framed

variable {document : Document} {changing : String → Prop} {placements : List Placement}
  {embedding : Embedding}

theorem begin (document : Document) (changing : String → Prop) (contentTypes : Markup)
    (nextDrawing : UInt32) :
    Framed document changing [] (Embedding.begin document contentTypes nextDrawing) where
  frame := .refl document changing
  named := by simp
  sorted := List.Pairwise.nil
  housed := by simp [homes, Embedding.begin]
  counted := rfl

/-- A picture adds its media part and nothing else. -/
theorem embed (h : Framed document changing placements embedding) (options : RenderOptions)
    (part : String) (picture : ByteArray) :
    Framed document changing (placements ++ [embedding.placement part picture])
      (embedding.embed options part picture).2 := by
  have added : (embedding.embed options part picture).2.homes =
      (setRelationships (Relationships.partFor part)
        (Relationships.addImage (embedding.relationships? (Relationships.partFor part))
          (embedding.placement part picture).relationship
          (embedding.placement part picture).target) embedding.relationships).map Prod.fst := rfl
  constructor
  case frame =>
    have next := h.frame.add (contains_placement_media embedding part picture) (.binary picture)
    rwa [List.map_append, List.map_singleton]
  case named => exact List.forall_mem_append.mpr ⟨h.named, List.forall_mem_singleton.mpr ⟨_, rfl⟩⟩
  case sorted =>
    rw [added]
    exact sorted_setRelationships h.sorted
  case housed =>
    intro home
    rw [added, mem_map_setRelationships, ← homes, h.housed]
    simp only [List.mem_append, List.mem_singleton, or_and_right, exists_or, exists_eq_left]
    exact or_comm.trans (or_congr_right eq_comm)
  case counted =>
    rw [List.length_append, List.length_singleton, ← h.counted]
    rfl

theorem setText (h : Framed document changing placements embedding) {name : String}
    (there : document.contains name = true) (changes : changing name) (text : Markup) :
    Framed document changing placements
      { embedding with document := embedding.document.set name (.markup text) } where
  frame := h.frame.change there changes _
  named := h.named
  sorted := h.sorted
  housed := h.housed
  counted := h.counted

theorem of_course {options : RenderOptions} {writes : String → Prop} {contentTypes : Markup}
    {nextDrawing : UInt32}
    (course : Course options writes (Embedding.begin document contentTypes nextDrawing) placements
      embedding)
    (there : ∀ name, writes name → document.contains name = true)
    (changes : ∀ name, writes name → changing name) :
    Framed document changing placements embedding := by
  induction course with
  | start => exact .begin document changing contentTypes nextDrawing
  | embed _ part picture ih => exact ih.embed options part picture
  | setText _ writable text ih => exact ih.setText (there _ writable) (changes _ writable) text

/-- Written relationships change those that there were and add those that were lacking. -/
theorem exists_foldl_set {after : Document} {added : List Part} {entries : List (String × Markup)}
    (h : document.Extends changing added after) (distinct : (entries.map Prod.fst).Nodup)
    (apart : ∀ name ∈ entries.map Prod.fst, name ∉ added.map Part.name)
    (changes : ∀ name ∈ entries.map Prod.fst, changing name) :
    ∃ lacking, document.Extends changing (added ++ lacking)
        (entries.foldl (fun document (name, markup) => document.set name (.markup markup)) after) ∧
      lacking.map Part.name =
        (entries.map Prod.fst).filter fun name => !document.contains name := by
  induction entries generalizing added after with
  | nil => exact ⟨[], (List.append_nil added).symm ▸ h, rfl⟩
  | cons entry rest ih =>
      obtain ⟨name, markup⟩ := entry
      rw [List.map_cons, List.nodup_cons] at distinct
      rw [List.map_cons, List.forall_mem_cons] at apart changes
      rw [List.foldl_cons, List.map_cons]
      cases there : document.contains name with
      | true =>
          have next := h.change there changes.1 (.markup markup)
          obtain ⟨lacking, frame, names⟩ := ih next distinct.2 apart.2 changes.2
          exact ⟨lacking, frame, by rw [names, List.filter_cons_of_neg (by simp [there])]⟩
      | false =>
          have absent : after.contains name = false := by
            rw [← Bool.not_eq_true, Document.contains_iff, h.names_eq, List.mem_append, not_or,
              ← Document.contains_iff, there]
            exact ⟨Bool.false_ne_true, apart.1⟩
          have next := h.add absent (.markup markup)
          have others : ∀ other ∈ rest.map Prod.fst,
              other ∉ added.map Part.name ∧ other ≠ name :=
            fun other mem => ⟨apart.2 other mem, fun same => distinct.1 (same ▸ mem)⟩
          obtain ⟨lacking, frame, names⟩ := ih next distinct.2
            (fun other mem => by simpa using others other mem) changes.2
          rw [List.append_assoc, List.singleton_append] at frame
          exact ⟨_, frame, by
            rw [List.map_cons, names, List.filter_cons_of_pos (by simp [there])]⟩

/-- Finishing adds the relationships that were lacking. -/
theorem exists_finish (h : Framed document changing placements embedding)
    (types : document.contains PartName.contentTypes = true)
    (changes : ∀ placement ∈ placements,
      changing placement.home ∧ changing PartName.contentTypes) :
    ∃ lacking,
      document.Extends changing (placements.map Placement.mediaPart ++ lacking)
        embedding.finish ∧
      lacking.map Part.name = embedding.homes.filter fun home => !document.contains home := by
  by_cases none : embedding.embedded = 0
  · have empty : placements = [] := List.length_eq_zero_iff.mp (h.counted.symm.trans none)
    have unhoused : embedding.homes = [] := by
      refine List.eq_nil_iff_forall_not_mem.mpr fun home mem => ?_
      obtain ⟨placement, listed, -⟩ := (h.housed home).mp mem
      rw [empty] at listed
      cases listed
    refine ⟨[], ?_, by rw [unhoused]; rfl⟩
    rw [finish, if_pos none, List.append_nil]
    exact h.frame
  · have housed : ∀ home ∈ embedding.homes, changing home := by
      intro home mem
      obtain ⟨placement, listed, lives⟩ := (h.housed home).mp mem
      exact lives ▸ (changes placement listed).1
    have apart : ∀ home ∈ embedding.homes,
        home ∉ (placements.map Placement.mediaPart).map Part.name := by
      intro home mem media
      obtain ⟨placement, -, lives⟩ := (h.housed home).mp mem
      rw [List.map_map] at media
      obtain ⟨other, listed, same⟩ := List.mem_map.mp media
      obtain ⟨number, named⟩ := h.named other listed
      exact mediaName_ne_partFor _ number placement.part (named.symm.trans (same.trans lives.symm))
    obtain ⟨first, listed⟩ : ∃ placement, placement ∈ placements :=
      List.exists_mem_of_ne_nil _ fun empty => none (h.counted.trans (by rw [empty]; rfl))
    obtain ⟨lacking, frame, names⟩ := exists_foldl_set h.frame
      (h.sorted.imp fun before => ne_of_lt before) apart housed
    refine ⟨lacking, ?_, names⟩
    rw [finish_of_embedded none]
    exact frame.change types (changes first listed).2 _

end Framed

end Embedding

/-- The picture that an image tag is replaced by. -/
def TagSpan.embedded? (payload : Payload) (fetch : Fetcher) (tag : TagSpan) : Option ByteArray :=
  match tag.tag.kind with
  | .text => none
  | .image => tag.picture? payload fetch

namespace Document

/-- The pictures of a report with the parts they are put into, in the order of their tags. -/
def pictures (document : Document) (payload : Payload) (fetch : Fetcher) :
    List (String × ByteArray) :=
  document.templates.flatMap fun template =>
    ((scan template.2).tags.filterMap (TagSpan.embedded? payload fetch)).map (template.1, ·)

/-- The names of the parts that may change: those of parts with tags and, where pictures are put
    into parts, those of the declarations and of the relationships of these parts. -/
inductive MayChange (document : Document) (payload : Payload) (fetch : Fetcher) : String → Prop where
  | tagged {name : String} {source : Markup} (template : (name, source) ∈ document.templates)
      (tags : (scan source).tags ≠ []) : MayChange document payload fetch name
  | contentTypes (embedded : document.pictures payload fetch ≠ []) :
      MayChange document payload fetch PartName.contentTypes
  | relationships {part : String} {picture : ByteArray}
      (embedded : (part, picture) ∈ document.pictures payload fetch) :
      MayChange document payload fetch (Relationships.partFor part)

end Document

/-- Where no picture is put into a part, only parts with tags may change. -/
theorem Document.MayChange.exists_tags {document : Document} {payload : Payload} {fetch : Fetcher}
    {name : String} (changes : document.MayChange payload fetch name)
    (unpictured : document.pictures payload fetch = []) :
    ∃ source, (name, source) ∈ document.templates ∧ (scan source).tags ≠ [] := by
  cases changes with
  | tagged template tags => exact ⟨_, template, tags⟩
  | contentTypes embedded => exact absurd unpictured embedded
  | relationships embedded =>
      rw [unpictured] at embedded
      cases embedded

/-- The document of a report beside the one it was made of: its media parts and the relationships
    that were lacking stand behind all others, and what may not change is as it was. -/
structure Touched (document : Document) (payload : Payload) (fetch : Fetcher) (report : Report)
    (output : Document) (media lacking : List Part) : Prop where
  frame : document.Extends (document.MayChange payload fetch) (media ++ lacking) output
  /-- There is a media part for every picture, in their order. -/
  pictured : List.Forall₂ (fun (picture : String × ByteArray) part => ∃ number, part =
    { name := Embedding.mediaName (ImageFormat.detect picture.2) number
      content := .binary picture.2, original := false, modified := true })
    (document.pictures payload fetch) media
  counted : media.length = report.statistics.imagesEmbedded
  related : ∀ name, name ∈ lacking.map Part.name ↔ document.contains name = false ∧
    ∃ part picture, (part, picture) ∈ document.pictures payload fetch ∧
      name = Relationships.partFor part

section Planning

variable {document : Document} {payload : Payload} {options : RenderOptions} {draft : Draft}
  {fetch : Fetcher}

theorem PartPlan.pictures_fetched_make (linebreaks : Bool) (name : String) (source : Markup) :
    ((make payload linebreaks name source).fetched fetch).pictures =
      (scan source).tags.filterMap (TagSpan.embedded? payload fetch) := by
  rw [pictures, fetched, make, List.filterMap_map, filterMap_pieceOf fun _ => rfl]
  refine List.filterMap_congr fun tag _ => ?_
  rw [pieceOfTag, TagSpan.embedded?]
  cases tag.tag.kind with
  | text => rfl
  | image =>
    cases found : (payload.binding tag.tag.identifier).locator? <;>
      simp [Piece.fetched, Piece.picture?, TagSpan.picture?, found]

theorem Document.flatMap_pictures_plans (document : Document) (payload : Payload)
    (linebreaks : Bool) (fetch : Fetcher) :
    ((document.plans payload linebreaks fetch).flatMap fun plan =>
      plan.pictures.map (plan.name, ·)) = document.pictures payload fetch := by
  rw [plans, List.flatMap_map, pictures]
  exact List.flatMap_congr fun template _ => by rw [PartPlan.pictures_fetched_make]; rfl

theorem Document.length_pictures (document : Document) (payload : Payload) (linebreaks : Bool)
    (fetch : Fetcher) : (document.pictures payload fetch).length =
      (RenderStatistics.ofPlans (document.plans payload linebreaks fetch)).imagesEmbedded := by
  rw [← flatMap_pictures_plans document payload linebreaks, RenderStatistics.ofPlans,
    List.length_flatMap, List.length_flatMap]
  simp only [List.length_map]

theorem PartPlan.tags_of_hasTags {linebreaks : Bool} {name : String} {source : Markup}
    (h : ((make payload linebreaks name source).fetched fetch).hasTags = true) :
    (scan source).tags ≠ [] := by
  have counted := tagCount_fetched_make payload fetch linebreaks name source
  obtain ⟨piece, mem, tagged⟩ := List.any_eq_true.mp h
  have positive : 0 < ((make payload linebreaks name source).fetched fetch).tagCount :=
    List.countP_pos_iff.mpr ⟨piece, mem, tagged⟩
  rw [counted] at positive
  exact List.ne_nil_of_length_pos positive

theorem Draft.contains_contentTypes (made : Draft.make document payload options = .ok draft) :
    document.contains PartName.contentTypes = true := by
  obtain ⟨required, -⟩ := Draft.make_eq_ok_iff.mp made
  exact Document.require_eq_ok_iff.mp required PartName.contentTypes List.mem_cons_self

theorem Document.contains_of_mem_templates {template : String × Markup}
    (mem : template ∈ document.templates) :
    PartName.isTemplate template.1 = true ∧ document.contains template.1 = true := by
  rw [templates, List.mem_filterMap] at mem
  obtain ⟨name, listed, found⟩ := mem
  obtain ⟨source, -, rfl⟩ := Option.map_eq_some_iff.mp found
  rw [templateNames, List.mem_filter] at listed
  exact ⟨listed.2, contains_iff.mpr listed.1⟩

end Planning

namespace Touched

variable {document output : Document} {payload : Payload} {fetch : Fetcher} {report : Report}
  {media lacking : List Part}

/-- Without pictures there is nothing to add. -/
theorem added_eq_nil (h : Touched document payload fetch report output media lacking)
    (unpictured : document.pictures payload fetch = []) : media ++ lacking = [] := by
  have pictured := h.pictured
  rw [unpictured] at pictured
  have none : lacking.map Part.name = [] := List.eq_nil_iff_forall_not_mem.mpr fun name mem => by
    obtain ⟨-, _, _, embedded, -⟩ := (h.related name).mp mem
    rw [unpictured] at embedded
    cases embedded
  rw [List.append_eq_nil_iff]
  exact ⟨List.forall₂_nil_left_iff.mp pictured, List.map_eq_nil_iff.mp none⟩

theorem pictures_eq_nil (h : Touched document payload fetch report output media lacking)
    (bare : report.statistics.imagesEmbedded = 0) : document.pictures payload fetch = [] :=
  List.length_eq_zero_iff.mp (h.pictured.length_eq.trans (h.counted.trans bare))

end Touched

section Rendering

variable {document : Document} {payload : Payload} {options : RenderOptions} {fetch : Fetcher}
  {report : Report}

/-- The parts that are written over: those with tags. -/
def Document.WritesOver (document : Document) (name : String) : Prop :=
  ∃ source, (name, source) ∈ document.templates ∧ (scan source).tags ≠ []

theorem Document.WritesOver.isTemplate {name : String} (h : document.WritesOver name) :
    PartName.isTemplate name = true := by
  obtain ⟨source, template, -⟩ := h
  exact (contains_of_mem_templates template).1

/-- A draft is filled by putting the pictures of its document into parts and by writing the parts with
    tags. -/
theorem Draft.exists_course {draft : Draft}
    (made : Draft.make document payload options = .ok draft) (fetch : Fetcher) :
    ∃ placements embedding,
      Embedding.Course options document.WritesOver
        (Embedding.begin document draft.contentTypes draft.firstDrawing) placements embedding ∧
      Embedding.Sound document placements embedding ∧
      draft.filled (draft.locators.map fetch) = embedding.finish ∧
      placements.map Placement.origin = document.pictures payload fetch := by
  have fits := PartPlan.fitsSource_supply (fun plan mem => ((Draft.of_make made).2.2.2 plan mem).2)
    (draft.locators.map fetch)
  rw [Draft.supply_of_make made] at fits
  obtain ⟨placements, embedding, course, finished, origins, -⟩ :=
    Draft.exists_placements made fits (fun _ => Document.WritesOver.isTemplate) fun plan mem tagged => by
      obtain ⟨template, listed, rfl⟩ := List.mem_map.mp mem
      exact ⟨_, listed, PartPlan.tags_of_hasTags tagged⟩
  refine ⟨placements, embedding, course, .of_course course fun _ => Document.WritesOver.isTemplate, ?_,
    origins.trans (document.flatMap_pictures_plans payload options.linebreaks fetch)⟩
  rw [Draft.filled, Draft.supply_of_make made, finished]

/-- A filled draft is what was there, with what its pictures add. -/
theorem Draft.exists_extends {draft : Draft}
    (made : Draft.make document payload options = .ok draft) (fetch : Fetcher) :
    ∃ (placements : List Placement) (lacking : List Part),
      document.Extends (document.MayChange payload fetch)
        (placements.map Placement.mediaPart ++ lacking) (draft.filled (draft.locators.map fetch)) ∧
      placements.map Placement.origin = document.pictures payload fetch ∧
      (∀ placement ∈ placements, ∃ number,
        placement.media = Embedding.mediaName placement.format number) ∧
      ∀ name, name ∈ lacking.map Part.name ↔ document.contains name = false ∧
        ∃ placement ∈ placements, placement.home = name := by
  obtain ⟨placements, embedding, course, -, finished, origins⟩ := Draft.exists_course made fetch
  have placed : ∀ placement ∈ placements,
      (placement.part, placement.picture) ∈ document.pictures payload fetch :=
    fun placement mem => origins ▸ List.mem_map_of_mem (f := Placement.origin) mem
  have written : Embedding.Framed document (document.MayChange payload fetch) placements embedding := by
    refine .of_course course ?_ ?_
    · rintro name ⟨source, template, -⟩
      exact (Document.contains_of_mem_templates template).2
    · rintro name ⟨source, template, tags⟩
      exact .tagged template tags
  obtain ⟨lacking, frame, names⟩ := written.exists_finish (Draft.contains_contentTypes made)
    fun placement mem => ⟨.relationships (placed placement mem),
      .contentTypes (List.ne_nil_of_mem (placed placement mem))⟩
  refine ⟨placements, lacking, finished ▸ frame, origins, written.named, fun name => ?_⟩
  rw [names, List.mem_filter, written.housed, Bool.not_eq_true']
  exact and_comm

/-- The document of a report is what was there, with what its pictures add. -/
theorem exists_touched (rendered : render document payload options fetch = .ok report) :
    ∃ output media lacking, filledDocument document payload options fetch = .ok output ∧
      output.pack = .ok report.bytes ∧
      Touched document payload fetch report output media lacking := by
  obtain ⟨draft, made, completed⟩ := exists_draft_of_render rendered
  obtain ⟨packed, -⟩ := Draft.of_complete completed
  obtain ⟨placements, lacking, frame, origins, named, related⟩ := Draft.exists_extends made fetch
  refine ⟨_, _, lacking, filledDocument_eq_ok_iff.mpr ⟨draft, made, rfl⟩, packed, ⟨frame, ?_, ?_,
    fun name => ?_⟩⟩
  · rw [← origins, List.forall₂_map_left_iff, List.forall₂_map_right_iff]
    refine List.forall₂_same.mpr fun placement mem => ?_
    obtain ⟨number, named⟩ := named placement mem
    exact ⟨number, by rw [Placement.mediaPart, named]; rfl⟩
  · rw [statistics_of_render rendered, List.length_map, ← Document.length_pictures, ← origins,
      List.length_map]
  · rw [related]
    refine and_congr_right fun _ => ⟨?_, ?_⟩
    · rintro ⟨placement, mem, rfl⟩
      exact ⟨placement.part, placement.picture, origins ▸ List.mem_map_of_mem mem, rfl⟩
    · rintro ⟨part, picture, mem, rfl⟩
      rw [← origins] at mem
      obtain ⟨placement, listed, same⟩ := List.mem_map.mp mem
      cases same
      exact ⟨placement, listed, rfl⟩

/-- A render changes nothing that it need not change: a report without pictures has the parts
    that there were, and one of a template without tags is the template. -/
theorem render_changes_only (rendered : render document payload options fetch = .ok report) :
    ∃ output media lacking, filledDocument document payload options fetch = .ok output ∧
      output.pack = .ok report.bytes ∧
      Touched document payload fetch report output media lacking ∧
      (report.statistics.imagesEmbedded = 0 → output.names = document.names ∧
        ∀ name, PartName.isTemplate name = false → output.part? name = document.part? name) ∧
      ((∀ template ∈ document.templates, (scan template.2).tags = []) → output = document ∧
        ∀ source, Document.read source = .ok document → report.bytes = source) := by
  obtain ⟨output, media, lacking, filled, packed, touched⟩ := exists_touched rendered
  refine ⟨output, media, lacking, filled, packed, touched, fun bare => ?_, fun untagged => ?_⟩
  · have unpictured := touched.pictures_eq_nil bare
    have frame := touched.frame
    rw [touched.added_eq_nil unpictured] at frame
    refine ⟨by rw [frame.names_eq, List.map_nil, List.append_nil], fun name other => ?_⟩
    refine frame.part?_eq (fun changes => ?_) List.not_mem_nil
    obtain ⟨source, template, -⟩ := changes.exists_tags unpictured
    exact Bool.eq_false_iff.mp other (Document.contains_of_mem_templates template).1
  · have unpictured : document.pictures payload fetch = [] := by
      rw [Document.pictures, List.flatMap_eq_nil_iff]
      exact fun template mem => by rw [untagged template mem]; rfl
    have frame := touched.frame
    rw [touched.added_eq_nil unpictured] at frame
    have same : output = document := frame.eq_of_fixed fun name changes => by
      obtain ⟨source, template, tags⟩ := changes.exists_tags unpictured
      exact tags (untagged _ template)
    refine ⟨same, fun source opened => ?_⟩
    rw [same, Document.pack_of_read opened] at packed
    exact (Except.ok.inj packed).symm

end Rendering

/-- The report of the small template has two media parts more, and no relationships were
    lacking. -/
theorem render_changes_only_sample :
    ∃ report, render Sample.document Sample.payload {} Sample.fetch = .ok report ∧
      ∃ output media lacking,
        filledDocument Sample.document Sample.payload {} Sample.fetch = .ok output ∧
        Touched Sample.document Sample.payload Sample.fetch report output media lacking ∧
        media.length = 2 ∧ lacking = [] := by
  obtain ⟨report, rendered⟩ := Sample.exists_report
  obtain ⟨output, media, lacking, filled, -, touched, -, -⟩ := render_changes_only rendered
  have pictures : (Sample.document.pictures Sample.payload Sample.fetch).map Prod.fst =
      [PartName.mainDocument, PartName.mainDocument] := by decide +kernel
  refine ⟨report, rendered, output, media, lacking, filled, touched, ?_, ?_⟩
  · rw [← touched.pictured.length_eq, ← List.length_map (f := Prod.fst), pictures]
    rfl
  · rw [← List.map_eq_nil_iff (f := Part.name), List.eq_nil_iff_forall_not_mem]
    intro name mem
    obtain ⟨absent, part, picture, embedded, rfl⟩ := (touched.related name).mp mem
    have within : part ∈ (Sample.document.pictures Sample.payload Sample.fetch).map Prod.fst :=
      List.mem_map_of_mem embedded
    rw [pictures] at within
    have main : part = PartName.mainDocument := by simpa using within
    rw [main] at absent
    exact Bool.eq_false_iff.mp absent (by decide +kernel)

end Stencil
