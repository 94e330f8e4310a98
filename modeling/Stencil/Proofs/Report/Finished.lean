import Stencil.Proofs.Report.DeclaredFormats
import Stencil.Proofs.Report.Outages
import Stencil.Proofs.Report.Packing
import Stencil.Proofs.Report.Retexting
import Stencil.Proofs.Scan.Braces

/-! # Finished reports

A report of a template whose braces all lie in tags has no brace left in any part that tags are
looked for in, unless a value puts one there. So a report that is rendered once more stays as it
is.

Main statement: `render_keeps_report`.
-/

namespace Stencil

/-! ## The first report -/

section Writing

variable {document : Document} {payload : Payload} {options : RenderOptions} {fetch : Fetcher}
  {report : Report}

/-- Whether no value of a text tag has a brace. -/
def Document.ValuesBraceFree (document : Document) (payload : Payload) : Prop :=
  ∀ tag ∈ document.tags, tag.tag.kind = .text →
    ∀ value, (payload.binding tag.tag.identifier).text? = some value → BraceFree value.toList

instance (document : Document) (payload : Payload) :
    Decidable (document.ValuesBraceFree payload) :=
  List.decidableBAll _ document.tags

namespace Embedding

theorem braceFree_mediaName (format : ImageFormat) (number : Nat) :
    BraceFree (mediaName format number).toList := by
  have digits : BraceFree (toString number).toList := .of_isAlphanum fun c mem => by
    rw [Char.isAlphanum, isDigit_of_mem_toString mem, Bool.or_true]
  have extension : BraceFree ('.' :: format.extension.toList) := by cases format <;> decide
  rw [toList_mediaName]
  exact (BraceFree.append (by decide) digits).append extension

/-- Drawings have no braces. -/
theorem Course.braceFree_drawing {writes : String → Prop} {start embedding : Embedding}
    {placements : List Placement} (course : Course options writes start placements embedding) :
    ∀ placement ∈ placements, BraceFree (placement.drawing options) := by
  induction course with
  | start => exact List.forall_mem_nil _
  | embed _ part picture ih =>
      refine List.forall_mem_append.mpr ⟨ih, List.forall_mem_singleton.mpr ?_⟩
      refine .inline (.of_isAlphanum fun c => isAlphanum_of_mem_relationshipId) ?_ _ _ _
      exact (braceFree_mediaName _ _).of_subset (PartName.file_subset _)
  | setText _ _ _ ih => exact ih

end Embedding

/-- What is written has no braces but those of the kept text and of values. -/
theorem Written.braceFree {answers : TagSpan → Option ByteArray → Prop} {segments : List Segment}
    {pieces : List (Piece ByteArray)} {placements : List Placement} {text : Markup}
    (written : Written options pieces placements text)
    (fits : List.Forall₂ (Fits payload options.linebreaks answers) segments pieces)
    (kept : ∀ segment ∈ segments, BraceFree segment.kept)
    (drawings : ∀ placement ∈ placements, BraceFree (placement.drawing options))
    (elements : ∀ tag ∈ segments.filterMap Segment.tag?, BraceFree tag.markup.flatten)
    (values : ∀ tag ∈ segments.filterMap Segment.tag?, tag.tag.kind = .text →
      ∀ value, (payload.binding tag.tag.identifier).text? = some value → BraceFree value.toList) :
    BraceFree text := by
  induction fits generalizing placements text with
  | nil =>
      cases written
      exact List.forall_mem_nil _
  | cons first _ ih =>
      rw [List.forall_mem_cons] at kept
      cases first with
      | literal literal =>
          cases written with
          | literal _ later => exact kept.1.append (ih later kept.2 drawings elements values)
      | text tag kind =>
          rw [List.filterMap_cons_some (rfl : Segment.tag? (.tag tag) = some tag),
            List.forall_mem_cons] at elements values
          cases written with
          | text _ _ later =>
              refine BraceFree.append (.append ?_ elements.1)
                (ih later kept.2 drawings elements.2 values.2)
              rw [TagSpan.value?]
              cases bound : (payload.binding tag.tag.identifier).text? with
              | none => exact List.forall_mem_nil _
              | some value => exact (values.1 kind value bound).ofValue options.linebreaks
      | image tag kind picture answered =>
          rw [List.filterMap_cons_some (rfl : Segment.tag? (.tag tag) = some tag),
            List.forall_mem_cons] at elements values
          cases written with
          | bare _ later => exact elements.1.append (ih later kept.2 drawings elements.2 values.2)
          | drawn placement _ later =>
              rw [List.forall_mem_cons] at drawings
              exact (drawings.1.append elements.1).append
                (ih later kept.2 drawings.2 elements.2 values.2)

/-- The parts of a report have no braces where tags were looked for. -/
theorem exists_braceFree_of_render
    (rendered : render document payload options fetch = .ok report)
    (inTags : ∀ template ∈ document.templates, BracesInTags template.2)
    (values : document.ValuesBraceFree payload) :
    ∃ output, filledDocument document payload options fetch = .ok output ∧
      ∀ name ∈ document.templateNames, ∃ text, output.markup? name = some text ∧ BraceFree text := by
  obtain ⟨draft, placements, embedding, made, filled, -, course, -, parts⟩ :=
    exists_course_of_render rendered
  refine ⟨embedding.finish, filled, fun name listed => ?_⟩
  obtain ⟨source, block, text, there, part⟩ := parts name listed
  obtain ⟨pieces, fits, written⟩ := part.written
  have template : (name, source) ∈ document.templates :=
    List.mem_filterMap.mpr ⟨name, listed, by rw [there]; rfl⟩
  refine ⟨text, part.text, written.braceFree fits (bracesInTags_iff.mp (inTags _ template)) ?_ ?_ ?_⟩
  · exact fun placement placed => course.braceFree_drawing placement (part.placed.subset placed)
  · exact fun tag mem => .flatten fun element => braceFree_of_mem_markup mem
  · exact fun tag mem => values tag (List.mem_flatMap.mpr ⟨_, template, mem⟩)

end Writing

/-! ## The second report -/

section Rendering

variable {document : Document} {payload : Payload} {options : RenderOptions} {draft : Draft}

/-- A draft without tags is filled as the document that it was made of. -/
theorem Draft.filled_of_untagged (made : Draft.make document payload options = .ok draft)
    (untagged : document.tags = []) (fetch : Fetcher) :
    draft.filled (draft.locators.map fetch) = document := by
  have each := List.flatMap_eq_nil_iff.mp untagged
  have unpictured : document.pictures payload fetch = [] := by
    rw [Document.pictures, List.flatMap_eq_nil_iff]
    exact fun template mem => by rw [each template mem]; rfl
  obtain ⟨placements, lacking, frame, origins, -, related⟩ := Draft.exists_extends made fetch
  rw [unpictured, List.map_eq_nil_iff] at origins
  subst origins
  have none : lacking = [] := by
    rw [← List.map_eq_nil_iff (f := Part.name), List.eq_nil_iff_forall_not_mem]
    intro name mem
    obtain ⟨-, placement, placed, -⟩ := (related name).mp mem
    cases placed
  subst none
  refine frame.eq_of_fixed fun name changes => ?_
  obtain ⟨source, template, tags⟩ := changes.exists_tags unpictured
  exact tags (each _ template)

/-- What is added to a document has no tags. -/
theorem Draft.templateNames_filled (made : Draft.make document payload options = .ok draft)
    (fetch : Fetcher) :
    (draft.filled (draft.locators.map fetch)).templateNames = document.templateNames := by
  obtain ⟨placements, lacking, frame, -, named, related⟩ := Draft.exists_extends made fetch
  rw [Document.templateNames, Document.templateNames, frame.names_eq, List.filter_append,
    List.append_right_eq_self, List.filter_eq_nil_iff, List.map_append, List.forall_mem_append]
  refine ⟨fun name mem => ?_, fun name mem => ?_⟩
  · obtain ⟨part, listed, rfl⟩ := List.mem_map.mp mem
    obtain ⟨placement, placed, rfl⟩ := List.mem_map.mp listed
    obtain ⟨number, media⟩ := named placement placed
    rw [Placement.mediaPart, media, Embedding.isTemplate_mediaName]
    exact Bool.false_ne_true
  · obtain ⟨-, placement, -, rfl⟩ := (related name).mp mem
    rw [Placement.home, PartName.isTemplate_partFor]
    exact Bool.false_ne_true

/-- The numbers of a document without tags are zero, but for that of its templates. -/
theorem RenderStatistics.ofPlans_of_untagged (complete : document.templates.map Prod.fst =
      document.templateNames) (untagged : document.tags = []) (linebreaks : Bool) (fetch : Fetcher) :
    ofPlans (document.plans payload linebreaks fetch) =
      { partsScanned := document.templateNames.length, partsRendered := 0, tagsFound := 0
        textSubstituted := 0, imagesEmbedded := 0 } := by
  have rendered : (document.plans payload linebreaks fetch).countP PartPlan.hasTags = 0 := by
    rw [List.countP_eq_zero, Document.plans, List.forall_mem_map]
    exact fun template mem tagged =>
      PartPlan.tags_of_hasTags tagged (List.flatMap_eq_nil_iff.mp untagged template mem)
  have found := document.sum_tagCount_plans payload linebreaks fetch
  have substituted := document.sum_substitutedCount_plans payload linebreaks fetch
  have embedded := document.length_pictures_plans payload linebreaks fetch
  rw [untagged] at found substituted embedded
  rw [ofPlans, rendered, embedded, ← complete, List.length_map, Document.plans, List.length_map]
  rw [Document.plans] at found substituted
  exact congrArg₂ (fun found substituted => RenderStatistics.mk _ 0 found substituted 0) found substituted

/-- Nothing is found, fetched or changed in a document whose templates have no braces. -/
theorem render_of_braceFree {source : ByteArray} (opened : Document.read source = .ok document)
    (complete : document.require PartName.required = .ok ())
    (typed : ∃ types, document.markup? PartName.contentTypes = some types)
    (free : ∀ name ∈ document.templateNames,
      ∃ text, document.markup? name = some text ∧ BraceFree text)
    (payload : Payload) (options : RenderOptions) (fetch : Fetcher) :
    fetchedLocators document payload options = [] ∧
      filledDocument document payload options fetch = .ok document ∧
      render document payload options fetch = .ok
        { bytes := source, warnings := []
          statistics :=
            { partsScanned := document.templateNames.length, partsRendered := 0, tagsFound := 0
              textSubstituted := 0, imagesEmbedded := 0 } } := by
  obtain ⟨types, typed⟩ := typed
  obtain ⟨plans, planned⟩ := Draft.exists_planParts
    (fun name mem => (free name mem).imp fun _ found => found.1) payload options.linebreaks []
  obtain ⟨draft, made⟩ : ∃ draft, Draft.make document payload options = .ok draft :=
    ⟨{ document, contentTypes := types, options, plans },
      Draft.make_eq_ok_iff.mpr ⟨complete, typed, planned, rfl, rfl⟩⟩
  have templates : ∀ template ∈ document.templates, BraceFree template.2 := by
    intro template mem
    have listed : template.1 ∈ document.templateNames :=
      (Draft.plans_of_make made).1 ▸ List.mem_map_of_mem mem
    obtain ⟨text, found, textFree⟩ := free template.1 listed
    rw [Document.markup?_of_mem_templates mem, Option.some.injEq] at found
    exact found ▸ textFree
  have untagged : document.tags = [] :=
    List.flatMap_eq_nil_iff.mpr fun template mem => (templates template mem).tags_eq
  have locators : draft.locators = [] := by
    rw [Draft.locators_of_make made, Document.locators, untagged, List.filterMap_nil]
  have filled := Draft.filled_of_untagged made untagged fetch
  have silent : draft.warnings (draft.locators.map fetch) = [] := by
    rw [Draft.warnings_of_make made, List.append_eq_nil_iff, List.flatMap_eq_nil_iff,
      List.flatMap_eq_nil_iff]
    refine ⟨fun template mem => ?_, fun template mem => ?_⟩
    · rw [Document.partWarnings, (templates template mem).tags_eq,
        (templates template mem).malformed_eq]
      rfl
    · rw [Document.pictureWarnings, (templates template mem).tags_eq]
      rfl
  have packed : (draft.fill (PartPlan.supply draft.plans (draft.locators.map fetch))).pack =
      .ok source := by
    rw [← Draft.filled, filled, Document.pack_of_read opened]
  refine ⟨(fetchedLocators_of_make made).trans locators,
    filledDocument_eq_ok_iff.mpr ⟨draft, made, filled⟩, ?_⟩
  rw [render_eq_complete made, Draft.complete, silent, List.isEmpty_nil, Bool.not_true,
    Bool.and_false, if_neg Bool.false_ne_true]
  simp only [packed]
  rw [Draft.supply_of_make made,
    RenderStatistics.ofPlans_of_untagged (Draft.plans_of_make made).1 untagged]

/-- A report whose template has braces only in tags, and whose values have none, stays as it is
    when it is rendered once more: nothing is found in it, whatever it is rendered with. -/
theorem render_keeps_report {output again : Document} {fetch : Fetcher} {report : Report}
    (rendered : render document payload options fetch = .ok report)
    (inTags : ∀ template ∈ document.templates, BracesInTags template.2)
    (values : document.ValuesBraceFree payload)
    (filled : filledDocument document payload options fetch = .ok output)
    (reread : output.Reread report.bytes again)
    (payload' : Payload) (options' : RenderOptions) (fetch' : Fetcher) :
    fetchedLocators again payload' options' = [] ∧
      filledDocument again payload' options' fetch' = .ok again ∧
      render again payload' options' fetch' = .ok
        { bytes := report.bytes, warnings := []
          statistics :=
            { partsScanned := again.templateNames.length, partsRendered := 0, tagsFound := 0
              textSubstituted := 0, imagesEmbedded := 0 } } := by
  obtain ⟨output', filled', free⟩ := exists_braceFree_of_render rendered inTags values
  rw [filled, Except.ok.injEq] at filled'
  subst filled'
  obtain ⟨draft, made, same⟩ := filledDocument_eq_ok_iff.mp filled
  have names : again.templateNames = document.templateNames := by
    rw [reread.templateNames_eq, ← same, Draft.templateNames_filled made]
  refine render_of_braceFree reread.opened ?_ ?_ (fun name mem => ?_) payload' options' fetch'
  · obtain ⟨required, -⟩ := Draft.make_eq_ok_iff.mp made
    obtain ⟨placements, lacking, frame, -⟩ := Draft.exists_extends made fetch
    rw [Document.require_eq_ok_iff] at required ⊢
    intro name mem
    rw [reread.contains_eq, ← same]
    exact frame.contains_of_contains (required name mem)
  · have types := Draft.markup?_filled_contentTypes made fetch
    rw [same] at types
    exact ⟨_, reread.markup?_eq (by decide) types⟩
  · rw [names] at mem
    obtain ⟨text, there, textFree⟩ := free name mem
    have tagged := Document.isTemplate_of_mem_templateNames mem
    exact ⟨text, reread.template_eq tagged there, textFree⟩

end Rendering

namespace Sample

/-- A template with a text tag and an image tag. -/
def notice : Document :=
  withBody "<w:t>{{name}}: {%lo</w:t><w:t>go}</w:t>"

/-- A value of two lines, and a picture that cannot be had. -/
def noticePayload : Payload :=
  { fields := [("name", .string "Ada\nB."), ("logo", .string "lost")] }

theorem exists_reopenable_notice : ∃ report, render notice noticePayload {} fetch = .ok report ∧
    Reopenable notice noticePayload {} fetch report :=
  exists_reopenable_template (by decide) (by decide +kernel)

end Sample

/-- The report of a template with a value and a picture that cannot be had is opened and rendered
    once more. -/
theorem render_keeps_report_notice :
    ∃ report again, render Sample.notice Sample.noticePayload {} Sample.fetch = .ok report ∧
      report.statistics.tagsFound = 2 ∧ Document.read report.bytes = .ok again ∧
      render again Sample.noticePayload {} Sample.fetch = .ok
        { bytes := report.bytes, warnings := []
          statistics :=
            { partsScanned := again.templateNames.length, partsRendered := 0, tagsFound := 0
              textSubstituted := 0, imagesEmbedded := 0 } } := by
  obtain ⟨report, rendered, reopenable⟩ := Sample.exists_reopenable_notice
  obtain ⟨output, -, -, filled, -⟩ := exists_placements_of_render rendered
  obtain ⟨again, reread⟩ := exists_reread_of_render rendered reopenable filled
  obtain ⟨-, -, same⟩ := render_keeps_report rendered (by decide +kernel) (by decide +kernel) filled
    reread Sample.noticePayload {} Sample.fetch
  refine ⟨report, again, rendered, ?_, reread.opened, same⟩
  rw [tagsFound_of_render rendered]
  decide +kernel

end Stencil
