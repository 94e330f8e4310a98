import Stencil.Proofs.Report.Draft
import Stencil.Proofs.Scan.Nesting

/-! # Reports keep the elements of their templates

Whatever the values and pictures are, a part keeps its elements in their order and gains complete
run breaks and drawings only, if no tag begins or ends inside an element. If every tag also begins
in the text of a run, balanced elements stay balanced.
-/

namespace Stencil

open Markup

theorem Regular.of_lead {lead span : Markup} (isSealed : Sealed lead)
    (grouped : Grouped (elements lead)) : Regular span (lead ++ (elements span).flatten) := by
  obtain ⟨isSealed', same'⟩ := sealed_flatten fun element (mem : element ∈ elements span) =>
    (isElement_of_mem_elements mem).1
  refine ⟨isSealed.append isSealed', elements lead, grouped, ?_⟩
  rw [isSealed.elements_append, same']

theorem Regular.of_bare (span : Markup) : Regular span (elements span).flatten := by
  have plain : Plain [] := List.forall_mem_nil _
  exact .of_lead (.of_plain plain) (.of_plain plain)

theorem regular_of_fills {payload : Payload} {options : RenderOptions}
    {placements : List Placement} {answers : TagSpan → Option ByteArray → Prop}
    {span filling : Markup} {tag : TagSpan}
    (h : Fills payload options placements answers span tag filling) : Regular span filling := by
  unfold Fills at h
  split at h
  · subst h
    unfold TagSpan.value?
    cases (payload.binding tag.tag.identifier).text? with
    | none => exact .of_bare span
    | some value =>
        obtain ⟨isSealed, grouped⟩ := grouped_ofValue value.toList options.linebreaks
        exact .of_lead isSealed grouped
  · obtain ⟨picture, -, filled⟩ := h
    cases filled with
    | bare => exact .of_bare span
    | drawn placement _ =>
        have drawn : IsGroup (Drawing.inlineElements placement.relationship placement.number
            (PartName.file placement.media.toList) options.imageWidth options.imageHeight) :=
          .drawing ..
        obtain ⟨isSealed, same⟩ := sealed_flatten drawn.isElement
        have grouped := drawn.grouped
        rw [← same] at grouped
        exact .of_lead isSealed grouped

/-- No tag begins or ends inside an element. -/
def TagsOutsideElements (source : Markup) : Prop :=
  ∀ tag ∈ (scan source).tags, ¬ InsideElement source tag.start ∧ ¬ InsideElement source tag.stop

/-- Every tag begins where the text of a run is the innermost open element. -/
def TagsInRunText (source : Markup) : Prop :=
  ∀ tag ∈ (scan source).tags, InRunText source tag.start

/-- What becomes of the elements of a part. -/
structure KeepsElements (source text : Markup) : Prop where
  subsequence : (elements source).Sublist (elements text)
  grown : Grown (elements source) (elements text)
  balanced : TagsInRunText source → Balanced (elements source) → Balanced (elements text)

theorem keepsElements_of_spliced {fill : Markup → TagSpan → Markup → Prop} {source text : Markup}
    (regular : ∀ span tag filling, fill span tag filling → Regular span filling)
    (spliced : Spliced fill 0 source (scan source).tags text)
    (outside : TagsOutsideElements source) : KeepsElements source text := by
  have grown : Grown (elements source) (elements text) :=
    spliced.grown regular Text.byteSize_nil.symm outside
  exact ⟨grown.sublist, grown, spliced.balanced regular outside⟩

/-- Every part with tags keeps its elements, whatever the outcomes of the fetches are. -/
theorem filled_keeps_elements {document : Document} {payload : Payload} {options : RenderOptions}
    {draft : Draft} (made : Draft.make document payload options = .ok draft)
    (outcomes : List FetchOutcome) :
    (∀ report, draft.complete outcomes = .ok report →
      (draft.filled outcomes).pack = .ok report.bytes) ∧
    ∀ name ∈ document.templateNames, ∃ source text, document.markup? name = some source ∧
      (draft.filled outcomes).markup? name = some text ∧
      (TagsOutsideElements source → KeepsElements source text) := by
  refine ⟨fun report completed => (Draft.of_complete completed).1, fun name mem => ?_⟩
  obtain ⟨placements, -, -, -, parts⟩ := Draft.exists_placements_filled made outcomes
  obtain ⟨source, block, text, there, part⟩ := parts name mem
  obtain ⟨pieces, fits, written⟩ := part.written
  refine ⟨source, text, there, part.text, fun outside => ?_⟩
  exact keepsElements_of_spliced (fun _ _ _ => regular_of_fills) (spliced_of_written fits written)
    outside

/-- A check of the places of the tags, at the characters where they begin and end. -/
private theorem tagsOutsideElements_of_cuts {source : Markup}
    (h : ∀ tag ∈ (scan source).tags, ∀ offset ∈ [tag.start, tag.stop],
      ∃ n ∈ List.range source.length, Text.byteSize (source.take n) = offset ∧
        ¬ Spans (source.take n) (source.drop n)) : TagsOutsideElements source := by
  intro tag mem
  have outside : ∀ offset ∈ [tag.start, tag.stop], ¬ InsideElement source offset := by
    intro offset listed
    obtain ⟨n, -, rfl, apart⟩ := h tag mem offset listed
    exact not_insideElement_take n apart
  simpa using outside

private theorem tagsInRunText_of_cuts {source : Markup}
    (h : ∀ tag ∈ (scan source).tags,
      ∃ n ∈ List.range source.length, Text.byteSize (source.take n) = tag.start ∧
        (nest [] (elements (source.take n))).bind List.head? = some "w:t".toList) :
    TagsInRunText source := by
  intro tag mem
  obtain ⟨n, -, size, inside⟩ := h tag mem
  obtain ⟨stack, opened, top⟩ := Option.bind_eq_some_iff.mp inside
  obtain ⟨below, rfl⟩ := List.head?_eq_some_iff.mp top
  exact ⟨source.take n, source.drop n, below, (List.take_append_drop ..).symm, size, opened⟩

/-- The small template has a tag with elements inside, and keeps its elements. -/
theorem filled_keeps_elements_sample :
    TagsOutsideElements Sample.runs ∧ TagsInRunText Sample.runs ∧ Balanced (elements Sample.runs) ∧
    ∃ draft, Draft.make Sample.document Sample.payload {} = .ok draft ∧
      ∀ outcomes, (∀ report, draft.complete outcomes = .ok report →
        (draft.filled outcomes).pack = .ok report.bytes) ∧
        ∃ text, (draft.filled outcomes).markup? PartName.mainDocument = some text ∧
          KeepsElements Sample.runs text ∧ Balanced (elements text) := by
  have outside : TagsOutsideElements Sample.runs := tagsOutsideElements_of_cuts (by decide +kernel)
  have inText : TagsInRunText Sample.runs := tagsInRunText_of_cuts (by decide +kernel)
  have balanced : Balanced (elements Sample.runs) := by decide +kernel
  obtain ⟨report, rendered⟩ := Sample.exists_report
  obtain ⟨draft, made, -⟩ := exists_draft_of_render rendered
  refine ⟨outside, inText, balanced, draft, made, fun outcomes => ?_⟩
  obtain ⟨packed, parts⟩ := filled_keeps_elements made outcomes
  have named : PartName.mainDocument ∈ Sample.document.templateNames := by decide +kernel
  have there : Sample.document.markup? PartName.mainDocument = some Sample.runs := by
    decide +kernel
  obtain ⟨source, text, found, filled, keeps⟩ := parts _ named
  cases Option.some.inj (there.symm.trans found)
  exact ⟨packed, text, filled, keeps outside, (keeps outside).balanced inText balanced⟩

end Stencil
