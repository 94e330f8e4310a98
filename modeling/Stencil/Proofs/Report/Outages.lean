import Stencil.Proofs.Report.Frame
import Stencil.Proofs.Report.Reasons

/-! # Outages

A picture that cannot be had leaves its own place empty and has its own warning. Which pictures are
asked for, all other warnings and all text but the drawings are the same, whatever the answers are.

Main statement: `render_isolates_outages`.
-/

namespace Stencil

/-- The locator that an image tag is bound to. -/
def TagSpan.locator? (payload : Payload) (tag : TagSpan) : Option String :=
  match tag.tag.kind with
  | .text => none
  | .image => (payload.binding tag.tag.identifier).locator?

/-- The locators of all image tags that have one, part by part. -/
def Document.locators (document : Document) (payload : Payload) : List String :=
  document.tags.filterMap (TagSpan.locator? payload)

/-- Why the picture of an image tag cannot be had, if it cannot. -/
def TagSpan.failure? (payload : Payload) (fetch : Fetcher) (tag : TagSpan) : Option FetchFailure :=
  (tag.locator? payload).bind fun locator =>
    match fetch locator with
    | .ok _ => none
    | .error failure => some failure

/-- The warnings of the image tags whose own fetches fail, part by part. -/
def Document.outages (document : Document) (payload : Payload) (fetch : Fetcher) : List Warning :=
  document.templates.flatMap fun template =>
    (scan template.2).tags.filterMap fun tag =>
      (tag.failure? payload fetch).map fun failure =>
        tag.warning template.1 (.fetchFailed failure.message)

/-- What is written in place of a segment when no picture can be had. -/
def Segment.undrawn (payload : Payload) (linebreaks : Bool) : Segment → Markup
  | .literal text => text
  | .tag span =>
    match span.tag.kind with
    | .text => (span.value? payload linebreaks).getD [] ++ span.markup.flatten
    | .image => span.markup.flatten

/-- A text without the drawings of its pictures, which are stored in the document. -/
inductive Undrawn (options : RenderOptions) (output : Document) :
    (pictures : List ByteArray) → (text bare : Markup) → Prop where
  | nil : Undrawn options output [] [] []
  | keep {pictures text bare} (kept : Markup) (later : Undrawn options output pictures text bare) :
      Undrawn options output pictures (kept ++ text) (kept ++ bare)
  | drawing {pictures text bare} (picture : ByteArray) (media : String) (relationship : List Char)
      (number : Nat) (stored : output.content? media = some (.binary picture))
      (later : Undrawn options output pictures text bare) :
      Undrawn options output (picture :: pictures)
        (Drawing.inline relationship number (PartName.file media.toList) options.imageWidth
          options.imageHeight ++ text) bare

section Writing

variable {payload : Payload} {options : RenderOptions} {fetch : Fetcher} {output : Document}

/-- What pieces are written as is, but for the drawings, what their segments are without pictures. -/
theorem undrawn_of_written {segments : List Segment} {pieces : List (Piece ByteArray)}
    {placements : List Placement} {text : Markup}
    (fits : List.Forall₂
      (Fits payload options.linebreaks fun tag picture => picture = tag.picture? payload fetch)
      segments pieces)
    (written : Written options pieces placements text)
    (stored : ∀ placement ∈ placements,
      output.content? placement.media = some (.binary placement.picture)) :
    Undrawn options output
      ((segments.filterMap Segment.tag?).filterMap (TagSpan.embedded? payload fetch)) text
      (segments.flatMap (Segment.undrawn payload options.linebreaks)) := by
  induction fits generalizing placements text with
  | nil =>
      cases written
      exact .nil
  | cons first _ ih =>
      rw [List.flatMap_cons]
      cases first with
      | literal literal =>
          cases written with
          | literal _ later => exact .keep literal (ih later stored)
      | text tag kind =>
          have tagged : (Segment.tag tag).tag? = some tag := rfl
          have unpictured : tag.embedded? payload fetch = none := by rw [TagSpan.embedded?, kind]
          rw [List.filterMap_cons_some tagged, List.filterMap_cons_none unpictured, Segment.undrawn,
            kind]
          cases written with
          | text _ _ later => exact .keep _ (ih later stored)
      | image tag kind picture answered =>
          have tagged : (Segment.tag tag).tag? = some tag := rfl
          have embedded : tag.embedded? payload fetch = picture := by
            rw [TagSpan.embedded?, kind, answered]
          rw [List.filterMap_cons_some tagged, Segment.undrawn, kind]
          cases written with
          | bare _ later =>
              rw [List.filterMap_cons_none embedded]
              exact .keep _ (ih later stored)
          | drawn placement _ later =>
              rw [List.forall_mem_cons] at stored
              rw [List.filterMap_cons_some embedded, List.append_assoc]
              exact .drawing placement.picture placement.media _ _ stored.1
                (.keep _ (ih later stored.2))

end Writing

section Rendering

variable {document : Document} {payload : Payload} {options : RenderOptions} {draft : Draft}
  {fetch fetch' : Fetcher} {report : Report}

/-- A draft asks for the pictures of the tags of its document. -/
theorem Draft.locators_of_make (made : Draft.make document payload options = .ok draft) :
    draft.locators = document.locators payload := by
  obtain ⟨-, plans⟩ := Draft.plans_of_make made
  rw [Draft.locators, Draft.requests, plans, List.flatMap_map, List.map_flatMap, Document.locators,
    Document.tags, List.filterMap_flatMap]
  refine List.flatMap_congr fun template _ => ?_
  rw [PartPlan.pictures, PartPlan.make, PartPlan.filterMap_pieceOf fun _ => rfl,
    List.map_filterMap]
  refine List.filterMap_congr fun tag _ => ?_
  rw [PartPlan.pieceOfTag, TagSpan.locator?]
  cases tag.tag.kind with
  | text => rfl
  | image => simp [Piece.picture?, Function.comp_def]

/-- The answers to what is asked for decide what is rendered. -/
theorem render_congr_fetch
    (same : ∀ locator ∈ fetchedLocators document payload options, fetch locator = fetch' locator) :
    render document payload options fetch = render document payload options fetch' := by
  cases made : Draft.make document payload options with
  | error error => rw [render_eq_error made, render_eq_error made]
  | ok draft =>
      rw [fetchedLocators_of_make made] at same
      rw [render_eq_complete made, render_eq_complete made, List.map_congr_left same]

/-- A lenient draft that cannot be completed cannot be packed. -/
theorem Draft.exists_unwritable_of_complete {outcomes : List FetchOutcome} {error : RenderError}
    (lenient : draft.options.strict = false) (failed : draft.complete outcomes = .error error) :
    ∃ detail, error = .package (.unwritable detail) := by
  rw [complete, lenient, Bool.false_and, if_neg Bool.false_ne_true] at failed
  simp only [Document.pack] at failed
  split at failed
  · cases failed
  · next unpacked =>
    cases failed
    split at unpacked
    · split at unpacked
      · cases unpacked
      · cases unpacked
        exact ⟨_, rfl⟩
    · cases unpacked

/-- Without its drawings, the text of every part with tags is told by the template and the payload. -/
theorem exists_undrawn_of_render (rendered : render document payload options fetch = .ok report) :
    ∃ output, filledDocument document payload options fetch = .ok output ∧
      output.pack = .ok report.bytes ∧
      ∀ name ∈ document.templateNames, ∃ source text, document.markup? name = some source ∧
        output.markup? name = some text ∧
        Undrawn options output ((scan source).tags.filterMap (TagSpan.embedded? payload fetch)) text
          ((scan source).segments.flatMap (Segment.undrawn payload options.linebreaks)) := by
  obtain ⟨output, placements, embedding, filled, packed, rfl, sound, -, parts⟩ :=
    exists_placements_of_render rendered
  refine ⟨embedding.finish, filled, packed, fun name mem => ?_⟩
  obtain ⟨source, block, text, there, part⟩ := parts name mem
  obtain ⟨pieces, fits, written⟩ := part.written
  refine ⟨source, text, there, part.text, undrawn_of_written fits written ?_⟩
  exact fun placement placed => sound.content?_finish_media (part.placed.subset placed)

theorem TagSpan.fetchReason?_fate (payload : Payload) (fetch : Fetcher) (tag : TagSpan) :
    (tag.fate payload fetch).fetchReason? =
      (tag.failure? payload fetch).map fun failure => .fetchFailed failure.message := by
  unfold TagSpan.fate TagSpan.failure? TagSpan.locator?
  cases tag.tag.kind <;> cases payload.binding tag.tag.identifier <;> try rfl
  all_goals
    next locator =>
      simp only [Binding.locator?, Option.bind_some]
      cases fetch locator <;> rfl

/-- The warnings that a fetch failed are those of the tags whose own fetches fail. -/
theorem filter_isFetchFailed_of_render
    (rendered : render document payload options fetch = .ok report) :
    report.warnings.filter (fun warning => warning.reason.isFetchFailed) =
      document.outages payload fetch := by
  have warnings : report.warnings = document.warnings payload fetch := warnings_of_render rendered
  rw [warnings, Document.filter_isFetchFailed_warnings]
  refine List.flatMap_congr fun template _ => List.filterMap_congr fun tag _ => ?_
  rw [TagSpan.fetchReason?_fate, Option.map_map]
  rfl

theorem PartPlan.substitutedCount_fetched (plan : PartPlan PictureRequest) :
    (plan.fetched fetch).substitutedCount = plan.substitutedCount := by
  simp [substitutedCount, fetched, List.countP_map, Function.comp_def]

/-- How many text tags have a value is told by the templates and the payload. -/
theorem textSubstituted_of_render (rendered : render document payload options fetch = .ok report) :
    report.statistics.textSubstituted =
      (document.templates.map fun template =>
        (PartPlan.make payload options.linebreaks template.1 template.2).substitutedCount).sum := by
  rw [statistics_of_render rendered]
  change ((document.plans payload options.linebreaks fetch).map PartPlan.substitutedCount).sum = _
  rw [Document.plans, List.map_map]
  exact congrArg List.sum (List.map_congr_left fun template _ => PartPlan.substitutedCount_fetched _)

/-- Reports that are alike but for the pictures in them and the warnings of those that are not. -/
structure AlikeButPictures (document : Document) (payload : Payload) (options : RenderOptions)
    (fetch fetch' : Fetcher) (report report' : Report) : Prop where
  warnings : report.warnings.filter (fun warning => !warning.reason.isFetchFailed) =
    report'.warnings.filter fun warning => !warning.reason.isFetchFailed
  found : report.statistics.tagsFound = report'.statistics.tagsFound
  substituted : report.statistics.textSubstituted = report'.statistics.textSubstituted
  texts : ∃ output output',
    filledDocument document payload options fetch = .ok output ∧
    output.pack = .ok report.bytes ∧
    filledDocument document payload options fetch' = .ok output' ∧
    output'.pack = .ok report'.bytes ∧
    ∀ name ∈ document.templateNames, ∃ source text text' bare,
      document.markup? name = some source ∧
      output.markup? name = some text ∧ output'.markup? name = some text' ∧
      Undrawn options output ((scan source).tags.filterMap (TagSpan.embedded? payload fetch)) text
        bare ∧
      Undrawn options output' ((scan source).tags.filterMap (TagSpan.embedded? payload fetch')) text'
        bare

theorem alikeButPictures_of_render {report' : Report}
    (rendered : render document payload options fetch = .ok report)
    (rendered' : render document payload options fetch' = .ok report') :
    AlikeButPictures document payload options fetch fetch' report report' := by
  have warnings : report.warnings = document.warnings payload fetch := warnings_of_render rendered
  have warnings' : report'.warnings = document.warnings payload fetch' := warnings_of_render rendered'
  constructor
  case warnings =>
    rw [warnings, warnings', Document.filter_not_isFetchFailed_warnings document payload fetch fetch,
      Document.filter_not_isFetchFailed_warnings document payload fetch' fetch]
  case found => rw [tagsFound_of_render rendered, tagsFound_of_render rendered']
  case substituted => rw [textSubstituted_of_render rendered, textSubstituted_of_render rendered']
  case texts =>
    obtain ⟨output, filled, packed, texts⟩ := exists_undrawn_of_render rendered
    obtain ⟨output', filled', packed', texts'⟩ := exists_undrawn_of_render rendered'
    refine ⟨output, output', filled, packed, filled', packed', fun name mem => ?_⟩
    obtain ⟨source, text, there, written, undrawn⟩ := texts name mem
    obtain ⟨source', text', there', written', undrawn'⟩ := texts' name mem
    obtain rfl : source = source' := Option.some.inj (there.symm.trans there')
    exact ⟨source, text, text', _, there, written, written', undrawn, undrawn'⟩

/-- One picture that cannot be had affects nothing but its own place. A lenient render asks for the
    pictures of the bound image tags and for nothing else. Whatever the answers are, it fails of the
    same part before it asks, or it gives reports that are alike but for the pictures, unless they
    cannot be packed; and the failed fetches are warned of, each with its own failure. -/
theorem render_isolates_outages (document : Document) (payload : Payload) (options : RenderOptions)
    (lenient : options.strict = false) (fetch fetch' : Fetcher) :
    ((∀ locator ∈ fetchedLocators document payload options, fetch locator = fetch' locator) →
      render document payload options fetch = render document payload options fetch') ∧
    ((∃ error, error.isOfPart = true ∧ fetchedLocators document payload options = [] ∧
        render document payload options fetch = .error error ∧
        render document payload options fetch' = .error error) ∨
      (fetchedLocators document payload options = document.locators payload ∧
        (∀ error, render document payload options fetch = .error error →
          ∃ detail, error = .package (.unwritable detail)) ∧
        (∀ error, render document payload options fetch' = .error error →
          ∃ detail, error = .package (.unwritable detail)) ∧
        ∀ report report', render document payload options fetch = .ok report →
          render document payload options fetch' = .ok report' →
          AlikeButPictures document payload options fetch fetch' report report')) ∧
    ∀ report, render document payload options fetch = .ok report →
      report.warnings.filter (fun warning => warning.reason.isFetchFailed) =
        document.outages payload fetch := by
  refine ⟨render_congr_fetch, ?_, fun _ rendered => filter_isFetchFailed_of_render rendered⟩
  cases made : Draft.make document payload options with
  | error error =>
      exact .inl ⟨error, Draft.isOfPart_of_make made, fetchedLocators_of_error made,
        render_eq_error made fetch, render_eq_error made fetch'⟩
  | ok draft =>
      obtain ⟨-, sameOptions, -, -⟩ := Draft.of_make made
      have lenient : draft.options.strict = false := sameOptions ▸ lenient
      refine .inr ⟨?_, fun error failed => ?_, fun error failed => ?_,
        fun report report' => alikeButPictures_of_render⟩
      · exact (fetchedLocators_of_make made).trans (Draft.locators_of_make made)
      · exact Draft.exists_unwritable_of_complete lenient ((render_eq_complete made fetch) ▸ failed)
      · exact Draft.exists_unwritable_of_complete lenient ((render_eq_complete made fetch') ▸ failed)

end Rendering

/-- The template with tags of every fate has a report with a picture, and one without when nothing can
    be fetched; they are alike but for it. -/
theorem render_isolates_outages_mixed :
    let unreachable : Fetcher := fun locator => .error (.status locator notFound)
    ∃ report report',
      render Sample.mixed Sample.mixedPayload {} Sample.fetch = .ok report ∧
      render Sample.mixed Sample.mixedPayload {} unreachable = .ok report' ∧
      report.statistics.imagesEmbedded = 1 ∧ report'.statistics.imagesEmbedded = 0 ∧
      AlikeButPictures Sample.mixed Sample.mixedPayload {} Sample.fetch unreachable report
        report' := by
  intro unreachable
  obtain ⟨report, rendered⟩ := Sample.exists_mixed_report
  obtain ⟨report', rendered'⟩ :
      ∃ report', render Sample.mixed Sample.mixedPayload {} unreachable = .ok report' :=
    exists_report rfl (by decide +kernel)
  obtain ⟨-, ⟨error, -, -, failed, -⟩ | ⟨-, -, -, alike⟩, -⟩ :=
    render_isolates_outages Sample.mixed Sample.mixedPayload {} rfl Sample.fetch unreachable
  · rw [rendered] at failed
    cases failed
  · refine ⟨report, report', rendered, rendered', ?_, ?_, alike report report' rendered rendered'⟩
    · rw [statistics_of_render rendered]
      exact (Document.length_pictures_plans _ _ _ _).trans (by decide +kernel)
    · rw [statistics_of_render rendered']
      exact (Document.length_pictures_plans _ _ _ _).trans (by decide +kernel)

end Stencil
