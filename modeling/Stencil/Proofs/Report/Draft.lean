import Stencil.Proofs.Asset.Pool
import Stencil.Proofs.Package.Reading
import Stencil.Proofs.Report.Course
import Stencil.Proofs.Report.Filling
import Stencil.Asset.Catalog
import Stencil.Report.Render

/-! # Filled documents

The document of a report before it is packed: every part with tags holds what its plan is written
as, and the pictures are those that were put there.

Main statements: `Draft.exists_placements`, `exists_course_of_render`, `exists_placements_of_render`.
-/

namespace Stencil

namespace Embedding

variable {options : RenderOptions}

theorem writePart_of_hasTags {plan : PartPlan ByteArray} (h : plan.hasTags = true)
    (embedding : Embedding) :
    embedding.writePart options plan =
      { (writePieces options plan.name plan.pieces embedding).2 with
        document := (writePieces options plan.name plan.pieces embedding).2.document.set plan.name
          (.markup (writePieces options plan.name plan.pieces embedding).1) } := by
  rw [writePart, if_pos h]

theorem content?_writePart {plan : PartPlan ByteArray} {name : String}
    (tagged : PartName.isTemplate name = true) (other : name ≠ plan.name) (embedding : Embedding) :
    (embedding.writePart options plan).document.content? name =
      embedding.document.content? name := by
  cases replaced : plan.hasTags with
  | false => rw [writePart, replaced, if_neg Bool.false_ne_true]
  | true =>
      obtain ⟨placements, run, -, -⟩ :=
        exists_run_writePieces options plan.name plan.pieces embedding
      rw [writePart_of_hasTags replaced]
      exact (Document.content?_set_of_ne other _ _).trans (Sound.content?_run run tagged)

theorem content?_foldl_writePart {plans : List (PartPlan ByteArray)} {name : String}
    (tagged : PartName.isTemplate name = true) (other : name ∉ plans.map PartPlan.name)
    (embedding : Embedding) :
    (plans.foldl (writePart options) embedding).document.content? name =
      embedding.document.content? name := by
  induction plans generalizing embedding with
  | nil => rfl
  | cons plan rest ih =>
      rw [List.map_cons, List.mem_cons, not_or] at other
      rw [List.foldl_cons, ih other.2, content?_writePart tagged other.1]

end Embedding

/-- The part of a plan holds what the plan is written as, with some of the placements. -/
def PartPlan.Filled (options : RenderOptions) (plan : PartPlan ByteArray)
    (placements : List Placement) (document : Document) : Prop :=
  ∃ block text, block <:+: placements ∧ (∀ placement ∈ block, placement.part = plan.name) ∧
    Written options plan.pieces block text ∧ document.markup? plan.name = some text

/-- Plans of parts with tags, of which equal names have equal sources. -/
structure Planned (options : RenderOptions) (document : Document)
    (plans : List (PartPlan ByteArray)) : Prop where
  tagged : ∀ plan ∈ plans, PartName.isTemplate plan.name = true
  alike : ∀ plan ∈ plans, ∀ other ∈ plans, other.name = plan.name → other.hasTags = plan.hasTags
  untouched : ∀ plan ∈ plans, plan.hasTags = false →
    Written options plan.pieces [] plan.source ∧ document.markup? plan.name = some plan.source

theorem Planned.of_subset {options : RenderOptions} {document : Document}
    {plans some : List (PartPlan ByteArray)} (h : Planned options document plans)
    (subset : some ⊆ plans) : Planned options document some where
  tagged := fun plan mem => h.tagged plan (subset mem)
  alike := fun plan mem other mem' => h.alike plan (subset mem) other (subset mem')
  untouched := fun plan mem => h.untouched plan (subset mem)

namespace Embedding

variable {options : RenderOptions} {writes : String → Prop} {start embedding : Embedding}
  {placements : List Placement}

theorem exists_writePart (course : Course options writes start placements embedding)
    {plan : PartPlan ByteArray} (planned : Planned options embedding.document [plan])
    (writable : plan.hasTags = true → writes plan.name) :
    ∃ block, Course options writes start (placements ++ block) (embedding.writePart options plan) ∧
      block.map Placement.origin = plan.pictures.map (plan.name, ·) ∧
      plan.Filled options block (embedding.writePart options plan).document := by
  have origins {block : List Placement} {text : Markup}
      (written : Written options plan.pieces block text)
      (inPart : ∀ placement ∈ block, placement.part = plan.name) :
      block.map Placement.origin = plan.pictures.map (plan.name, ·) := by
    rw [PartPlan.pictures, ← written.map_picture, List.map_map]
    exact List.map_congr_left fun placement mem => by
      rw [Placement.origin, inPart placement mem, Function.comp_apply]
  cases replaced : plan.hasTags with
  | false =>
      obtain ⟨written, there⟩ := planned.untouched plan List.mem_cons_self replaced
      rw [writePart, replaced, if_neg Bool.false_ne_true]
      refine ⟨[], (List.append_nil placements).symm ▸ course, origins written (by simp), ?_⟩
      exact ⟨[], plan.source, List.infix_rfl, by simp, written, there⟩
  | true =>
      obtain ⟨block, run, written, inPart⟩ :=
        exists_run_writePieces options plan.name plan.pieces embedding
      rw [writePart_of_hasTags replaced]
      refine ⟨block, (course.run run).setText (writable replaced) _, origins written inPart, block, _,
        List.infix_rfl, inPart, written, ?_⟩
      exact Document.markup?_of_content? (Document.content?_set_self _ _ _)

/-- A plan that was written leaves the parts of the others as they were planned. -/
theorem planned_writePart {plan : PartPlan ByteArray} {rest : List (PartPlan ByteArray)}
    (h : Planned options embedding.document (plan :: rest)) :
    Planned options (embedding.writePart options plan).document rest := by
  have others := h.of_subset (List.subset_cons_self plan rest)
  refine ⟨others.tagged, others.alike, fun other mem bare => ?_⟩
  obtain ⟨written, there⟩ := others.untouched other mem bare
  refine ⟨written, ?_⟩
  by_cases same : other.name = plan.name
  · have alike := h.alike plan List.mem_cons_self other (List.mem_cons_of_mem plan mem) same
    rw [writePart, ← alike, bare, if_neg Bool.false_ne_true]
    exact there
  · rw [Document.markup?, content?_writePart (others.tagged other mem) same]
    exact there

/-- Plans that are written one after the other. -/
theorem exists_foldl_writePart (course : Course options writes start placements embedding)
    {plans : List (PartPlan ByteArray)} (planned : Planned options embedding.document plans)
    (writable : ∀ plan ∈ plans, plan.hasTags = true → writes plan.name) :
    ∃ following,
      Course options writes start (placements ++ following)
        (plans.foldl (writePart options) embedding) ∧
      following.map Placement.origin =
        (plans.flatMap fun plan => plan.pictures.map (plan.name, ·)) ∧
      ∀ name ∈ plans.map PartPlan.name, ∃ plan ∈ plans, plan.name = name ∧
        plan.Filled options following (plans.foldl (writePart options) embedding).document := by
  induction plans generalizing placements embedding with
  | nil => exact ⟨[], (List.append_nil placements).symm ▸ course, rfl, by simp⟩
  | cons plan rest ih =>
      rw [List.forall_mem_cons] at writable
      have first := planned.of_subset (List.cons_subset_cons plan (List.nil_subset rest))
      obtain ⟨block, course, origins, filled⟩ := exists_writePart course first writable.1
      obtain ⟨following, course, others', others⟩ :=
        ih course (planned_writePart planned) writable.2
      refine ⟨block ++ following, List.append_assoc .. ▸ course, ?_, ?_⟩
      · rw [List.map_append, List.flatMap_cons, origins, others']
      · intro name mem
        by_cases again : name ∈ rest.map PartPlan.name
        · obtain ⟨last, listed, named, part, text, inside, rest⟩ := others name again
          exact ⟨last, List.mem_cons_of_mem _ listed, named, part, text,
            List.infix_append_of_infix_right inside, rest⟩
        · rcases List.mem_cons.mp mem with rfl | later
          · obtain ⟨part, text, inside, inPart, written, there⟩ := filled
            refine ⟨plan, List.mem_cons_self, rfl, part, text,
              List.infix_append_of_infix_left inside, inPart, written, ?_⟩
            rw [List.foldl_cons, Document.markup?,
              content?_foldl_writePart (planned.tagged plan List.mem_cons_self) again]
            exact there
          · exact absurd later again

end Embedding

/-- A part is written from its source, with the placements of its own pictures. -/
structure WrittenPart (payload : Payload) (options : RenderOptions)
    (answers : TagSpan → Option ByteArray → Prop) (placements : List Placement) (name : String)
    (source : Markup) (output : Document) (block : List Placement) (text : Markup) : Prop where
  written : ∃ pieces,
    List.Forall₂ (Fits payload options.linebreaks answers) (scan source).segments pieces ∧
      Written options pieces block text
  placed : block <:+: placements
  inPart : ∀ placement ∈ block, placement.part = name
  text : output.markup? name = some text

namespace Draft

variable {document : Document} {payload : Payload} {options : RenderOptions} {draft : Draft}

theorem planParts_eq_ok {linebreaks : Bool} {earlier : List Warning} {names : List String}
    {plans : List (PartPlan PictureRequest)}
    (h : planParts document payload linebreaks earlier names = .ok plans) :
    plans.map PartPlan.name = names ∧ ∀ plan ∈ plans, document.markup? plan.name = some plan.source ∧
      plan = PartPlan.make payload linebreaks plan.name plan.source := by
  induction names generalizing earlier plans with
  | nil =>
      cases h
      exact ⟨rfl, by simp⟩
  | cons name rest ih =>
      rw [planParts] at h
      split at h
      · cases h
      · next source found =>
        cases later : planParts document payload linebreaks
            (earlier ++ (PartPlan.make payload linebreaks name source).warnings) rest with
        | error error =>
            simp only [later] at h
            cases h
        | ok others =>
            simp only [later] at h
            cases h
            obtain ⟨names, made⟩ := ih later
            exact ⟨congrArg (name :: ·) names, List.forall_mem_cons.mpr ⟨⟨found, rfl⟩, made⟩⟩

/-- A draft is made once the required parts are there and all parts with tags are planned. -/
theorem make_eq_ok_iff :
    Draft.make document payload options = .ok draft ↔
      document.require PartName.required = .ok () ∧
      document.markup? PartName.contentTypes = some draft.contentTypes ∧
      planParts document payload options.linebreaks [] document.templateNames = .ok draft.plans ∧
      draft.document = document ∧ draft.options = options := by
  constructor
  · intro made
    unfold Draft.make at made
    cases required : document.require PartName.required with
    | error error =>
        rw [required] at made
        cases made
    | ok =>
        rw [required] at made
        cases types : document.markup? PartName.contentTypes with
        | none =>
            rw [types] at made
            cases made
        | some contentTypes =>
            rw [types] at made
            cases plans : planParts document payload options.linebreaks []
                document.templateNames with
            | error error =>
                simp only [plans] at made
                cases made
            | ok plans' =>
                simp only [plans] at made
                cases made
                exact ⟨rfl, rfl, rfl, rfl, rfl⟩
  · rintro ⟨required, types, plans, rfl, rfl⟩
    rw [Draft.make, required, types, plans]
    rfl

/-- A draft plans the parts with tags, each from its markup. -/
theorem of_make (h : Draft.make document payload options = .ok draft) :
    draft.document = document ∧ draft.options = options ∧
      draft.plans.map PartPlan.name = document.templateNames ∧
      ∀ plan ∈ draft.plans, document.markup? plan.name = some plan.source ∧
        plan = PartPlan.make payload options.linebreaks plan.name plan.source := by
  obtain ⟨-, -, plans, sameDocument, sameOptions⟩ := make_eq_ok_iff.mp h
  exact ⟨sameDocument, sameOptions, planParts_eq_ok plans⟩

/-- The filled document, given the outcomes of the fetches. -/
def filled (draft : Draft) (outcomes : List FetchOutcome) : Document :=
  draft.fill (PartPlan.supply draft.plans outcomes)

section Fitting

variable {answers : TagSpan → Option ByteArray → Prop} {plans : List (PartPlan ByteArray)}

/-- A supplied plan is that of a part with tags, and fits the markup of the part. -/
theorem fits_of_mem (made : Draft.make document payload options = .ok draft)
    (fits : List.Forall₂ (PartPlan.FitsSource payload options.linebreaks answers) draft.plans plans)
    {plan : PartPlan ByteArray} (mem : plan ∈ plans) :
    PartName.isTemplate plan.name = true ∧ document.markup? plan.name = some plan.source ∧
      plan.hasTags = ((scan plan.source).segments.any fun segment => segment.tag?.isSome) ∧
      List.Forall₂ (Fits payload options.linebreaks answers) (scan plan.source).segments
        plan.pieces := by
  obtain ⟨-, -, names, planned⟩ := of_make made
  obtain ⟨draft', listed, fit⟩ := PartPlan.exists_fitsSource_of_mem fits mem
  have named : draft'.name ∈ document.templateNames := names ▸ List.mem_map_of_mem listed
  rw [fit.name, fit.source]
  exact ⟨(List.mem_filter.mp named).2, (planned draft' listed).1, fit.hasTags_eq, fit.pieces⟩

theorem planned_of_fits (made : Draft.make document payload options = .ok draft)
    (fits : List.Forall₂ (PartPlan.FitsSource payload options.linebreaks answers) draft.plans plans) :
    Planned options document plans := by
  constructor
  case tagged => exact fun plan mem => (fits_of_mem made fits mem).1
  case alike =>
    intro plan mem other mem' same
    obtain ⟨-, there, tags, -⟩ := fits_of_mem made fits mem
    obtain ⟨-, there', tags', -⟩ := fits_of_mem made fits mem'
    rw [same, there] at there'
    rw [tags, tags', Option.some.inj there']
  case untouched =>
    intro plan mem untagged
    obtain ⟨-, there, -, pieces⟩ := fits_of_mem made fits mem
    exact ⟨written_of_untagged pieces untagged, there⟩

/-- Pictures are put into the parts with tags, and these parts are written from their sources. -/
theorem exists_placements (made : Draft.make document payload options = .ok draft)
    (fits : List.Forall₂ (PartPlan.FitsSource payload options.linebreaks answers) draft.plans plans)
    {writes : String → Prop} (tagged : ∀ name, writes name → PartName.isTemplate name = true)
    (writable : ∀ plan ∈ plans, plan.hasTags = true → writes plan.name) :
    ∃ placements embedding,
      Embedding.Course options writes
        (Embedding.begin document draft.contentTypes draft.firstDrawing) placements embedding ∧
      draft.fill plans = embedding.finish ∧
      placements.map Placement.origin =
        (plans.flatMap fun plan => plan.pictures.map (plan.name, ·)) ∧
      ∀ name ∈ document.templateNames, ∃ source block text, document.markup? name = some source ∧
        WrittenPart payload options answers placements name source (draft.fill plans) block text := by
  obtain ⟨sameDocument, sameOptions, names, -⟩ := of_make made
  have begins : Embedding.Course options writes
      (Embedding.begin document draft.contentTypes draft.firstDrawing) [] _ := .start
  obtain ⟨placements, course, origins, filled⟩ :=
    Embedding.exists_foldl_writePart begins (planned_of_fits made fits) writable
  have finished : draft.fill plans = (plans.foldl (Embedding.writePart options)
      (Embedding.begin document draft.contentTypes draft.firstDrawing)).finish := by
    rw [fill, sameDocument, sameOptions]
  refine ⟨placements, _, course, finished, origins, ?_⟩
  intro name mem
  have supplied : plans.map PartPlan.name = document.templateNames :=
    (PartPlan.map_name_of_fitsSource fits).trans names
  obtain ⟨plan, listed, rfl, block, text, inside, inPart, written, there⟩ :=
    filled name (supplied ▸ mem)
  obtain ⟨isTemplate, source, -, pieces⟩ := fits_of_mem made fits listed
  refine ⟨plan.source, block, text, source, ⟨plan.pieces, pieces, written⟩, inside, inPart, ?_⟩
  have sound := Embedding.Sound.of_course course tagged
  rw [finished, Document.markup?, sound.content?_finish_of_isTemplate isTemplate]
  exact there

end Fitting

/-- The placements of any outcomes. -/
theorem exists_placements_filled (made : Draft.make document payload options = .ok draft)
    (outcomes : List FetchOutcome) :
    ∃ placements embedding, Embedding.Sound document placements embedding ∧
      draft.filled outcomes = embedding.finish ∧
      ∀ name ∈ document.templateNames, ∃ source block text, document.markup? name = some source ∧
        WrittenPart payload options (fun _ _ => True) placements name source
          (draft.filled outcomes) block text := by
  obtain ⟨-, -, -, planned⟩ := of_make made
  have fits := PartPlan.fitsSource_supply (fun plan mem => (planned plan mem).2) outcomes
  obtain ⟨placements, embedding, course, finished, -, written⟩ :=
    exists_placements made fits (fun _ template => template) fun plan mem _ =>
      (fits_of_mem made fits mem).1
  exact ⟨placements, embedding, .of_course course fun _ template => template, finished, written⟩

end Draft

/-- The document that a report packs. -/
def filledDocument (document : Document) (payload : Payload) (options : RenderOptions)
    (fetch : Fetcher) : Except RenderError Document :=
  (Draft.make document payload options).map fun draft => draft.filled (draft.locators.map fetch)

section Rendering

variable {document : Document} {payload : Payload} {options : RenderOptions} {fetch : Fetcher}
  {report : Report}

theorem filledDocument_eq_ok_iff {output : Document} :
    filledDocument document payload options fetch = .ok output ↔
      ∃ draft, Draft.make document payload options = .ok draft ∧
        draft.filled (draft.locators.map fetch) = output := by
  rw [filledDocument]
  cases Draft.make document payload options with
  | error error => simp [Except.map]
  | ok draft => simp [Except.map]

/-- What a render fetches is what `fetchedLocators` lists, in its order. -/
theorem render_eq_fetchedLocators (document : Document) (payload : Payload) (options : RenderOptions)
    (fetch : Fetcher) :
    render document payload options fetch =
      (Draft.make document payload options).bind fun draft =>
        draft.complete (fetchAll fetch options.concurrency
          (fetchedLocators document payload options)) := rfl

theorem fetchedLocators_of_make {draft : Draft}
    (made : Draft.make document payload options = .ok draft) :
    fetchedLocators document payload options = draft.locators := by
  rw [fetchedLocators, made, Draft.fetches]

theorem fetchedLocators_of_error {error : RenderError}
    (failed : Draft.make document payload options = .error error) :
    fetchedLocators document payload options = [] := by
  rw [fetchedLocators, failed, Draft.fetches]

theorem render_eq_complete {draft : Draft} (made : Draft.make document payload options = .ok draft)
    (fetch : Fetcher) :
    render document payload options fetch = draft.complete (draft.locators.map fetch) := by
  rw [render_eq_fetchedLocators, made, fetchedLocators_of_make made, fetchAll_eq_map]
  rfl

theorem render_eq_error {error : RenderError}
    (failed : Draft.make document payload options = .error error) (fetch : Fetcher) :
    render document payload options fetch = .error error := by
  rw [render_eq_fetchedLocators, failed]
  rfl

theorem exists_draft_of_render (rendered : render document payload options fetch = .ok report) :
    ∃ draft, Draft.make document payload options = .ok draft ∧
      draft.complete (draft.locators.map fetch) = .ok report := by
  cases made : Draft.make document payload options with
  | error error =>
      rw [render_eq_error made] at rendered
      cases rendered
  | ok draft => exact ⟨draft, rfl, render_eq_complete made fetch ▸ rendered⟩

theorem Draft.of_complete {draft : Draft} {outcomes : List FetchOutcome}
    (completed : draft.complete outcomes = .ok report) :
    (draft.filled outcomes).pack = .ok report.bytes ∧
      report.statistics = RenderStatistics.ofPlans (PartPlan.supply draft.plans outcomes) := by
  rw [Draft.complete] at completed
  split at completed
  · cases completed
  · simp only at completed
    split at completed
    · next bytes packed =>
      cases completed
      exact ⟨packed, rfl⟩
    · cases completed

theorem Draft.warnings_of_complete {draft : Draft} {outcomes : List FetchOutcome}
    (completed : draft.complete outcomes = .ok report) :
    report.warnings = draft.warnings outcomes := by
  rw [Draft.complete] at completed
  split at completed
  · cases completed
  · simp only at completed
    split at completed
    · cases completed
      rfl
    · cases completed

/-- A report is made of a draft by putting the pictures that are fetched into parts, each for its own
    tag, and by writing the parts with tags from their sources. -/
theorem exists_course_of_render (rendered : render document payload options fetch = .ok report) :
    ∃ draft placements embedding, Draft.make document payload options = .ok draft ∧
      filledDocument document payload options fetch = .ok embedding.finish ∧
      embedding.finish.pack = .ok report.bytes ∧
      Embedding.Course options (fun name => PartName.isTemplate name = true)
        (Embedding.begin document draft.contentTypes draft.firstDrawing) placements embedding ∧
      placements.length = report.statistics.imagesEmbedded ∧
      ∀ name ∈ document.templateNames, ∃ source block text, document.markup? name = some source ∧
        WrittenPart payload options (fun tag picture => picture = tag.picture? payload fetch)
          placements name source embedding.finish block text := by
  obtain ⟨draft, made, completed⟩ := exists_draft_of_render rendered
  obtain ⟨packed, statistics⟩ := Draft.of_complete completed
  have fetched : PartPlan.supply draft.plans (draft.locators.map fetch) =
      draft.plans.map (PartPlan.fetched fetch) := by
    rw [Draft.locators, List.map_map]
    exact PartPlan.supply_fetched fetch draft.plans
  obtain ⟨-, -, -, planned⟩ := Draft.of_make made
  have fits := PartPlan.fitsSource_fetched fetch fun plan mem => (planned plan mem).2
  rw [← fetched] at fits
  obtain ⟨placements, embedding, course, finished, origins, written⟩ :=
    Draft.exists_placements made fits (fun _ template => template) fun plan mem _ =>
      (Draft.fits_of_mem made fits mem).1
  have filled : draft.filled (draft.locators.map fetch) = embedding.finish := finished
  rw [finished] at written
  refine ⟨draft, placements, embedding, made, ?_, filled ▸ packed, course, ?_, written⟩
  · rw [filledDocument, made, ← filled]
    rfl
  · rw [statistics, RenderStatistics.ofPlans, ← List.length_map (f := Placement.origin), origins,
      List.length_flatMap, List.length_flatMap]
    simp only [List.length_map]

/-- A report packs a document whose parts with tags are written from their sources, with the
    pictures that are fetched for their own tags. -/
theorem exists_placements_of_render
    (rendered : render document payload options fetch = .ok report) :
    ∃ output placements embedding, filledDocument document payload options fetch = .ok output ∧
      output.pack = .ok report.bytes ∧ output = embedding.finish ∧
      Embedding.Sound document placements embedding ∧
      placements.length = report.statistics.imagesEmbedded ∧
      ∀ name ∈ document.templateNames, ∃ source block text, document.markup? name = some source ∧
        WrittenPart payload options (fun tag picture => picture = tag.picture? payload fetch)
          placements name source output block text := by
  obtain ⟨draft, placements, embedding, -, filled, packed, course, length, written⟩ :=
    exists_course_of_render rendered
  exact ⟨_, placements, embedding, filled, packed, rfl, .of_course course fun _ template => template,
    length, written⟩

/-- A report that no warning stops is made if its document can be packed. -/
theorem exists_report (lenient : options.strict = false)
    (distinct : (filledDocument document payload options fetch).toOption.any
      (fun output => (output.repackedEntries.map Zip.Entry.name).Nodup) = true) :
    ∃ report, render document payload options fetch = .ok report := by
  unfold filledDocument at distinct
  cases made : Draft.make document payload options with
  | error error =>
      rw [made] at distinct
      cases distinct
  | ok draft =>
      rw [made] at distinct
      obtain ⟨bytes, packed⟩ := Document.pack_of_nodup (of_decide_eq_true distinct)
      obtain ⟨-, sameOptions, -, -⟩ := Draft.of_make made
      have packed : (draft.fill (PartPlan.supply draft.plans (draft.locators.map fetch))).pack =
        .ok bytes := packed
      rw [render_eq_complete made, Draft.complete, sameOptions, lenient, Bool.false_and,
        if_neg Bool.false_ne_true]
      simp only [packed]
      exact ⟨_, rfl⟩

end Rendering

namespace Sample

/-- A document that is opened from a container of its parts. -/
def opened (parts : List Part) : Document :=
  { source := ((parts.map Part.toEntry).foldl Zip.Draft.add Zip.Draft.empty).finish
    entries := parts.map Part.toEntry, parts }

def original (name : String) (content : PartContent) : Part :=
  { name, content, original := true, modified := false }

/-- The declarations of a small template. -/
def types : Part :=
  original PartName.contentTypes (.markup "<Types></Types>".toList)

/-- Relationships with an identifier like those of pictures. -/
def links : Part :=
  original (Relationships.partFor PartName.mainDocument)
    (.markup "<Relationships><Relationship Id=\"rIdReportgen1\"/></Relationships>".toList)

/-- A small template with the text. -/
def template (runs : Markup) : Document :=
  opened [types, original PartName.mainDocument (.markup runs), links]

def withBody (source : String) : Document :=
  template source.toList

/-- A text tag and three image tags, the first of which is split over two runs. -/
def runs : Markup :=
  "<w:r><w:t>{{name}}: {%lo</w:t></w:r><w:r><w:t>go} {%seal:x%}{%gone}.</w:t></w:r>".toList

def body : Part :=
  original PartName.mainDocument (.markup runs)

def document : Document :=
  template runs

def payload : Payload :=
  { fields :=
      [("name", .string "Ada\nB."), ("logo", .string "logo"), ("seal", .string "seal"),
       ("gone", .string "lost")] }

/-- Each locator is answered with its own text, but for one that is not found. -/
def fetch : Fetcher := fun locator =>
  if locator = "lost" then .error (.status locator notFound) else .ok locator.toUTF8

theorem exists_report : ∃ report, render document payload {} fetch = .ok report :=
  Stencil.exists_report rfl (by decide +kernel)

end Sample

end Stencil
