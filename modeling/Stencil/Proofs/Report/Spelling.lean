import Stencil.Proofs.Report.Insertion
import Stencil.Proofs.Report.Outages
import Stencil.Proofs.Report.Packing
import Stencil.Proofs.Scan.Spelling

/-! # Reports of tags with other spellings

How a tag is spelled does not matter: any spelling with the same kind, the same name and the same
elements gives the same report. Only what is told of malformed spans, the quoted text of tags in
warnings and the numbers of drawings may differ.

Main statement: `render_respelled`.
-/

namespace Stencil

/-- The warning without the text of its tag. -/
def Warning.unspelled (warning : Warning) : Warning :=
  { warning with raw := "" }

namespace TagSpan.Interchangeable

variable {tag tag' : TagSpan}

theorem locator?_eq (h : tag.Interchangeable tag') (payload : Payload) :
    tag'.locator? payload = tag.locator? payload := by
  rw [TagSpan.locator?, TagSpan.locator?, h.kind, h.identifier]

theorem fate_eq (h : tag.Interchangeable tag') (payload : Payload) (fetch : Fetcher) :
    tag'.fate payload fetch = tag.fate payload fetch := by
  rw [TagSpan.fate, TagSpan.fate, h.kind, h.identifier]

theorem unspelled_warning (h : tag.Interchangeable tag') (part : String) (reason : WarningReason) :
    (tag'.warning part reason).unspelled = (tag.warning part reason).unspelled := by
  simp only [TagSpan.warning, Warning.unspelled, h.identifier]

end TagSpan.Interchangeable

namespace PartPlan

variable {payload : Payload} {linebreaks : Bool} {fetch : Fetcher} {name : String}
  {kind : TagKind} {before body body' after : Markup} {tag tag' : TagSpan}

theorem fetchedPiece_of_interchangeable {segment segment' : Segment}
    (same : segment.Interchangeable segment') :
    fetchedPiece payload linebreaks fetch name segment' =
      fetchedPiece payload linebreaks fetch name segment := by
  cases same with
  | literal text => rfl
  | @tag tag tag' same =>
      simp only [fetchedPiece, pieceOf, pieceOfTag, same.kind, same.identifier, same.markup]
      cases tag.tag.kind with
      | text => rfl
      | image => cases (payload.binding tag.tag.identifier).locator? <;> rfl

/-- Another spelling of a tag leaves what its part is made of. -/
theorem pieces_respelled (recognised : Recognised before kind body after tag)
    (recognised' : Recognised before kind body' after tag') (same : tag.Interchangeable tag')
    (payload : Payload) (linebreaks : Bool) (fetch : Fetcher) (name : String) :
    ((make payload linebreaks name (before ++ kind.enclose body' ++ after)).fetched fetch).pieces =
      ((make payload linebreaks name (before ++ kind.enclose body ++ after)).fetched fetch).pieces := by
  have pairs := recognised.segments_respelled recognised' same
  rw [pieces_fetched_make, pieces_fetched_make, ← List.forall₂_eq_eq_eq, List.forall₂_map_left_iff,
    List.forall₂_map_right_iff]
  exact pairs.flip.imp fun _ _ same => fetchedPiece_of_interchangeable same

theorem Retexted.pieces_eq (recognised : Recognised before kind body after tag)
    (recognised' : Recognised before kind body' after tag') (same : tag.Interchangeable tag')
    {plan plan' : PartPlan ByteArray}
    (h : Retexted payload linebreaks fetch name (before ++ kind.enclose body ++ after)
      (before ++ kind.enclose body' ++ after) plan plan') :
    plan'.name = plan.name ∧ plan'.pieces = plan.pieces := by
  cases h with
  | same => exact ⟨rfl, rfl⟩
  | changed => exact ⟨rfl, pieces_respelled recognised recognised' same payload linebreaks fetch name⟩

theorem alike_of_pieces {plan plan' : PartPlan ByteArray} (name : plan'.name = plan.name)
    (pieces : plan'.pieces = plan.pieces) : plan.Alike plan' where
  name := name
  pictures := by rw [pictures, pictures, pieces]
  hasTags := by rw [hasTags, hasTags, pieces]

end PartPlan

theorem RenderStatistics.ofPlans_of_pieces {plans plans' : List (PartPlan ByteArray)}
    (pieces : List.Forall₂ (fun plan plan' : PartPlan ByteArray => plan'.pieces = plan.pieces) plans
      plans') : ofPlans plans' = ofPlans plans := by
  have same {α : Type} {f : PartPlan ByteArray → α}
      (told : ∀ plan plan' : PartPlan ByteArray, plan'.pieces = plan.pieces → f plan' = f plan) :
      plans'.map f = plans.map f := by
    rw [← List.forall₂_eq_eq_eq, List.forall₂_map_left_iff, List.forall₂_map_right_iff]
    exact pieces.flip.imp fun _ _ => told _ _
  have rendered := congrArg (List.countP id) <| same (f := PartPlan.hasTags) fun _ _ equal => by
    rw [PartPlan.hasTags, PartPlan.hasTags, equal]
  rw [List.countP_map, List.countP_map] at rendered
  have tags := same (f := PartPlan.tagCount) fun _ _ equal => by
    rw [PartPlan.tagCount, PartPlan.tagCount, equal]
  have substituted := same (f := PartPlan.substitutedCount) fun _ _ equal => by
    rw [PartPlan.substitutedCount, PartPlan.substitutedCount, equal]
  have pictures := same (f := PartPlan.pictures) fun _ _ equal => by
    rw [PartPlan.pictures, PartPlan.pictures, equal]
  simp only [ofPlans, pieces.length_eq, tags, substituted, List.flatMap_def, pictures]
  exact congrArg (RenderStatistics.mk _ · _ _ _) rendered

/-- Documents with the same parts, but for the numbers of drawings in some texts. -/
structure Document.RenumberedIn (names : List String) (document document' : Document) : Prop where
  beside : document.SameBesideTags document'
  texts : ∀ name ∈ names, ∃ text text', document.markup? name = some text ∧
    document'.markup? name = some text' ∧ Renumbered text text'

/-- Such documents are read back as such. -/
theorem Document.RenumberedIn.of_reread {names : List String} {output output' again again' : Document}
    {bytes bytes' : ByteArray} (tagged : ∀ name ∈ names, PartName.isTemplate name = true)
    (reread : output.Reread bytes again) (reread' : output'.Reread bytes' again')
    (h : output.RenumberedIn names output') : again.RenumberedIn names again' where
  beside :=
    { names := by rw [reread.names_eq, reread'.names_eq, h.beside.names]
      contents := fun name untagged => by
        rw [reread.content?_eq, reread'.content?_eq, h.beside.contents name untagged] }
  texts := fun name listed => by
    have tagged := tagged name listed
    obtain ⟨text, text', there, there', same⟩ := h.texts name listed
    exact ⟨text, text', reread.template_eq tagged there, reread'.template_eq tagged there', same⟩

/-- Reports of two documents that tell the same, but for the texts of tags, what is said of malformed
    spans and the numbers of drawings. What they pack is alike, and so is what they are opened as. -/
structure SpelledAlike (document document' : Document) (payload : Payload) (options : RenderOptions)
    (fetch : Fetcher) (report report' : Report) : Prop where
  statistics : report'.statistics = report.statistics
  warnings : (report'.warnings.filter fun warning => !warning.reason.isMalformed).map
      Warning.unspelled =
    (report.warnings.filter fun warning => !warning.reason.isMalformed).map Warning.unspelled
  documents : ∃ output output',
    filledDocument document payload options fetch = .ok output ∧
    output.pack = .ok report.bytes ∧
    filledDocument document' payload options fetch = .ok output' ∧
    output'.pack = .ok report'.bytes ∧
    output.RenumberedIn document.templateNames output'
  opened : Reopenable document payload options fetch report →
    Reopenable document' payload options fetch report' →
    ∃ again again', Document.read report.bytes = .ok again ∧
      Document.read report'.bytes = .ok again' ∧
      again.RenumberedIn document.templateNames again'

section Rendering

variable {kind : TagKind} {before body body' after : Markup} {tag tag' : TagSpan}

theorem Recognised.tags_respelled (recognised : Recognised before kind body after tag)
    (recognised' : Recognised before kind body' after tag') (same : tag.Interchangeable tag') :
    List.Forall₂ TagSpan.Interchangeable (scan (before ++ kind.enclose body ++ after)).tags
      (scan (before ++ kind.enclose body' ++ after)).tags :=
  Segment.forall₂_tags (recognised.segments_respelled recognised' same)

variable {name : String} {source source' : Markup} {document document' : Document}
  {payload : Payload} {options : RenderOptions} {fetch : Fetcher}

namespace Document.DifferIn

theorem flatMap_templates {α : Type} (h : DifferIn name source source' document document')
    {f : String × Markup → List α} (same : f (name, source') = f (name, source)) :
    document'.templates.flatMap f = document.templates.flatMap f := by
  rw [h.templates_eq, List.flatMap_map]
  refine List.flatMap_congr fun template mem => ?_
  split
  · next here =>
    obtain ⟨other, text⟩ := template
    have found := Document.markup?_of_mem_templates mem
    obtain rfl : other = name := here
    rw [h.there] at found
    rw [same, Option.some.inj found]
  · rfl

theorem locators_eq (h : DifferIn name source source' document document')
    (tags : List.Forall₂ TagSpan.Interchangeable (scan source).tags (scan source').tags)
    (payload : Payload) : document'.locators payload = document.locators payload := by
  rw [Document.locators, Document.locators, Document.tags, Document.tags, List.filterMap_flatMap,
    List.filterMap_flatMap]
  exact h.flatMap_templates (TagSpan.filterMap_eq_of_interchangeable
    (fun _ _ same => same.locator?_eq payload) tags)

theorem map_unspelled_warnings (h : DifferIn name source source' document document')
    (tags : List.Forall₂ TagSpan.Interchangeable (scan source).tags (scan source').tags)
    (payload : Payload) (fetch : Fetcher) :
    ((document'.warnings payload fetch).filter fun warning => !warning.reason.isMalformed).map
        Warning.unspelled =
      ((document.warnings payload fetch).filter fun warning => !warning.reason.isMalformed).map
        Warning.unspelled := by
  have spans (detail : String) : (!(WarningReason.malformed detail).isMalformed) = false := rfl
  have told (reason? : TagFate → Option WarningReason) :
      (document'.templates.flatMap fun template => (scan template.2).tags.filterMap fun tag =>
          ((reason? (tag.fate payload fetch)).map (tag.warning template.1)).map Warning.unspelled) =
        document.templates.flatMap fun template => (scan template.2).tags.filterMap fun tag =>
          ((reason? (tag.fate payload fetch)).map (tag.warning template.1)).map
            Warning.unspelled := by
    refine h.flatMap_templates (TagSpan.filterMap_eq_of_interchangeable (fun tag tag' same => ?_) tags)
    rw [same.fate_eq, Option.map_map, Option.map_map]
    exact Option.map_congr fun reason _ => same.unspelled_warning name reason
  simp only [Document.filter_warnings _ payload fetch fun reason => !reason.isMalformed, spans,
    List.filter_false, List.map_nil, List.nil_append, List.map_append, List.map_flatMap,
    List.map_filterMap]
  exact congrArg₂ (· ++ ·) (told fun fate => fate.bindingReason?.filter fun reason =>
    !reason.isMalformed) (told fun fate => fate.fetchReason?.filter fun reason => !reason.isMalformed)

theorem exists_draft (h : DifferIn name source source' document document') {draft : Draft}
    (made : Draft.make document payload options = .ok draft) :
    ∃ draft', Draft.make document' payload options = .ok draft' := by
  obtain ⟨output', filled'⟩ := exists_filledDocument_of_differIn h
    (filledDocument_eq_ok_iff.mpr ⟨draft, made, rfl⟩ :
      filledDocument document payload options (fun _ => .ok ByteArray.empty) = .ok _)
  obtain ⟨draft', made', -⟩ := filledDocument_eq_ok_iff.mp filled'
  exact ⟨draft', made'⟩

theorem fetchedLocators_eq (h : DifferIn name source source' document document')
    (tags : List.Forall₂ TagSpan.Interchangeable (scan source).tags (scan source').tags)
    (payload : Payload) (options : RenderOptions) :
    fetchedLocators document' payload options = fetchedLocators document payload options := by
  cases made : Draft.make document payload options with
  | ok draft =>
      obtain ⟨draft', made'⟩ := h.exists_draft made
      rw [fetchedLocators_of_make made, fetchedLocators_of_make made', Draft.locators_of_make made,
        Draft.locators_of_make made', h.locators_eq tags payload]
  | error error =>
      cases made' : Draft.make document' payload options with
      | error error' => rw [fetchedLocators_of_error made, fetchedLocators_of_error made']
      | ok draft' =>
          obtain ⟨draft, impossible⟩ := h.symm.exists_draft made'
          rw [made] at impossible
          cases impossible

/-- Of opened templates, either both have a lenient report or none has. -/
theorem exists_report (h : DifferIn name source source' document document')
    {bytes' : ByteArray} (opened' : Document.read bytes' = .ok document')
    (lenient : options.strict = false)
    (rendered : ∃ report, render document payload options fetch = .ok report) :
    ∃ report, render document' payload options fetch = .ok report := by
  obtain ⟨report, rendered⟩ := rendered
  obtain ⟨draft, made, -⟩ := exists_draft_of_render rendered
  obtain ⟨draft', made'⟩ := h.exists_draft made
  exact exists_report_of_make (Document.stored_of_read opened') lenient made' fetch

end Document.DifferIn

theorem renumberedIn_of_differIn (recognised : Recognised before kind body after tag)
    (recognised' : Recognised before kind body' after tag') (same : tag.Interchangeable tag')
    (differ : Document.DifferIn name (before ++ kind.enclose body ++ after)
      (before ++ kind.enclose body' ++ after) document document') {output output' : Document}
    (filled : filledDocument document payload options fetch = .ok output)
    (filled' : filledDocument document' payload options fetch = .ok output') :
    output.RenumberedIn document.templateNames output' := by
  have alike : ∀ plan plan', PartPlan.Retexted payload options.linebreaks fetch name
      (before ++ kind.enclose body ++ after) (before ++ kind.enclose body' ++ after) plan plan' →
      plan.Alike plan' := fun _ _ retexted =>
    (retexted.pieces_eq recognised recognised' same).elim PartPlan.alike_of_pieces
  obtain ⟨beside, placements, -, -, -, texts⟩ :=
    exists_filledAlike_of_differIn differ alike filled filled'
  refine ⟨beside, fun other listed => ?_⟩
  obtain ⟨plan, plan', retexted, rfl, block, block', text, text', -, renumbers, written, there,
    written', there'⟩ := texts other listed
  -- both texts are written from the same pieces
  rw [(retexted.pieces_eq recognised recognised' same).2] at written'
  exact ⟨text, text', there, there', written.renumbered written' renumbers⟩

theorem spelledAlike_of_render (recognised : Recognised before kind body after tag)
    (recognised' : Recognised before kind body' after tag') (same : tag.Interchangeable tag')
    (differ : Document.DifferIn name (before ++ kind.enclose body ++ after)
      (before ++ kind.enclose body' ++ after) document document')
    {report report' : Report} (rendered : render document payload options fetch = .ok report)
    (rendered' : render document' payload options fetch = .ok report') :
    SpelledAlike document document' payload options fetch report report' := by
  have tags := recognised.tags_respelled recognised' same
  obtain ⟨output, -, -, filled, packed, -⟩ := exists_placements_of_render rendered
  obtain ⟨output', -, -, filled', packed', -⟩ := exists_placements_of_render rendered'
  have renumbered := renumberedIn_of_differIn recognised recognised' same differ filled filled'
  constructor
  case statistics =>
    rw [statistics_of_render rendered, statistics_of_render rendered']
    refine RenderStatistics.ofPlans_of_pieces ?_
    exact (PartPlan.forall₂_retexted differ payload options.linebreaks fetch).imp fun _ _ retexted =>
      (retexted.pieces_eq recognised recognised' same).2
  case warnings =>
    have warnings : report.warnings = document.warnings payload fetch := warnings_of_render rendered
    have warnings' : report'.warnings = document'.warnings payload fetch :=
      warnings_of_render rendered'
    rw [warnings, warnings']
    exact differ.map_unspelled_warnings tags payload fetch
  case documents => exact ⟨output, output', filled, packed, filled', packed', renumbered⟩
  case opened =>
    intro reopenable reopenable'
    obtain ⟨again, reread⟩ := exists_reread_of_render rendered reopenable filled
    obtain ⟨again', reread'⟩ := exists_reread_of_render rendered' reopenable' filled'
    exact ⟨again, again', reread.opened, reread'.opened,
      renumbered.of_reread (fun _ => Document.isTemplate_of_mem_templateNames) reread reread'⟩

/-- The spelling of a tag never changes what is rendered. Spelled in another way, a recognised tag is
    recognised in its place, as one of the same kind with the same name and the same elements. A
    lenient render of the template with this spelling asks for the same pictures, has a report if the
    first one has, and the reports are alike, as they are packed and as they are opened again. -/
theorem render_respelled (recognised : Recognised before kind body after tag)
    (spelling : Respelling kind body body') :
    (∃ tag', Recognised before kind body' after tag' ∧ tag.Interchangeable tag') ∧
    ∀ name document document',
      Document.DifferIn name (before ++ kind.enclose body ++ after)
        (before ++ kind.enclose body' ++ after) document document' →
      ∀ payload options fetch, options.strict = false →
        fetchedLocators document' payload options = fetchedLocators document payload options ∧
        (∀ bytes bytes', Document.read bytes = .ok document → Document.read bytes' = .ok document' →
          ((∃ report, render document payload options fetch = .ok report) ↔
            ∃ report', render document' payload options fetch = .ok report')) ∧
        ∀ report report', render document payload options fetch = .ok report →
          render document' payload options fetch = .ok report' →
          SpelledAlike document document' payload options fetch report report' := by
  obtain ⟨tag', recognised', same⟩ := recognised.exists_respelled spelling
  refine ⟨⟨tag', recognised', same⟩, fun name document document' differ payload options fetch lenient =>
    ⟨?_, fun bytes bytes' opened opened' => ⟨?_, ?_⟩, fun report report' => ?_⟩⟩
  · exact differ.fetchedLocators_eq (recognised.tags_respelled recognised' same) payload options
  · exact differ.exists_report opened' lenient
  · exact differ.symm.exists_report opened lenient
  · exact spelledAlike_of_render recognised recognised' same differ

end Rendering

namespace Sample

/-- The name with blanks around it, a formatter that has a colon and a percent sign of its own, and a
    percent sign at the end. -/
def spelledLogo : Markup := " logo : a:b% %".toList

theorem respelling_logo : Respelling .image ['l', 'o', 'g', 'o'] spelledLogo where
  free := List.all_eq_true.mp (by decide)
  identifier := by decide +kernel
  elements := by decide +kernel

/-- The text with the tag in another spelling. -/
def respelledRuns : Markup :=
  beforeLogo ++ TagKind.image.enclose spelledLogo ++ afterLogo

def respelled : Document :=
  template respelledRuns

theorem exists_reopenable_respelled :
    ∃ report, render respelled payload {} fetch = .ok report ∧
      Reopenable respelled payload {} fetch report :=
  exists_reopenable_template (by decide) (by decide +kernel)

end Sample

/-- The report of the template with a formatter in its tag is opened as that of the one without. -/
theorem render_respelled_sample :
    fetchedLocators Sample.respelled Sample.payload {} =
        fetchedLocators Sample.contiguous Sample.payload {} ∧
      ∃ report report' again again',
        render Sample.contiguous Sample.payload {} Sample.fetch = .ok report ∧
        render Sample.respelled Sample.payload {} Sample.fetch = .ok report' ∧
        SpelledAlike Sample.contiguous Sample.respelled Sample.payload {} Sample.fetch report
          report' ∧
        Document.read report.bytes = .ok again ∧ Document.read report'.bytes = .ok again' ∧
        again.RenumberedIn Sample.contiguous.templateNames again' := by
  obtain ⟨-, documents⟩ := render_respelled Sample.recognised_logo Sample.respelling_logo
  obtain ⟨locators, -, reports⟩ :=
    documents _ _ _ (Sample.differIn_template Sample.contiguousRuns Sample.respelledRuns)
      Sample.payload {} Sample.fetch rfl
  obtain ⟨report, rendered, reopenable⟩ := Sample.exists_reopenable_contiguous
  obtain ⟨report', rendered', reopenable'⟩ := Sample.exists_reopenable_respelled
  have alike := reports report report' rendered rendered'
  obtain ⟨again, again', read, read', renumbered⟩ := alike.opened reopenable reopenable'
  exact ⟨locators, report, report', again, again', rendered, rendered', alike, read, read',
    renumbered⟩

end Stencil
