import Mathlib.Algebra.GroupWithZero.Nat
import Stencil.Proofs.Report.Draft
import Stencil.Proofs.Scan.Order

/-! # Accounts of reports

Each tag of a template has one fate: it is filled, or one warning tells why it is not. The numbers
and the warnings of a report are read off the fates of the tags and the malformed spans, part by
part.

Main statement: `render_accounts`.
-/

namespace Stencil

/-- What becomes of a tag. -/
inductive TagFate where
  /-- A text tag has a value. -/
  | substituted
  /-- An image tag has a picture. -/
  | embedded
  /-- The tag is bound to nothing. -/
  | unresolved
  /-- An image tag is bound to a value without a locator. -/
  | notAnAsset
  /-- The picture of an image tag cannot be had. -/
  | unfetched (failure : FetchFailure)
  deriving DecidableEq

namespace TagFate

/-- Why the binding of a tag is of no use. -/
def bindingReason? : TagFate → Option WarningReason
  | unresolved => some .unresolved
  | notAnAsset => some .notAnAsset
  | substituted | embedded | unfetched _ => none

/-- Why the picture of a tag is missing. -/
def fetchReason? : TagFate → Option WarningReason
  | unfetched failure => some (.fetchFailed failure.message)
  | substituted | embedded | unresolved | notAnAsset => none

end TagFate

namespace TagSpan

/-- What becomes of a tag, given what it is bound to and what its own locator is answered with. -/
def fate (payload : Payload) (fetch : Fetcher) (tag : TagSpan) : TagFate :=
  match tag.tag.kind, payload.binding tag.tag.identifier with
  | _, .missing => .unresolved
  | .text, .scalar _ | .text, .asset _ | .text, .structured _ => .substituted
  | .image, .structured _ => .notAnAsset
  | .image, .scalar locator | .image, .asset locator =>
    match fetch locator with
    | .ok _ => .embedded
    | .error failure => .unfetched failure

/-- The warning of a tag in a part. -/
def warning (part : String) (tag : TagSpan) (reason : WarningReason) : Warning :=
  { identifier := tag.tag.identifier, raw := String.ofList tag.text, part, reason }

/-- The fetch that an image tag of a part asks for. -/
def request (part : String) (tag : TagSpan) (locator : String) : PictureRequest :=
  { identifier := tag.tag.identifier, raw := String.ofList tag.text, part, locator }

end TagSpan

/-- The warning of a malformed span in a part. -/
def MalformedSpan.warning (part : String) (span : MalformedSpan) : Warning :=
  { identifier := (Tag.parse span.text).identifier, raw := String.ofList span.text, part
    reason := .malformed span.defect.message }

/-- The parts with tags and their markup, in the order of the container. -/
def Document.templates (document : Document) : List (String × Markup) :=
  document.templateNames.filterMap fun name => (document.markup? name).map fun source =>
    (name, source)

namespace Document

theorem markup?_of_mem_templates {document : Document} {template : String × Markup}
    (mem : template ∈ document.templates) : document.markup? template.1 = some template.2 := by
  obtain ⟨name, -, found⟩ := List.mem_filterMap.mp mem
  obtain ⟨source, there, rfl⟩ := Option.map_eq_some_iff.mp found
  exact there

/-- All tags of the templates, part by part. -/
def tags (document : Document) : List TagSpan :=
  document.templates.flatMap fun template => (scan template.2).tags

/-- All malformed spans of the templates, part by part. -/
def malformed (document : Document) : List MalformedSpan :=
  document.templates.flatMap fun template => (scan template.2).malformed

/-- The warnings of a part, those of its pictures apart. -/
def partWarnings (payload : Payload) (fetch : Fetcher) (template : String × Markup) :
    List Warning :=
  (scan template.2).malformed.map (MalformedSpan.warning template.1) ++
    (scan template.2).tags.filterMap fun tag =>
      (tag.fate payload fetch).bindingReason?.map (tag.warning template.1)

/-- The warnings of the pictures of a part. -/
def pictureWarnings (payload : Payload) (fetch : Fetcher) (template : String × Markup) :
    List Warning :=
  (scan template.2).tags.filterMap fun tag =>
    (tag.fate payload fetch).fetchReason?.map (tag.warning template.1)

end Document

/-- The numbers and the warnings of a report tell of every tag and every malformed span once. -/
structure Accounted (document : Document) (payload : Payload) (fetch : Fetcher) (report : Report) :
    Prop where
  /-- No part with tags is passed over. -/
  complete : document.templates.map Prod.fst = document.templateNames
  found : report.statistics.tagsFound = document.tags.length
  substituted : report.statistics.textSubstituted =
    document.tags.countP fun tag => tag.fate payload fetch = .substituted
  embedded : report.statistics.imagesEmbedded =
    document.tags.countP fun tag => tag.fate payload fetch = .embedded
  warnings : report.warnings =
    document.templates.flatMap (Document.partWarnings payload fetch) ++
      document.templates.flatMap (Document.pictureWarnings payload fetch)
  balanced : report.statistics.tagsFound + document.malformed.length =
    report.statistics.textSubstituted + report.statistics.imagesEmbedded + report.warnings.length
  ordered : ∀ template ∈ document.templates,
    ((scan template.2).malformed.map MalformedSpan.start).Pairwise (· < ·) ∧
      ((scan template.2).tags.map TagSpan.start).Pairwise (· < ·)

section Planning

variable {document : Document} {payload : Payload} {options : RenderOptions} {draft : Draft}
  {fetch : Fetcher}

/-- A draft plans the templates of its document, each from its own markup. -/
theorem Draft.plans_of_make (made : Draft.make document payload options = .ok draft) :
    document.templates.map Prod.fst = document.templateNames ∧
      draft.plans = document.templates.map fun template =>
        PartPlan.make payload options.linebreaks template.1 template.2 := by
  obtain ⟨-, -, names, planned⟩ := Draft.of_make made
  have templates : document.templates = draft.plans.map fun plan => (plan.name, plan.source) := by
    rw [Document.templates, ← names, List.filterMap_map, ← List.filterMap_eq_map]
    refine List.filterMap_congr fun plan mem => ?_
    rw [Function.comp_apply, (planned plan mem).1]
    rfl
  rw [templates, List.map_map, List.map_map]
  refine ⟨names, ?_⟩
  conv_lhs => rw [← List.map_id draft.plans]
  exact List.map_congr_left fun plan mem => (planned plan mem).2

/-- What is gathered from the pieces of a scan comes from its tags. -/
theorem PartPlan.filterMap_pieceOf {α : Type} {f : Piece PictureRequest → Option α}
    (literal : ∀ text, f (.literal text) = none) (name : String) (linebreaks : Bool)
    (segments : List Segment) :
    (segments.map (pieceOf name payload linebreaks)).filterMap f =
      (segments.filterMap Segment.tag?).filterMap fun tag =>
        f (pieceOfTag name payload linebreaks tag) := by
  rw [List.filterMap_map, List.filterMap_filterMap]
  refine List.filterMap_congr fun segment _ => ?_
  cases segment with
  | literal text => exact literal text
  | tag tag => rfl

/-- What is counted among the pieces of a scan is found among its tags. -/
theorem PartPlan.countP_pieceOf {p : Piece PictureRequest → Bool}
    (literal : ∀ text, p (.literal text) = false) (name : String) (linebreaks : Bool)
    (segments : List Segment) :
    (segments.map (pieceOf name payload linebreaks)).countP p =
      (segments.filterMap Segment.tag?).countP fun tag =>
        p (pieceOfTag name payload linebreaks tag) := by
  rw [List.countP_map, List.countP_filterMap]
  refine List.countP_congr fun segment _ => ?_
  cases segment with
  | literal text => simp [pieceOf, Segment.tag?, literal]
  | tag tag => rfl

/-- The piece of a tag, the warning of its binding and its fate, as they go together. -/
inductive Fated (part : String) (fetch : Fetcher) (tag : TagSpan) :
    Piece PictureRequest → Option Warning → TagFate → Prop where
  | substituted (value : Markup) :
      Fated part fetch tag (.text (some value) tag.markup) none .substituted
  | unbound : Fated part fetch tag (.text none tag.markup)
      (some (tag.warning part .unresolved)) .unresolved
  | unresolved : Fated part fetch tag (.image none tag.markup)
      (some (tag.warning part .unresolved)) .unresolved
  | notAnAsset : Fated part fetch tag (.image none tag.markup)
      (some (tag.warning part .notAnAsset)) .notAnAsset
  | embedded {locator : String} {picture : ByteArray} (answer : fetch locator = .ok picture) :
      Fated part fetch tag (.image (some (tag.request part locator)) tag.markup) none .embedded
  | unfetched {locator : String} {failure : FetchFailure}
      (answer : fetch locator = .error failure) :
      Fated part fetch tag (.image (some (tag.request part locator)) tag.markup) none
        (.unfetched failure)

namespace Fated

theorem pieceOfTag (fetch : Fetcher) (part : String) (linebreaks : Bool) (tag : TagSpan) :
    Fated part fetch tag (PartPlan.pieceOfTag part payload linebreaks tag)
      (PartPlan.bindingWarning? part payload tag) (tag.fate payload fetch) := by
  unfold PartPlan.pieceOfTag PartPlan.bindingWarning? TagSpan.fate
  cases tag.tag.kind with
  | text =>
      cases payload.binding tag.tag.identifier with
      | missing => exact .unbound
      | scalar | asset | structured => exact .substituted _
  | image =>
      cases payload.binding tag.tag.identifier with
      | missing => exact .unresolved
      | structured => exact .notAnAsset
      | scalar locator | asset locator =>
          cases answer : fetch locator with
          | ok picture =>
              simp only [answer]
              exact .embedded answer
          | error failure =>
              simp only [answer]
              exact .unfetched answer

variable {part : String} {tag : TagSpan} {piece : Piece PictureRequest} {warning : Option Warning}
  {fate : TagFate}

theorem isTag (h : Fated part fetch tag piece warning fate) : piece.isTag = true := by
  cases h <;> rfl

theorem isSubstituted (h : Fated part fetch tag piece warning fate) :
    piece.isSubstituted = decide (fate = .substituted) := by
  cases h <;> rfl

theorem isSome_picture? (h : Fated part fetch tag piece warning fate) :
    (piece.fetched fetch).picture?.isSome = decide (fate = .embedded) := by
  cases h with
  | substituted | unbound | unresolved | notAnAsset => rfl
  | embedded answer | unfetched answer =>
      simp [Piece.fetched, Piece.picture?, TagSpan.request, answer, Except.toOption]

theorem warning_eq (h : Fated part fetch tag piece warning fate) :
    warning = fate.bindingReason?.map (tag.warning part) := by
  cases h <;> rfl

theorem warning?_picture? (h : Fated part fetch tag piece warning fate) :
    (piece.picture?.bind fun request => request.warning? (fetch request.locator)) =
      fate.fetchReason?.map (tag.warning part) := by
  cases h with
  | substituted | unbound | unresolved | notAnAsset => rfl
  | embedded answer | unfetched answer =>
      simp [Piece.picture?, PictureRequest.warning?, TagSpan.request, answer, TagFate.fetchReason?,
        TagSpan.warning]

end Fated

@[simp] theorem Piece.isTag_fetched (fetch : Fetcher) (piece : Piece PictureRequest) :
    (piece.fetched fetch).isTag = piece.isTag := by
  cases piece <;> rfl

@[simp] theorem Piece.isSubstituted_fetched (fetch : Fetcher) (piece : Piece PictureRequest) :
    (piece.fetched fetch).isSubstituted = piece.isSubstituted := by
  cases piece <;> rfl

namespace PartPlan

/-- What a planned part tells of its tags and malformed spans. -/
theorem warnings_make (fetch : Fetcher) (linebreaks : Bool) (template : String × Markup) :
    (make payload linebreaks template.1 template.2).warnings =
      Document.partWarnings payload fetch template := by
  refine congrArg ((scan template.2).malformed.map (malformedWarning template.1) ++ ·) ?_
  exact List.filterMap_congr fun tag _ => (Fated.pieceOfTag fetch template.1 linebreaks tag).warning_eq

theorem pictureWarnings_make (fetch : Fetcher) (linebreaks : Bool) (template : String × Markup) :
    ((make payload linebreaks template.1 template.2).pictures.filterMap fun request =>
        request.warning? (fetch request.locator)) =
      Document.pictureWarnings payload fetch template := by
  rw [pictures, List.filterMap_filterMap, make, filterMap_pieceOf fun _ => rfl]
  exact List.filterMap_congr fun tag _ =>
    (Fated.pieceOfTag fetch template.1 linebreaks tag).warning?_picture?

variable (payload fetch) (linebreaks : Bool) (name : String) (source : Markup)

theorem tagCount_fetched_make :
    ((make payload linebreaks name source).fetched fetch).tagCount = (scan source).tags.length := by
  rw [tagCount, fetched, make, List.countP_map, countP_pieceOf fun _ => rfl]
  refine List.countP_eq_length.mpr fun tag _ => ?_
  rw [Function.comp_apply, Piece.isTag_fetched]
  exact (Fated.pieceOfTag fetch name linebreaks tag).isTag

theorem substitutedCount_fetched_make :
    ((make payload linebreaks name source).fetched fetch).substitutedCount =
      (scan source).tags.countP fun tag => tag.fate payload fetch = .substituted := by
  rw [substitutedCount, fetched, make, List.countP_map, countP_pieceOf fun _ => rfl]
  refine List.countP_congr fun tag _ => ?_
  rw [Function.comp_apply, Piece.isSubstituted_fetched,
    (Fated.pieceOfTag fetch name linebreaks tag).isSubstituted]

theorem length_pictures_fetched_make :
    ((make payload linebreaks name source).fetched fetch).pictures.length =
      (scan source).tags.countP fun tag => tag.fate payload fetch = .embedded := by
  rw [pictures, fetched, make, List.length_filterMap_eq_countP, List.countP_map,
    countP_pieceOf fun _ => rfl]
  refine List.countP_congr fun tag _ => ?_
  rw [Function.comp_apply, (Fated.pieceOfTag fetch name linebreaks tag).isSome_picture?]

end PartPlan

namespace Document

/-- The plans of the templates, with the pictures that are fetched for them. -/
def plans (document : Document) (payload : Payload) (linebreaks : Bool) (fetch : Fetcher) :
    List (PartPlan ByteArray) :=
  document.templates.map fun template =>
    (PartPlan.make payload linebreaks template.1 template.2).fetched fetch

variable (document : Document) (payload : Payload) (linebreaks : Bool) (fetch : Fetcher)

theorem sum_tagCount_plans :
    ((document.plans payload linebreaks fetch).map PartPlan.tagCount).sum =
      document.tags.length := by
  rw [plans, List.map_map, tags, List.length_flatMap]
  refine congrArg List.sum (List.map_congr_left fun template _ => ?_)
  exact PartPlan.tagCount_fetched_make payload fetch linebreaks template.1 template.2

theorem sum_substitutedCount_plans :
    ((document.plans payload linebreaks fetch).map PartPlan.substitutedCount).sum =
      document.tags.countP fun tag => tag.fate payload fetch = .substituted := by
  rw [plans, List.map_map, tags, List.countP_flatMap]
  refine congrArg List.sum (List.map_congr_left fun template _ => ?_)
  exact PartPlan.substitutedCount_fetched_make payload fetch linebreaks template.1 template.2

theorem length_pictures_plans :
    ((document.plans payload linebreaks fetch).flatMap PartPlan.pictures).length =
      document.tags.countP fun tag => tag.fate payload fetch = .embedded := by
  rw [List.length_flatMap, plans, List.map_map, tags, List.countP_flatMap]
  refine congrArg List.sum (List.map_congr_left fun template _ => ?_)
  exact PartPlan.length_pictures_fetched_make payload fetch linebreaks template.1 template.2

end Document

end Planning

/-- A failure is reported of the request whose own locator it answers. -/
theorem PictureRequest.warnings_fetched (fetch : Fetcher) (requests : List PictureRequest) :
    warnings requests (requests.map fun request => fetch request.locator) =
      requests.filterMap fun request => request.warning? (fetch request.locator) := by
  rw [warnings]
  induction requests with
  | nil => rfl
  | cons request rest ih => rw [List.map_cons, List.zip_cons_cons, List.filterMap_cons, ih,
      List.filterMap_cons]

/-- Every tag is counted by its fate or warned of. -/
theorem TagSpan.length_eq_fates (payload : Payload) (fetch : Fetcher) (part : String)
    (tags : List TagSpan) :
    tags.length = tags.countP (fun tag => tag.fate payload fetch = .substituted) +
      tags.countP (fun tag => tag.fate payload fetch = .embedded) +
      (tags.filterMap fun tag =>
        (tag.fate payload fetch).bindingReason?.map (tag.warning part)).length +
      (tags.filterMap fun tag =>
        (tag.fate payload fetch).fetchReason?.map (tag.warning part)).length := by
  induction tags with
  | nil => rfl
  | cons tag rest ih =>
      simp only [List.length_cons, List.countP_cons, List.filterMap_cons, ih]
      cases tag.fate payload fetch with
      | substituted | embedded | unresolved | notAnAsset | unfetched =>
          simp [TagFate.bindingReason?, TagFate.fetchReason?]
          omega

section Rendering

variable {document : Document} {payload : Payload} {options : RenderOptions} {fetch : Fetcher}
  {report : Report}

/-- The numbers of a document come out even. -/
theorem Document.length_tags_add_length_malformed (document : Document) (payload : Payload)
    (fetch : Fetcher) :
    document.tags.length + document.malformed.length =
      document.tags.countP (fun tag => tag.fate payload fetch = .substituted) +
        document.tags.countP (fun tag => tag.fate payload fetch = .embedded) +
        (document.templates.flatMap (partWarnings payload fetch)).length +
        (document.templates.flatMap (pictureWarnings payload fetch)).length := by
  rw [tags, malformed]
  induction document.templates with
  | nil => rfl
  | cons template rest ih =>
      have here := TagSpan.length_eq_fates payload fetch template.1 (scan template.2).tags
      simp only [List.flatMap_cons, List.length_append, List.countP_append, partWarnings,
        pictureWarnings, List.length_map]
      omega

/-- Supplied with what its own locators are answered with, a draft has the fetched plans of its
    templates. -/
theorem Draft.supply_of_make {draft : Draft}
    (made : Draft.make document payload options = .ok draft) (fetch : Fetcher) :
    PartPlan.supply draft.plans (draft.locators.map fetch) =
      document.plans payload options.linebreaks fetch := by
  obtain ⟨-, plans⟩ := Draft.plans_of_make made
  rw [Draft.locators, Draft.requests, List.map_map]
  refine (PartPlan.supply_fetched fetch draft.plans).trans ?_
  rw [plans, List.map_map]
  rfl

/-- The numbers of a report are those of the fetched plans of its templates. -/
theorem statistics_of_render (rendered : render document payload options fetch = .ok report) :
    report.statistics =
      RenderStatistics.ofPlans (document.plans payload options.linebreaks fetch) := by
  obtain ⟨draft, made, completed⟩ := exists_draft_of_render rendered
  obtain ⟨-, statistics⟩ := Draft.of_complete completed
  rw [statistics, Draft.supply_of_make made]

/-- The warnings of a draft are those of its templates: first the ones that are known before
    anything is fetched, then the ones of pictures. -/
theorem Draft.warnings_of_make {draft : Draft}
    (made : Draft.make document payload options = .ok draft) (fetch : Fetcher) :
    draft.warnings (draft.locators.map fetch) =
      document.templates.flatMap (Document.partWarnings payload fetch) ++
        document.templates.flatMap (Document.pictureWarnings payload fetch) := by
  obtain ⟨-, plans⟩ := Draft.plans_of_make made
  have located : draft.locators.map fetch =
      draft.requests.map fun request => fetch request.locator := List.map_map
  rw [Draft.warnings, located, PictureRequest.warnings_fetched, Draft.requests,
    List.filterMap_flatMap, plans, List.flatMap_map, List.flatMap_map]
  congr 1
  · exact List.flatMap_congr fun template _ =>
      PartPlan.warnings_make fetch options.linebreaks template
  · exact List.flatMap_congr fun template _ =>
      PartPlan.pictureWarnings_make fetch options.linebreaks template

/-- The warnings of a report are those of its templates. -/
theorem warnings_of_render (rendered : render document payload options fetch = .ok report) :
    report.warnings =
      document.templates.flatMap (Document.partWarnings payload fetch) ++
        document.templates.flatMap (Document.pictureWarnings payload fetch) := by
  obtain ⟨draft, made, completed⟩ := exists_draft_of_render rendered
  rw [Draft.warnings_of_complete completed, Draft.warnings_of_make made]

/-- Every tag and every malformed span of a report's template is accounted for once. -/
theorem render_accounts (rendered : render document payload options fetch = .ok report) :
    Accounted document payload fetch report := by
  obtain ⟨draft, made, -⟩ := exists_draft_of_render rendered
  have statistics := statistics_of_render rendered
  have warnings := warnings_of_render rendered
  have found : report.statistics.tagsFound = document.tags.length :=
    statistics ▸ document.sum_tagCount_plans payload options.linebreaks fetch
  have substituted : report.statistics.textSubstituted =
      document.tags.countP fun tag => tag.fate payload fetch = .substituted :=
    statistics ▸ document.sum_substitutedCount_plans payload options.linebreaks fetch
  have embedded : report.statistics.imagesEmbedded =
      document.tags.countP fun tag => tag.fate payload fetch = .embedded :=
    statistics ▸ document.length_pictures_plans payload options.linebreaks fetch
  refine ⟨(Draft.plans_of_make made).1, found, substituted, embedded, warnings, ?_,
    fun template _ => ?_⟩
  · rw [found, substituted, embedded, warnings, List.length_append,
      Document.length_tags_add_length_malformed document payload fetch, Nat.add_assoc]
  · exact ⟨Scan.malformed_pairwise template.2, Scan.tags_pairwise template.2⟩

end Rendering

namespace Sample

/-- Tags of every fate, a span that names no identifier and one that is not closed. -/
def mixed : Document :=
  { document with
    parts :=
      [types, links,
        { body with
          content := .markup
            "<w:t>{{name}} {{first name}} {%logo} \x7b\x7b\x7d, {{none}} {%seals%} {%gone%}</w:t>".toList }] }

def mixedPayload : Payload :=
  { fields := ("seals", .object []) :: payload.fields }

theorem exists_mixed_report : ∃ report, render mixed mixedPayload {} fetch = .ok report :=
  Stencil.exists_report rfl (by decide +kernel)

end Sample

/-- The tags of a template with tags of every fate are accounted for. -/
theorem render_accounts_mixed :
    Sample.mixed.tags.map (TagSpan.fate Sample.mixedPayload Sample.fetch) =
        [.substituted, .embedded, .unresolved, .notAnAsset, .unfetched (.status "lost" notFound)] ∧
      Sample.mixed.malformed.length = 2 ∧
      ∃ report, render Sample.mixed Sample.mixedPayload {} Sample.fetch = .ok report ∧
        Accounted Sample.mixed Sample.mixedPayload Sample.fetch report := by
  obtain ⟨report, rendered⟩ := Sample.exists_mixed_report
  refine ⟨by decide +kernel, ?_, report, rendered, render_accounts rendered⟩
  simp only [Document.malformed, List.length_flatMap, scan, List.length_mergeSort]
  decide +kernel

end Stencil
