import Stencil.Proofs.Report.Strict

/-! # Warnings by their reasons

The warnings that a render ends with are those of its templates, whether they come with its report
or it is refused for them. What they tell apart by their reasons is told by the malformed spans, by
the bindings of the tags and by the answers to their fetches.

Main statement: `warnings_of_endsWith`.
-/

namespace Stencil

namespace WarningReason

/-- Whether the text of the warning is no tag. -/
def isMalformed : WarningReason → Bool
  | malformed _ => true
  | unresolved | notAnAsset | fetchFailed _ => false

/-- Whether a picture cannot be had. -/
def isFetchFailed : WarningReason → Bool
  | fetchFailed _ => true
  | unresolved | malformed _ | notAnAsset => false

end WarningReason

namespace Document

/-- The warnings of a document, those of its pictures last. -/
def warnings (document : Document) (payload : Payload) (fetch : Fetcher) : List Warning :=
  document.templates.flatMap (partWarnings payload fetch) ++
    document.templates.flatMap (pictureWarnings payload fetch)

variable (document : Document) (payload : Payload) (fetch fetch' : Fetcher)

/-- A warning is that of a malformed span, or that of a tag for its binding or its fetch. -/
theorem mem_warnings {warning : Warning} :
    warning ∈ document.warnings payload fetch ↔ ∃ template ∈ document.templates,
      (∃ span ∈ (scan template.2).malformed, span.warning template.1 = warning) ∨
        ∃ tag ∈ (scan template.2).tags, ∃ reason,
          ((tag.fate payload fetch).bindingReason? = some reason ∨
            (tag.fate payload fetch).fetchReason? = some reason) ∧
          tag.warning template.1 reason = warning := by
  simp only [warnings, partWarnings, pictureWarnings, List.mem_append, List.mem_flatMap,
    List.mem_map, List.mem_filterMap, Option.map_eq_some_iff]
  constructor
  · rintro (⟨template, there, invalid | ⟨tag, tagged, reason, told, same⟩⟩ |
      ⟨template, there, tag, tagged, reason, told, same⟩)
    · exact ⟨template, there, .inl invalid⟩
    · exact ⟨template, there, .inr ⟨tag, tagged, reason, .inl told, same⟩⟩
    · exact ⟨template, there, .inr ⟨tag, tagged, reason, .inr told, same⟩⟩
  · rintro ⟨template, there, invalid | ⟨tag, tagged, reason, told | told, same⟩⟩
    · exact .inl ⟨template, there, .inl invalid⟩
    · exact .inl ⟨template, there, .inr ⟨tag, tagged, reason, told, same⟩⟩
    · exact .inr ⟨template, there, tag, tagged, reason, told, same⟩

/-- The warnings of a document whose reasons are of some kind. -/
theorem filter_warnings (p : WarningReason → Bool) :
    (document.warnings payload fetch).filter (fun warning => p warning.reason) =
      (document.templates.flatMap fun template =>
        ((scan template.2).malformed.filter fun span => p (.malformed span.defect.message)).map
            (MalformedSpan.warning template.1) ++
          (scan template.2).tags.filterMap fun tag =>
            ((tag.fate payload fetch).bindingReason?.filter p).map (tag.warning template.1)) ++
      document.templates.flatMap fun template =>
        (scan template.2).tags.filterMap fun tag =>
          ((tag.fate payload fetch).fetchReason?.filter p).map (tag.warning template.1) := by
  rw [warnings, List.filter_append, List.filter_flatMap, List.filter_flatMap]
  congr 1
  · refine List.flatMap_congr fun template _ => ?_
    rw [partWarnings, List.filter_append, List.filter_map, List.filter_filterMap]
    congr 1
    refine List.filterMap_congr fun tag _ => ?_
    rw [Option.filter_map]
    rfl
  · refine List.flatMap_congr fun template _ => ?_
    rw [pictureWarnings, List.filter_filterMap]
    refine List.filterMap_congr fun tag _ => ?_
    rw [Option.filter_map]
    rfl

/-- The malformed spans have the warnings of this reason, and only they have. -/
theorem filter_isMalformed_warnings :
    (document.warnings payload fetch).filter (fun warning => warning.reason.isMalformed) =
      document.templates.flatMap fun template =>
        (scan template.2).malformed.map (MalformedSpan.warning template.1) := by
  have spans (detail : String) : (WarningReason.malformed detail).isMalformed = true := rfl
  have bindings (fate : TagFate) : fate.bindingReason?.filter WarningReason.isMalformed = none := by
    cases fate <;> rfl
  have fetches (fate : TagFate) : fate.fetchReason?.filter WarningReason.isMalformed = none := by
    cases fate <;> rfl
  rw [filter_warnings]
  simp [spans, bindings, fetches]

/-- The reasons of all fates but of those of fetches are known before anything is fetched. -/
theorem bindingReason?_fate (tag : TagSpan) :
    (tag.fate payload fetch).bindingReason? = (tag.fate payload fetch').bindingReason? := by
  unfold TagSpan.fate
  cases tag.tag.kind <;> cases payload.binding tag.tag.identifier <;> try rfl
  all_goals
    next locator =>
      dsimp only
      cases fetch locator <;> cases fetch' locator <;> rfl

/-- All warnings but those of pictures are the same, whatever is fetched. -/
theorem filter_not_isFetchFailed_warnings :
    (document.warnings payload fetch).filter (fun warning => !warning.reason.isFetchFailed) =
      document.templates.flatMap (partWarnings payload fetch') := by
  have spans (detail : String) : (!(WarningReason.malformed detail).isFetchFailed) = true := rfl
  have bindings (fate : TagFate) :
      fate.bindingReason?.filter (fun reason => !reason.isFetchFailed) = fate.bindingReason? := by
    cases fate <;> rfl
  have fetches (fate : TagFate) :
      fate.fetchReason?.filter (fun reason => !reason.isFetchFailed) = none := by
    cases fate <;> rfl
  rw [filter_warnings document payload fetch fun reason => !reason.isFetchFailed]
  refine (congrArg₂ (· ++ ·) ?_ ?_).trans (List.append_nil _)
  · simp only [spans, bindings, List.filter_true, bindingReason?_fate payload fetch fetch']
    rfl
  · simp [fetches]

/-- The warnings of pictures have the reason that a fetch failed, and only they have. -/
theorem filter_isFetchFailed_warnings :
    (document.warnings payload fetch).filter (fun warning => warning.reason.isFetchFailed) =
      document.templates.flatMap (pictureWarnings payload fetch) := by
  have spans (detail : String) : (WarningReason.malformed detail).isFetchFailed = false := rfl
  have bindings (fate : TagFate) :
      fate.bindingReason?.filter WarningReason.isFetchFailed = none := by
    cases fate <;> rfl
  have fetches (fate : TagFate) :
      fate.fetchReason?.filter WarningReason.isFetchFailed = fate.fetchReason? := by
    cases fate <;> rfl
  rw [filter_warnings]
  refine (congrArg₂ (· ++ ·) ?_ ?_).trans (List.nil_append _)
  · simp [spans, bindings]
  · simp only [fetches]
    rfl

/-- The tags that are bound to nothing have the warnings of this reason, and only they have. -/
theorem filter_unresolved_warnings :
    (document.warnings payload fetch).filter (fun warning => warning.reason = .unresolved) =
      document.templates.flatMap fun template =>
        ((scan template.2).tags.filter fun tag =>
          payload.binding tag.tag.identifier = .missing).map fun tag =>
            tag.warning template.1 .unresolved := by
  have spans (detail : String) : decide (WarningReason.malformed detail = .unresolved) = false := rfl
  have fetches (fate : TagFate) : fate.fetchReason?.filter (fun reason => reason = .unresolved) =
      none := by
    cases fate <;> rfl
  have bindings (part : String) (tag : TagSpan) :
      ((tag.fate payload fetch).bindingReason?.filter fun reason => reason = .unresolved).map
          (tag.warning part) =
        if payload.binding tag.tag.identifier = .missing then some (tag.warning part .unresolved)
        else none := by
    unfold TagSpan.fate
    cases tag.tag.kind <;> cases payload.binding tag.tag.identifier <;> try rfl
    all_goals
      next locator =>
        dsimp only
        cases fetch locator <;> rfl
  rw [filter_warnings document payload fetch fun reason => reason = .unresolved]
  refine (congrArg₂ (· ++ ·) ?_ ?_).trans (List.append_nil _)
  · refine List.flatMap_congr fun template _ => ?_
    simp only [spans, List.filter_false, List.map_nil, List.nil_append, bindings]
    rw [← List.filterMap_eq_map, List.filterMap_filter]
    simp
  · simp [fetches]

end Document

/-- The warnings that a render ends with: those of its report, or those that it is refused for. -/
inductive EndsWith : Except RenderError Report → List Warning → Prop where
  | report (report : Report) : EndsWith (.ok report) report.warnings
  | refusal (warnings : List Warning) : EndsWith (.error (.unresolved warnings)) warnings

variable {document : Document} {payload : Payload} {options : RenderOptions} {fetch : Fetcher}

namespace Draft

variable {draft : Draft}

theorem isOfPart_of_planParts {linebreaks : Bool} {earlier : List Warning} {names : List String}
    {error : RenderError}
    (failed : planParts document payload linebreaks earlier names = .error error) :
    error.isOfPart = true := by
  induction names generalizing earlier with
  | nil => cases failed
  | cons name rest ih =>
      rw [planParts] at failed
      split at failed
      · cases failed
        rfl
      · next source _ =>
        cases later : planParts document payload linebreaks
            (earlier ++ (PartPlan.make payload linebreaks name source).warnings) rest with
        | error error' =>
            simp only [later] at failed
            cases failed
            exact ih later
        | ok plans =>
            simp only [later] at failed
            cases failed

/-- What cannot be planned has a part that is not there or cannot be read. -/
theorem isOfPart_of_make {error : RenderError}
    (failed : Draft.make document payload options = .error error) : error.isOfPart = true := by
  unfold Draft.make at failed
  cases missing : PartName.required.find? fun name => !document.contains name with
  | some part =>
      rw [Document.require, missing] at failed
      cases failed
      rfl
  | none =>
      rw [Document.require, missing] at failed
      cases types : document.markup? PartName.contentTypes with
      | none =>
          rw [types] at failed
          cases failed
          rfl
      | some contentTypes =>
          rw [types] at failed
          cases plans : planParts document payload options.linebreaks [] document.templateNames with
          | error error' =>
              simp only [plans] at failed
              cases failed
              exact isOfPart_of_planParts plans
          | ok plans' =>
              simp only [plans] at failed
              cases failed

theorem warnings_of_endsWith {outcomes : List FetchOutcome} {warnings : List Warning}
    (ends : EndsWith (draft.complete outcomes) warnings) : warnings = draft.warnings outcomes := by
  generalize completed : draft.complete outcomes = result at ends
  cases ends with
  | report report => exact warnings_of_complete completed
  | refusal =>
      rw [complete] at completed
      split at completed
      · cases completed
        rfl
      · simp only at completed
        split at completed
        · cases completed
        · cases completed

end Draft

/-- Whether a render is refused or not, the warnings that it ends with are those of its templates. -/
theorem warnings_of_endsWith {warnings : List Warning}
    (ends : EndsWith (render document payload options fetch) warnings) :
    warnings = document.warnings payload fetch := by
  cases made : Draft.make document payload options with
  | error error =>
      have ofPart := Draft.isOfPart_of_make made
      rw [render_eq_error made] at ends
      cases ends
      cases ofPart
  | ok draft =>
      rw [render_eq_complete made] at ends
      rw [Draft.warnings_of_endsWith ends, Draft.warnings_of_make made]
      rfl

/-- The number of tags that a render finds is that of its templates. -/
theorem tagsFound_of_render {report : Report}
    (rendered : render document payload options fetch = .ok report) :
    report.statistics.tagsFound = document.tags.length := by
  rw [statistics_of_render rendered]
  exact document.sum_tagCount_plans payload options.linebreaks fetch

end Stencil
