import Stencil.Proofs.Report.Account

/-! # Strict reports

A strict report is the lenient one when nothing is to be warned of, and is refused with exactly
the warnings of the lenient one otherwise. Both ask for the same pictures.

Main statement: `render_strict_tests_warnings`.
-/

namespace Stencil

/-- The options with another answer to warnings. -/
def RenderOptions.withStrict (options : RenderOptions) (strict : Bool) : RenderOptions :=
  { options with strict }

/-- Whether the error is that of a part which is not there or cannot be read. -/
def RenderError.isOfPart : RenderError → Bool
  | package (.missingPart _) | package (.unreadablePart _ _) | unreadablePart _ _ => true
  | package _ | unresolved _ | invalidPayload _ | malformedPayload _ => false

variable {document : Document} {payload : Payload} {options : RenderOptions} {fetch : Fetcher}

namespace Embedding

/-- What is written does not depend on the answer to warnings. -/
theorem writePieces_withStrict (strict : Bool) (part : String) (pieces : List (Piece ByteArray))
    (embedding : Embedding) :
    writePieces (options.withStrict strict) part pieces embedding =
      writePieces options part pieces embedding := by
  induction pieces generalizing embedding with
  | nil => rfl
  | cons piece rest ih =>
      have first : writePiece (options.withStrict strict) part piece embedding =
          writePiece options part piece embedding := by
        cases piece with
        | literal | text => rfl
        | image picture elements => cases picture <;> rfl
      simp only [writePieces, first, ih]

theorem writePart_withStrict (strict : Bool) :
    writePart (options.withStrict strict) = writePart options := by
  funext embedding plan
  rw [writePart, writePart, writePieces_withStrict]

end Embedding

namespace Draft

/-- The draft with another answer to warnings. -/
def withStrict (draft : Draft) (strict : Bool) : Draft :=
  { draft with options := draft.options.withStrict strict }

/-- A draft is planned in the same way, whatever the answer to warnings is. -/
theorem make_withStrict (strict : Bool) :
    Draft.make document payload (options.withStrict strict) =
      (Draft.make document payload options).map fun draft => draft.withStrict strict := by
  unfold Draft.make
  cases document.require PartName.required with
  | error error => rfl
  | ok _ =>
      cases document.markup? PartName.contentTypes with
      | none => rfl
      | some contentTypes =>
          change (planParts document payload options.linebreaks [] document.templateNames >>= _) = _
          cases planParts document payload options.linebreaks [] document.templateNames <;> rfl

theorem warnings_withStrict (draft : Draft) (strict : Bool) (outcomes : List FetchOutcome) :
    (draft.withStrict strict).warnings outcomes = draft.warnings outcomes := rfl

theorem fill_withStrict (draft : Draft) (strict : Bool) (plans : List (PartPlan ByteArray)) :
    (draft.withStrict strict).fill plans = draft.fill plans := by
  change (plans.foldl (Embedding.writePart (draft.options.withStrict strict)) _).finish = _
  rw [Embedding.writePart_withStrict]
  rfl

/-- What cannot be completed cannot be packed, or is refused for its warnings. -/
theorem isOfPart_of_complete {draft : Draft} {outcomes : List FetchOutcome} {error : RenderError}
    (failed : draft.complete outcomes = .error error) : error.isOfPart = false := by
  rw [complete] at failed
  split at failed
  · cases failed
    rfl
  · simp only [Document.pack] at failed
    split at failed
    · cases failed
    · next unpacked =>
      cases failed
      split at unpacked
      · split at unpacked
        · cases unpacked
        · cases unpacked
          rfl
      · cases unpacked

/-- A strict draft is tested for warnings and then completed as a lenient one. -/
theorem complete_strict (draft : Draft) (outcomes : List FetchOutcome) :
    (draft.withStrict true).complete outcomes =
      if draft.warnings outcomes = [] then (draft.withStrict false).complete outcomes
      else .error (.unresolved (draft.warnings outcomes)) := by
  by_cases unwarned : draft.warnings outcomes = []
  · simp only [complete, warnings_withStrict, unwarned, List.isEmpty_nil, Bool.not_true, Bool.and_false,
      Bool.false_eq_true, if_false, if_true, fill_withStrict]
    rfl
  · have refused : ((draft.withStrict true).options.strict &&
        !(draft.warnings outcomes).isEmpty) = true := by
      rwa [withStrict, RenderOptions.withStrict, Bool.true_and, Bool.not_eq_true',
        List.isEmpty_eq_false_iff]
    rw [if_neg unwarned, complete, warnings_withStrict, if_pos refused]

end Draft

/-- A strict report is a lenient one that is tested for warnings before it is packed. -/
theorem render_withStrict (strict : Bool) :
    render document payload (options.withStrict strict) fetch =
      (Draft.make document payload options).bind fun draft =>
        (draft.withStrict strict).complete (draft.locators.map fetch) := by
  unfold render
  rw [Draft.make_withStrict]
  cases Draft.make document payload options with
  | error error => rfl
  | ok draft => exact congrArg (draft.withStrict strict).complete (fetchAll_eq_map ..)

/-- Strict reports are lenient ones with a final test for warnings: a report without warnings is the
    same in either case, one with warnings is refused with exactly these, a part that is missing or
    cannot be read is the same error, and the same pictures are fetched in the same order. -/
theorem render_strict_tests_warnings (document : Document) (payload : Payload)
    (options : RenderOptions) (fetch : Fetcher) :
    let lenient := render document payload (options.withStrict false) fetch
    let strict := render document payload (options.withStrict true) fetch
    (∀ report, strict = .ok report ↔ lenient = .ok report ∧ report.warnings = []) ∧
    (∀ report, lenient = .ok report → report.warnings ≠ [] →
      strict = .error (.unresolved report.warnings)) ∧
    (∀ error, lenient = .error error → error.isOfPart = true → strict = .error error) ∧
    fetchedLocators document payload (options.withStrict true) =
      fetchedLocators document payload (options.withStrict false) := by
  intro lenient strict
  have lenientIs : lenient = _ := render_withStrict false
  have strictIs : strict = _ := render_withStrict true
  simp only [fetchedLocators, Draft.make_withStrict, lenientIs, strictIs]
  cases Draft.make document payload options with
  | error error =>
      refine ⟨fun report => ⟨fun made => ?_, fun made => ?_⟩, fun report made => ?_,
        fun _ failed _ => failed, rfl⟩
      · cases made
      · cases made.1
      · cases made
  | ok draft =>
      simp only [Except.bind, Draft.complete_strict]
      refine ⟨fun report => ?_, fun report made warned => ?_, fun error failed ofPart => ?_, rfl⟩
      · split
        · next unwarned =>
          refine ⟨fun made => ⟨made, ?_⟩, And.left⟩
          rw [Draft.warnings_of_complete made, Draft.warnings_withStrict, unwarned]
        · next warned =>
          refine ⟨fun made => ?_, fun made => ?_⟩
          · cases made
          · obtain ⟨made, unwarned⟩ := made
            rw [Draft.warnings_of_complete made, Draft.warnings_withStrict] at unwarned
            exact absurd unwarned warned
      · rw [Draft.warnings_of_complete made, Draft.warnings_withStrict] at warned ⊢
        exact if_neg warned
      · rw [Draft.isOfPart_of_complete failed] at ofPart
        cases ofPart

/-- The template with tags of every fate is refused for its warnings. -/
theorem render_strict_refuses_mixed :
    ∃ report, render Sample.mixed Sample.mixedPayload (({} : RenderOptions).withStrict false)
        Sample.fetch = .ok report ∧ report.warnings ≠ [] ∧
      render Sample.mixed Sample.mixedPayload (({} : RenderOptions).withStrict true)
        Sample.fetch = .error (.unresolved report.warnings) := by
  obtain ⟨report, rendered⟩ := Sample.exists_mixed_report
  have warned : report.warnings ≠ [] := by
    have missing : Sample.mixed.templates.flatMap
        (Document.pictureWarnings Sample.mixedPayload Sample.fetch) ≠ [] := by decide +kernel
    rw [warnings_of_render rendered]
    exact List.append_ne_nil_of_right_ne_nil _ missing
  obtain ⟨-, refused, -, -⟩ :=
    render_strict_tests_warnings Sample.mixed Sample.mixedPayload {} Sample.fetch
  exact ⟨report, rendered, warned, refused report rendered warned⟩

end Stencil
