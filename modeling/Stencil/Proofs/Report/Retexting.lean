import Stencil.Proofs.Report.Account
import Stencil.Proofs.Report.Lockstep

/-! # Documents that differ in one text

Another text of one part with tags leaves the other parts to be filled as they were. If the plans of
the part ask for the same pictures, these are placed alike in both documents.

Main statements: `exists_filledDocument_of_differIn`, `exists_filledAlike_of_differIn`.
-/

namespace Stencil

/-- Documents with the same parts, of which one with tags has another text. -/
structure Document.DifferIn (name : String) (source source' : Markup) (document document' : Document) :
    Prop where
  tagged : PartName.isTemplate name = true
  names : document'.names = document.names
  there : document.markup? name = some source
  there' : document'.markup? name = some source'
  others : ∀ other, other ≠ name → document'.content? other = document.content? other

namespace Document.DifferIn

variable {name : String} {source source' : Markup} {document document' : Document}

theorem symm (h : DifferIn name source source' document document') :
    DifferIn name source' source document' document where
  tagged := h.tagged
  names := h.names.symm
  there := h.there'
  there' := h.there
  others := fun other apart => (h.others other apart).symm

theorem content?_eq (h : DifferIn name source source' document document') {other : String}
    (plain : PartName.isTemplate other = false) :
    document'.content? other = document.content? other := by
  refine h.others other ?_
  rintro rfl
  rw [h.tagged] at plain
  cases plain

theorem require_eq (h : DifferIn name source source' document document') (names : List String) :
    document'.require names = document.require names := by
  simp only [require, contains_eq_of_names h.names]

theorem templateNames_eq (h : DifferIn name source source' document document') :
    document'.templateNames = document.templateNames := by
  rw [templateNames, templateNames, h.names]

theorem mem_templateNames (h : DifferIn name source source' document document') :
    name ∈ document.templateNames := by
  refine List.mem_filter.mpr ⟨contains_iff.mp ?_, h.tagged⟩
  rw [contains_eq_isSome]
  exact Option.isSome_of_isSome_bind (Option.isSome_iff_exists.mpr ⟨source, h.there⟩)

/-- The other text takes the place of the first one among the templates. -/
theorem templates_eq (h : DifferIn name source source' document document') :
    document'.templates = document.templates.map fun template =>
      if template.1 = name then (name, source') else template := by
  rw [templates, templates, h.templateNames_eq, List.map_filterMap]
  refine List.filterMap_congr fun other _ => ?_
  by_cases same : other = name
  · subst same
    simp [h.there, h.there']
  · simp [markup?, h.others other same, same, Function.comp_def]

end Document.DifferIn

namespace Draft

variable {document : Document}

theorem exists_planParts {names : List String}
    (readable : ∀ name ∈ names, ∃ source, document.markup? name = some source) (payload : Payload)
    (linebreaks : Bool) (earlier : List Warning) :
    ∃ plans, planParts document payload linebreaks earlier names = .ok plans := by
  induction names generalizing earlier with
  | nil => exact ⟨[], rfl⟩
  | cons name rest ih =>
      rw [List.forall_mem_cons] at readable
      obtain ⟨⟨source, found⟩, readable⟩ := readable
      obtain ⟨plans, planned⟩ :=
        ih readable (earlier ++ (PartPlan.make payload linebreaks name source).warnings)
      exact ⟨PartPlan.make payload linebreaks name source :: plans, by
        simp only [planParts, found, planned, Except.map]⟩

end Draft

namespace PartPlan

variable {payload : Payload} {linebreaks : Bool} {fetch : Fetcher} {name : String}

/-- The plans of one part before and behind a change of its text; all others are the same. -/
inductive Retexted (payload : Payload) (linebreaks : Bool) (fetch : Fetcher) (name : String)
    (source source' : Markup) : PartPlan ByteArray → PartPlan ByteArray → Prop where
  | same (plan : PartPlan ByteArray) (other : plan.name ≠ name) :
      Retexted payload linebreaks fetch name source source' plan plan
  | changed : Retexted payload linebreaks fetch name source source'
      ((make payload linebreaks name source).fetched fetch)
      ((make payload linebreaks name source').fetched fetch)

theorem forall₂_retexted {source source' : Markup} {document document' : Document}
    (h : Document.DifferIn name source source' document document') (payload : Payload)
    (linebreaks : Bool) (fetch : Fetcher) :
    List.Forall₂ (Retexted payload linebreaks fetch name source source')
      (document.plans payload linebreaks fetch) (document'.plans payload linebreaks fetch) := by
  rw [Document.plans, Document.plans, h.templates_eq, List.map_map, List.forall₂_map_left_iff,
    List.forall₂_map_right_iff, List.forall₂_same]
  intro template mem
  have found := Document.markup?_of_mem_templates mem
  rw [Function.comp_apply]
  split
  · next here =>
    rw [here, h.there] at found
    rw [here, ← Option.some.inj found]
    exact .changed
  · next apart => exact .same _ apart

end PartPlan

section Filling

variable {document document' output output' : Document} {payload : Payload} {options : RenderOptions}
  {fetch : Fetcher} {name : String} {source source' : Markup}

/-- A filled document is one that the fetched plans of its templates were written into. -/
theorem exists_foldl_of_filledDocument
    (filled : filledDocument document payload options fetch = .ok output) :
    ∃ types nextDrawing, document.markup? PartName.contentTypes = some types ∧
      (document.plans payload options.linebreaks fetch).map PartPlan.name = document.templateNames ∧
      Planned options document (document.plans payload options.linebreaks fetch) ∧
      output = ((document.plans payload options.linebreaks fetch).foldl
        (Embedding.writePart options) (Embedding.begin document types nextDrawing)).finish := by
  obtain ⟨draft, made, rfl⟩ := filledDocument_eq_ok_iff.mp filled
  obtain ⟨-, types, -, sameDocument, sameOptions⟩ := Draft.make_eq_ok_iff.mp made
  obtain ⟨-, -, names, planned⟩ := Draft.of_make made
  have plans := Draft.supply_of_make made fetch
  have fits := PartPlan.fitsSource_supply (fun plan mem => (planned plan mem).2)
    (draft.locators.map fetch)
  refine ⟨draft.contentTypes, draft.firstDrawing, types, ?_, ?_, ?_⟩
  · rw [← plans, PartPlan.map_name_of_fitsSource fits, names]
  · exact plans ▸ Draft.planned_of_fits made fits
  · rw [Draft.filled, Draft.fill, plans, sameDocument, sameOptions]

theorem pack_of_render {report : Report}
    (rendered : render document payload options fetch = .ok report)
    (filled : filledDocument document payload options fetch = .ok output) :
    output.pack = .ok report.bytes := by
  obtain ⟨draft, made, rfl⟩ := filledDocument_eq_ok_iff.mp filled
  obtain ⟨draft', made', completed⟩ := exists_draft_of_render rendered
  rw [made, Except.ok.injEq] at made'
  exact made' ▸ (Draft.of_complete completed).1

/-- Documents that differ in the text of a part with tags are filled alike or not at all. -/
theorem exists_filledDocument_of_differIn (h : Document.DifferIn name source source' document document')
    (filled : filledDocument document payload options fetch = .ok output) :
    ∃ output', filledDocument document' payload options fetch = .ok output' := by
  obtain ⟨draft, made, -⟩ := filledDocument_eq_ok_iff.mp filled
  obtain ⟨required, types, -⟩ := Draft.make_eq_ok_iff.mp made
  obtain ⟨complete, -⟩ := Draft.plans_of_make made
  have readable : ∀ other ∈ document'.templateNames, ∃ text, document'.markup? other = some text := by
    intro other mem
    -- only the part with another text is read anew
    by_cases same : other = name
    · exact ⟨source', same ▸ h.there'⟩
    · rw [h.templateNames_eq, ← complete] at mem
      obtain ⟨template, listed, rfl⟩ := List.mem_map.mp mem
      refine ⟨template.2, ?_⟩
      rw [Document.markup?, h.others _ same]
      exact Document.markup?_of_mem_templates listed
  have declared : document'.markup? PartName.contentTypes = some draft.contentTypes := by
    rw [Document.markup?, h.content?_eq (by decide)]
    exact types
  obtain ⟨plans, planned⟩ := Draft.exists_planParts readable payload options.linebreaks []
  exact ⟨_, filledDocument_eq_ok_iff.mpr
    ⟨{ document := document', contentTypes := draft.contentTypes, options, plans },
      Draft.make_eq_ok_iff.mpr ⟨(h.require_eq _).trans required, declared, planned, rfl, rfl⟩, rfl⟩⟩

theorem Embedding.InStep.begin (h : Document.DifferIn name source source' document document')
    (types : Markup) (nextDrawing nextDrawing' : UInt32) :
    InStep (Embedding.begin document types nextDrawing)
      (Embedding.begin document' types nextDrawing') where
  documents := ⟨h.names, fun _ plain => h.content?_eq plain⟩
  contentTypes := rfl
  relationships := rfl
  nextMedia := rfl
  embedded := rfl

theorem PartPlan.FilledAlike.finish {plan plan' : PartPlan ByteArray}
    {placements placements' : List Placement} {one other : Embedding}
    (sound : Embedding.Sound document placements one)
    (sound' : Embedding.Sound document' placements' other)
    (tagged : PartName.isTemplate plan.name = true)
    (h : plan.FilledAlike options plan' placements one.document other.document) :
    plan.FilledAlike options plan' placements one.finish other.finish := by
  obtain ⟨block, block', text, text', inside, renumbers, written, there, written', there'⟩ := h
  refine ⟨block, block', text, text', inside, renumbers, written, ?_, written', ?_⟩
  · rwa [Document.markup?, sound.content?_finish_of_isTemplate tagged]
  · rwa [Document.markup?, sound'.content?_finish_of_isTemplate tagged]

/-- Documents that differ in the text of one part are filled alike, if the plans of this part are:
    all parts but those with tags are the same. -/
theorem exists_filledAlike_of_differIn (h : Document.DifferIn name source source' document document')
    (alike : ∀ plan plan', PartPlan.Retexted payload options.linebreaks fetch name source source' plan
      plan' → plan.Alike plan')
    (filled : filledDocument document payload options fetch = .ok output)
    (filled' : filledDocument document' payload options fetch = .ok output') :
    output.SameBesideTags output' ∧
    ∃ placements embedding, Embedding.Sound document placements embedding ∧
      output = embedding.finish ∧ ∀ other ∈ document.templateNames, ∃ plan plan',
        PartPlan.Retexted payload options.linebreaks fetch name source source' plan plan' ∧
        plan.name = other ∧ plan.FilledAlike options plan' placements output output' := by
  obtain ⟨types, nextDrawing, declared, names, planned, rfl⟩ := exists_foldl_of_filledDocument filled
  obtain ⟨types', nextDrawing', declared', -, planned', rfl⟩ :=
    exists_foldl_of_filledDocument filled'
  obtain rfl : types' = types := by
    rw [Document.markup?, h.content?_eq (by decide)] at declared'
    exact Option.some.inj (declared'.symm.trans declared)
  obtain ⟨step, placements, placements', sound, sound', texts⟩ :=
    Embedding.exists_foldl_writePart_inStep alike (.begin h types' nextDrawing nextDrawing')
      (.begin document types' nextDrawing) (.begin document' types' nextDrawing')
      (PartPlan.forall₂_retexted h payload options.linebreaks fetch) planned planned'
  refine ⟨step.finish, placements, _, sound, rfl, fun other listed => ?_⟩
  obtain ⟨plan, plan', retexted, rfl, filled⟩ := texts other (names ▸ listed)
  have tagged := Document.isTemplate_of_mem_templateNames listed
  exact ⟨plan, plan', retexted, rfl, filled.finish sound sound' tagged⟩

end Filling

end Stencil
