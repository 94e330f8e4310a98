import Stencil.Proofs.Package.Extension
import Stencil.Proofs.Report.Draft

/-! # Documents written in step

Documents that differ in the texts of their parts with tags receive the same pictures in the same
way: under the same names and by the same relationships. Only the numbers of the drawings depend on
the texts that were there before.

Main statement: `Embedding.exists_foldl_writePart_inStep`.
-/

namespace Stencil

/-- Texts that are alike but for the numbers of drawings. -/
inductive Renumbered : Markup → Markup → Prop where
  | nil : Renumbered [] []
  | keep {text text'} (kept : Markup) (later : Renumbered text text') :
      Renumbered (kept ++ text) (kept ++ text')
  | drawing {text text'} (relationship file : List Char) (width height number number' : Nat)
      (later : Renumbered text text') :
      Renumbered (Drawing.inline relationship number file width height ++ text)
        (Drawing.inline relationship number' file width height ++ text')

theorem Renumbered.refl (text : Markup) : Renumbered text text := by
  have whole := Renumbered.keep text .nil
  rwa [List.append_nil] at whole

/-- Placements that are alike but for the numbers of their drawings. -/
def Placement.Renumbers (one other : Placement) : Prop :=
  other = { one with number := other.number }

/-- The same pieces are written alike wherever their pictures are placed alike. -/
theorem Written.renumbered {options : RenderOptions} {pieces : List (Piece ByteArray)}
    {placements placements' : List Placement} {text text' : Markup}
    (written : Written options pieces placements text)
    (written' : Written options pieces placements' text')
    (alike : List.Forall₂ Placement.Renumbers placements placements') : Renumbered text text' := by
  induction written generalizing placements' text' with
  | nil =>
      cases written'
      exact .nil
  | literal literal _ ih =>
      cases written' with
      | literal _ later => exact .keep literal (ih later alike)
  | text value elements _ ih =>
      cases written' with
      | text _ _ later => exact .keep _ (ih later alike)
  | bare elements _ ih =>
      cases written' with
      | bare _ later => exact .keep _ (ih later alike)
  | drawn placement elements _ ih =>
      generalize picture : placement.picture = bytes at written'
      cases written' with
      | drawn placement' _ later =>
          obtain ⟨first, alike⟩ := List.forall₂_cons.mp alike
          rw [Placement.Renumbers] at first
          rw [List.append_assoc, List.append_assoc, Placement.drawing, Placement.drawing, first]
          exact .drawing _ _ _ _ _ _ (.keep _ (ih later alike))

/-- Documents with parts of the same names, which have the same content but for those with tags. -/
structure Document.SameBesideTags (document document' : Document) : Prop where
  names : document'.names = document.names
  contents : ∀ name, PartName.isTemplate name = false →
    document'.content? name = document.content? name

namespace Document.SameBesideTags

variable {document document' : Document}

theorem names_set (h : SameBesideTags document document') (name : String)
    (content content' : PartContent) :
    (document'.set name content').names = (document.set name content).names := by
  have names : document'.parts.map Part.name = document.parts.map Part.name := h.names
  rw [Document.names, Document.names, Document.set, Document.set, Document.map_name_setIn,
    Document.map_name_setIn, names]

/-- The same part is set in both documents. -/
theorem set (h : SameBesideTags document document') (name : String) (content : PartContent) :
    SameBesideTags (document.set name content) (document'.set name content) where
  names := h.names_set name content content
  contents := by
    intro other plain
    by_cases same : other = name
    · rw [same, Document.content?_set_self, Document.content?_set_self]
    · rw [Document.content?_set_of_ne same, Document.content?_set_of_ne same, h.contents other plain]

/-- Other texts of a part with tags change nothing else. -/
theorem setText (h : SameBesideTags document document') {name : String}
    (tagged : PartName.isTemplate name = true) (content content' : PartContent) :
    SameBesideTags (document.set name content) (document'.set name content') where
  names := h.names_set name content content'
  contents := by
    intro other plain
    have apart : other ≠ name := by
      rintro rfl
      rw [tagged] at plain
      cases plain
    exact (Document.content?_set_of_ne apart _ _).trans
      ((h.contents other plain).trans (Document.content?_set_of_ne apart _ _).symm)

end Document.SameBesideTags

namespace Embedding

/-- Documents with the same pictures, placed alike, and the same other parts but for those with
    tags. -/
structure InStep (one other : Embedding) : Prop where
  documents : one.document.SameBesideTags other.document
  contentTypes : other.contentTypes = one.contentTypes
  relationships : other.relationships = one.relationships
  nextMedia : other.nextMedia = one.nextMedia
  embedded : other.embedded = one.embedded

namespace InStep

variable {one other : Embedding} {options : RenderOptions}

theorem relationships?_eq (h : InStep one other) (part : String) :
    other.relationships? (Relationships.partFor part) =
      one.relationships? (Relationships.partFor part) := by
  rw [relationships?, relationships?, h.relationships, Document.markup?, Document.markup?,
    h.documents.contents _ (PartName.isTemplate_partFor part)]

theorem freeMedia_eq (h : InStep one other) (format : ImageFormat) :
    freeMedia other.document format other.nextMedia =
      freeMedia one.document format one.nextMedia := by
  have length : other.document.parts.length = one.document.parts.length := by
    have names := congrArg List.length h.documents.names
    rwa [Document.names, Document.names, List.length_map, List.length_map] at names
  simp only [freeMedia, Document.contains_eq_of_names h.documents.names, length, h.nextMedia]

theorem renumbers_placement (h : InStep one other) (part : String) (picture : ByteArray) :
    (one.placement part picture).Renumbers (other.placement part picture) := by
  simp only [Placement.Renumbers, placement, h.freeMedia_eq, h.embedded, h.relationships?_eq]

theorem embed (h : InStep one other) (part : String) (picture : ByteArray) :
    InStep (one.embed options part picture).2 (other.embed options part picture).2 := by
  have media := h.freeMedia_eq (ImageFormat.detect picture)
  constructor
  case documents =>
    simp only [Embedding.embed, media]
    exact h.documents.set _ _
  case contentTypes => simp only [Embedding.embed, h.contentTypes]
  case relationships =>
    simp only [Embedding.embed, media, h.relationships, h.relationships?_eq, h.embedded]
  case nextMedia => simp only [Embedding.embed, media]
  case embedded => simp only [Embedding.embed, h.embedded]

/-- Other texts of a part with tags change nothing else. -/
theorem setText (h : InStep one other) {name : String} (tagged : PartName.isTemplate name = true)
    (text text' : Markup) :
    InStep { one with document := one.document.set name (.markup text) }
      { other with document := other.document.set name (.markup text') } where
  documents := h.documents.setText tagged _ _
  contentTypes := h.contentTypes
  relationships := h.relationships
  nextMedia := h.nextMedia
  embedded := h.embedded

/-- The same pictures are put into the same part of both documents. -/
theorem run {placements placements' : List Placement} {after after' : Embedding} {part : String}
    (h : InStep one other) (steps : Run options one placements after)
    (steps' : Run options other placements' after')
    (inPart : ∀ placement ∈ placements, placement.part = part)
    (inPart' : ∀ placement ∈ placements', placement.part = part)
    (pictures : placements.map Placement.picture = placements'.map Placement.picture) :
    InStep after after' ∧ List.Forall₂ Placement.Renumbers placements placements' := by
  induction steps generalizing other placements' after' with
  | done =>
      cases steps' with
      | done => exact ⟨h, .nil⟩
      | embed => cases pictures
  | @embed before _ _ part₁ picture _ ih =>
      cases steps' with
      | done => cases pictures
      | embed part₂ picture' later' =>
          obtain ⟨same, others⟩ := List.cons.inj pictures
          rw [List.forall_mem_cons] at inPart inPart'
          obtain rfl : part₁ = part := inPart.1
          obtain rfl : part₂ = part₁ := inPart'.1
          obtain rfl : picture = picture' := same
          obtain ⟨step, alike⟩ := ih (h.embed _ picture) later' inPart.2 inPart'.2 others
          exact ⟨step, .cons (h.renumbers_placement _ picture) alike⟩

/-- Finished documents hold the same relationships and the same declarations. -/
theorem finish (h : InStep one other) : one.finish.SameBesideTags other.finish := by
  have related (entries : List (String × Markup)) {document document' : Document}
      (same : document.SameBesideTags document') :
      (entries.foldl (fun document entry => document.set entry.1 (.markup entry.2))
        document).SameBesideTags
        (entries.foldl (fun document entry => document.set entry.1 (.markup entry.2))
          document') := by
    induction entries generalizing document document' with
    | nil => exact same
    | cons entry rest ih => exact ih (same.set entry.1 (.markup entry.2))
  rw [Embedding.finish, Embedding.finish, h.embedded, h.relationships, h.contentTypes]
  split
  · exact h.documents
  · exact (related one.relationships h.documents).set _ _

end InStep

end Embedding

namespace PartPlan

/-- Plans of one part that ask for the same pictures. -/
structure Alike (plan plan' : PartPlan ByteArray) : Prop where
  name : plan'.name = plan.name
  pictures : plan'.pictures = plan.pictures
  hasTags : plan'.hasTags = plan.hasTags

theorem map_name_of_alike {plans plans' : List (PartPlan ByteArray)}
    (pairs : List.Forall₂ Alike plans plans') : plans'.map name = plans.map name := by
  induction pairs with
  | nil => rfl
  | cons first _ ih => rw [List.map_cons, List.map_cons, first.name, ih]

/-- The part of two plans holds what each is written as, with placements that are alike. -/
def FilledAlike (options : RenderOptions) (plan plan' : PartPlan ByteArray)
    (placements : List Placement) (document document' : Document) : Prop :=
  ∃ block block' text text', block ⊆ placements ∧ List.Forall₂ Placement.Renumbers block block' ∧
    Written options plan.pieces block text ∧ document.markup? plan.name = some text ∧
    Written options plan'.pieces block' text' ∧ document'.markup? plan.name = some text'

end PartPlan

namespace Embedding

variable {options : RenderOptions} {document document' : Document}
  {placements placements' : List Placement} {one other : Embedding}

theorem exists_writePart_inStep (step : InStep one other) (sound : Sound document placements one)
    (sound' : Sound document' placements' other) {plan plan' : PartPlan ByteArray}
    (alike : plan.Alike plan') (planned : Planned options one.document [plan])
    (planned' : Planned options other.document [plan']) :
    InStep (one.writePart options plan) (other.writePart options plan') ∧
      ∃ block block', Sound document (placements ++ block) (one.writePart options plan) ∧
        Sound document' (placements' ++ block') (other.writePart options plan') ∧
        plan.FilledAlike options plan' block (one.writePart options plan).document
          (other.writePart options plan').document := by
  have tagged := planned.tagged plan List.mem_cons_self
  cases replaced : plan.hasTags with
  | false =>
      have replaced' : plan'.hasTags = false := alike.hasTags.trans replaced
      obtain ⟨written, there⟩ := planned.untouched plan List.mem_cons_self replaced
      obtain ⟨written', there'⟩ := planned'.untouched plan' List.mem_cons_self replaced'
      rw [alike.name] at there'
      rw [writePart, writePart, replaced, replaced', if_neg Bool.false_ne_true,
        if_neg Bool.false_ne_true]
      refine ⟨step, [], [], ?_, ?_, [], [], _, _, List.Subset.refl _, .nil, written, there, written',
        there'⟩
      · rwa [List.append_nil]
      · rwa [List.append_nil]
  | true =>
      have replaced' : plan'.hasTags = true := alike.hasTags.trans replaced
      -- the plans ask for the same pictures in the same order, so their runs go in step
      obtain ⟨block, run, written, inPart⟩ :=
        exists_run_writePieces options plan.name plan.pieces one
      obtain ⟨block', run', written', inPart'⟩ :=
        exists_run_writePieces options plan'.name plan'.pieces other
      have pictures : block.map Placement.picture = block'.map Placement.picture := by
        rw [written.map_picture, written'.map_picture]
        exact alike.pictures.symm
      rw [writePart_of_hasTags replaced, writePart_of_hasTags replaced', alike.name]
      rw [alike.name] at run' inPart' written'
      obtain ⟨step, renumbers⟩ := step.run run run' inPart inPart' pictures
      refine ⟨step.setText tagged _ _, block, block', (sound.run run).setText tagged _,
        (sound'.run run').setText tagged _, block, block', _, _, List.Subset.refl _, renumbers,
        written, ?_, written', ?_⟩
      · exact Document.markup?_of_content? (Document.content?_set_self _ _ _)
      · exact Document.markup?_of_content? (Document.content?_set_self _ _ _)

/-- Alike plans are written into both documents, one after the other. -/
theorem exists_foldl_writePart_inStep {related : PartPlan ByteArray → PartPlan ByteArray → Prop}
    (relatedAlike : ∀ plan plan', related plan plan' → plan.Alike plan') (step : InStep one other)
    (sound : Sound document placements one) (sound' : Sound document' placements' other)
    {plans plans' : List (PartPlan ByteArray)} (pairs : List.Forall₂ related plans plans')
    (planned : Planned options one.document plans)
    (planned' : Planned options other.document plans') :
    InStep (plans.foldl (writePart options) one) (plans'.foldl (writePart options) other) ∧
    ∃ following following',
      Sound document (placements ++ following) (plans.foldl (writePart options) one) ∧
      Sound document' (placements' ++ following') (plans'.foldl (writePart options) other) ∧
      ∀ name ∈ plans.map PartPlan.name, ∃ plan plan', related plan plan' ∧ plan.name = name ∧
        plan.FilledAlike options plan' following (plans.foldl (writePart options) one).document
          (plans'.foldl (writePart options) other).document := by
  induction pairs generalizing placements placements' one other with
  | nil =>
      refine ⟨step, [], [], ?_, ?_, by simp⟩
      · rwa [List.append_nil]
      · rwa [List.append_nil]
  | @cons plan plan' rest rest' first pairs ih =>
      have alike := relatedAlike plan plan' first
      obtain ⟨step, block, block', sound, sound', filled⟩ := exists_writePart_inStep step sound sound'
        alike (planned.of_subset (List.cons_subset_cons plan (List.nil_subset rest)))
        (planned'.of_subset (List.cons_subset_cons plan' (List.nil_subset rest')))
      obtain ⟨step, following, following', sound, sound', others⟩ :=
        ih step sound sound' (planned_writePart planned) (planned_writePart planned')
      refine ⟨step, block ++ following, block' ++ following', List.append_assoc .. ▸ sound,
        List.append_assoc .. ▸ sound', ?_⟩
      intro name mem
      -- a part is left as the last plan of its name wrote it
      by_cases again : name ∈ rest.map PartPlan.name
      · obtain ⟨last, last', found, named, part, part', text, text', inside, filled⟩ :=
          others name again
        exact ⟨last, last', found, named, part, part', text, text',
          List.Subset.trans inside (List.subset_append_right block following), filled⟩
      · rcases List.mem_cons.mp mem with rfl | later
        · obtain ⟨part, part', text, text', inside, renumbers, written, there, written', there'⟩ :=
            filled
          have tagged := planned.tagged plan List.mem_cons_self
          refine ⟨plan, plan', first, rfl, part, part', text, text',
            List.Subset.trans inside (List.subset_append_left block following), renumbers, written,
            ?_, written', ?_⟩
          · rw [List.foldl_cons, Document.markup?, content?_foldl_writePart tagged again]
            exact there
          · rw [← PartPlan.map_name_of_alike (pairs.imp relatedAlike)] at again
            rw [List.foldl_cons, Document.markup?, content?_foldl_writePart tagged again]
            exact there'
        · exact absurd later again

end Embedding

end Stencil
