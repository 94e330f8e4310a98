import Stencil.Proofs.Image.Numbers
import Stencil.Proofs.Report.Packing

/-! # Numbers of embedded pictures

The drawings of a report are numbered from the greatest number on that is found in the parts with tags.
As long as there are numbers left, each drawing has one that no other has, neither a new one nor one
that was there.

Main statement: `render_numbers_drawings`. Where a number is not spelled as it is searched for, and where
there is no number left, numbers are given twice: `render_repeats_numbers`.
-/

namespace Stencil

/-- The greatest number that is found in the parts with tags. -/
def Document.greatestDrawing (document : Document) : Nat :=
  (document.templates.map fun template => Drawing.greatestIdIn template.2).foldl max 0

/-- Placements with successive numbers behind all that there were. -/
structure Document.Numbers (document : Document) (placements : List Placement) : Prop where
  successive : placements.map Placement.number =
    List.range' (document.greatestDrawing + 1) placements.length
  distinct : (placements.map Placement.number).Nodup
  bounded : ∀ placement ∈ placements, placement.number ≤ Drawing.greatestId
  /-- No drawing of a part with tags has one of the numbers. -/
  fresh : ∀ template ∈ document.templates, ∀ element ∈ Markup.elements template.2, ∀ digits id,
    Drawing.Numbered element digits → Text.decimal? digits = some id →
      id ∉ placements.map Placement.number

namespace Document

variable {document : Document}

theorem greatestIdIn_le_greatestDrawing {template : String × Markup}
    (mem : template ∈ document.templates) :
    Drawing.greatestIdIn template.2 ≤ document.greatestDrawing :=
  (Drawing.foldl_max_le_iff.mp le_rfl).2 _ (List.mem_map_of_mem mem)

theorem Numbers.of_successive {placements : List Placement}
    (successive : placements.map Placement.number =
      List.range' (document.greatestDrawing + 1) placements.length)
    (fits : document.greatestDrawing + placements.length ≤ Drawing.greatestId) :
    document.Numbers placements := by
  have within : ∀ number ∈ placements.map Placement.number,
      document.greatestDrawing < number ∧ number ≤ Drawing.greatestId := by
    intro number mem
    rw [successive, List.mem_range'_1] at mem
    omega
  constructor
  case successive => exact successive
  case distinct => exact successive ▸ List.nodup_range'
  case bounded => exact fun placement mem => (within _ (List.mem_map_of_mem mem)).2
  case fresh =>
    intro template listed element inside digits id numbered read mem
    obtain ⟨above, small⟩ := within id mem
    have found := numbered.le_greatestIdIn inside read small
    have known := greatestIdIn_le_greatestDrawing listed
    omega

end Document

section Rendering

variable {document : Document} {payload : Payload} {options : RenderOptions} {fetch : Fetcher}
  {report : Report}

theorem Draft.toNat_firstDrawing {draft : Draft}
    (made : Draft.make document payload options = .ok draft)
    (fits : document.greatestDrawing < Drawing.greatestId) :
    draft.firstDrawing.toNat = document.greatestDrawing + 1 := by
  have same : (draft.plans.map fun plan => Drawing.greatestIdIn plan.source).foldl max 0 =
      document.greatestDrawing := by
    rw [(Draft.plans_of_make made).2, List.map_map]
    rfl
  -- below the greatest number the sum of 32 bits is that of natural numbers
  rw [Drawing.greatestId] at fits
  rw [Draft.firstDrawing, same, UInt32.toNat_add, UInt32.toNat_ofNat', UInt32.toNat_one]
  omega

/-- The drawings of a report have numbers of their own, as long as there are numbers left. -/
theorem render_numbers_drawings (rendered : render document payload options fetch = .ok report)
    (fits : document.greatestDrawing + report.statistics.imagesEmbedded ≤ Drawing.greatestId) :
    ∃ output placements, filledDocument document payload options fetch = .ok output ∧
      output.pack = .ok report.bytes ∧
      placements.length = report.statistics.imagesEmbedded ∧
      (∀ name ∈ document.templateNames, ∃ source block text, document.markup? name = some source ∧
        WrittenPart payload options (fun tag picture => picture = tag.picture? payload fetch)
          placements name source output block text) ∧
      (∀ placement ∈ placements,
        Drawing.numbers (placement.drawing options) = [Drawing.number placement.number]) ∧
      document.Numbers placements := by
  obtain ⟨draft, placements, embedding, made, filled, packed, course, length, written⟩ :=
    exists_course_of_render rendered
  refine ⟨_, placements, filled, packed, length, written,
    fun placement _ => Drawing.numbers_inline .., ?_⟩
  rw [← length] at fits
  refine .of_successive ?_ fits
  -- without pictures the first number may have wrapped, but none is given
  rcases Nat.eq_zero_or_pos placements.length with none | some
  · rw [List.length_eq_zero_iff.mp none]
    rfl
  · have starts : (Embedding.begin document draft.contentTypes draft.firstDrawing).nextDrawing.toNat =
        document.greatestDrawing + 1 := Draft.toNat_firstDrawing made (by omega)
    have enough : document.greatestDrawing + 1 + placements.length ≤ 2 ^ 32 := by
      rw [Drawing.greatestId] at fits
      omega
    rw [course.map_number (by rwa [starts]), starts]

end Rendering

namespace Sample

/-- A template with a drawing in its body and with a picture behind it. -/
def withDrawing (drawing : String) : Document :=
  { document with
    parts :=
      [types, { body with content := .markup (drawing ++ "<w:t>{%seal}</w:t>").toList }, links] }

theorem stored_withDrawing (drawing : String) : (withDrawing drawing).Stored :=
  stored.of_same rfl rfl

/-- The element of a drawing whose number stands behind another attribute. -/
def seventh : String :=
  "<wp:docPr name=\"x\" id=\"7\"/>"

theorem numbered_seventh : Drawing.Numbered seventh.toList ['7'] := by
  refine ⟨" name=\"x\" ".toList, "/>".toList, ⟨by decide, by decide, ?_⟩, rfl⟩
  have absent : ¬ Drawing.attributeStart <:+: " name=\"x\" ".toList := by decide
  intro lead digits trail spelled
  exact absurd ⟨lead, digits ++ '\x22' :: trail, by rw [spelled, List.append_assoc _ digits]⟩ absent

/-- The element of a drawing whose number stands in single quotes. -/
def singleQuoted : String :=
  "<wp:docPr id='1' name='x'/>"

/-- Drawings with the greatest number and with none. -/
def extreme : String :=
  "<wp:docPr id=\"4294967295\"/><wp:docPr id=\"0\"/>"

/-- The numbers of the drawings in the body of a document. -/
def bodyNumbers (document : Document) : Option (List (List Char)) :=
  (document.markup? PartName.mainDocument).map Drawing.numbers

end Sample

/-- The picture behind a drawing with the number seven has the number eight. -/
theorem render_numbers_drawings_sample :
    ∃ report output placements,
      render (Sample.withDrawing Sample.seventh) Sample.payload {} Sample.fetch = .ok report ∧
      filledDocument (Sample.withDrawing Sample.seventh) Sample.payload {} Sample.fetch = .ok output ∧
      (Sample.withDrawing Sample.seventh).Numbers placements ∧
      placements.map Placement.number = [8] ∧
      7 ∉ placements.map Placement.number ∧
      Sample.bodyNumbers output = some [['7'], ['8']] := by
  have found : (filledDocument (Sample.withDrawing Sample.seventh) Sample.payload {}
      Sample.fetch).toOption.any (fun output =>
        decide (Sample.bodyNumbers output = some [['7'], ['8']])) = true := by
    decide +kernel
  obtain ⟨report, output, rendered, filled, -, numbers⟩ :=
      exists_report_satisfying (Sample.stored_withDrawing _) rfl found
  have one : report.statistics.imagesEmbedded = 1 := by
    rw [statistics_of_render rendered]
    decide +kernel
  have greatest : (Sample.withDrawing Sample.seventh).greatestDrawing = 7 := by decide +kernel
  obtain ⟨output', placements, filled', -, length, -, -, numbered⟩ :=
    render_numbers_drawings rendered (by rw [one, greatest]; decide)
  rw [filled, Except.ok.injEq] at filled'
  subst filled'
  have successive := numbered.successive
  rw [greatest, length, one] at successive
  exact ⟨report, output, placements, rendered, filled, numbered, successive,
    numbered.fresh (PartName.mainDocument, (Sample.seventh ++ "<w:t>{%seal}</w:t>").toList)
      (by decide +kernel) Sample.seventh.toList (by decide +kernel) ['7'] 7 Sample.numbered_seventh rfl,
    of_decide_eq_true numbers⟩

/-- A number in single quotes is given to a picture once more. Behind the greatest number numbers begin
    with zero again, whether a drawing has it or not. -/
theorem render_repeats_numbers :
    (∃ report output,
      render (Sample.withDrawing Sample.singleQuoted) Sample.payload {} Sample.fetch = .ok report ∧
      filledDocument (Sample.withDrawing Sample.singleQuoted) Sample.payload {} Sample.fetch =
        .ok output ∧
      output.pack = .ok report.bytes ∧
      Sample.bodyNumbers (Sample.withDrawing Sample.singleQuoted) = some [['1']] ∧
      Sample.bodyNumbers output = some [['1'], ['1']]) ∧
    ∃ report output,
      render (Sample.withDrawing Sample.extreme) Sample.payload {} Sample.fetch = .ok report ∧
      filledDocument (Sample.withDrawing Sample.extreme) Sample.payload {} Sample.fetch = .ok output ∧
      output.pack = .ok report.bytes ∧
      Sample.bodyNumbers (Sample.withDrawing Sample.extreme) =
        some ["4294967295".toList, ['0']] ∧
      Sample.bodyNumbers output = some ["4294967295".toList, ['0'], ['0']] := by
  have quoted : (filledDocument (Sample.withDrawing Sample.singleQuoted) Sample.payload {}
      Sample.fetch).toOption.any (fun output =>
        decide (Sample.bodyNumbers output = some [['1'], ['1']])) = true := by
    decide +kernel
  have wrapped : (filledDocument (Sample.withDrawing Sample.extreme) Sample.payload {}
      Sample.fetch).toOption.any (fun output =>
        decide (Sample.bodyNumbers output = some ["4294967295".toList, ['0'], ['0']])) = true := by
    decide +kernel
  constructor
  · obtain ⟨report, output, rendered, filled, packed, twice⟩ :=
      exists_report_satisfying (Sample.stored_withDrawing _) rfl quoted
    exact ⟨report, output, rendered, filled, packed, by decide +kernel, of_decide_eq_true twice⟩
  · obtain ⟨report, output, rendered, filled, packed, twice⟩ :=
      exists_report_satisfying (Sample.stored_withDrawing _) rfl wrapped
    exact ⟨report, output, rendered, filled, packed, by decide +kernel, of_decide_eq_true twice⟩

end Stencil
