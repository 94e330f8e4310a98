import Mathlib.Data.List.Range
import Stencil.Proofs.Report.Embedding

/-! # The course of a report

Between the template and the finished document pictures are put into parts and texts are written
over those of the template, in any order. What a finished document declares and how its drawings are
numbered depend on the pictures alone.

Main statements: `Sound.of_course`, `Course.map_number`, `Course.contentTypes_eq`,
`Course.markup?_finish_partFor`.
-/

namespace Stencil

/-- The part that a placement's picture is put into, and the picture. -/
def Placement.origin (placement : Placement) : String × ByteArray :=
  (placement.part, placement.picture)

/-- The format of the picture. -/
def Placement.format (placement : Placement) : ImageFormat :=
  ImageFormat.detect placement.picture

/-- The relationships with that of one more picture. -/
def Placement.declareIn (relationships : Option Markup) (placement : Placement) : Option Markup :=
  some (Relationships.addImage relationships placement.relationship placement.target)

namespace Embedding

/-- What is reached from a start by putting pictures into parts and by writing the texts of some
    parts. -/
inductive Course (options : RenderOptions) (writes : String → Prop) (start : Embedding) :
    List Placement → Embedding → Prop where
  | start : Course options writes start [] start
  | embed {placements embedding} (earlier : Course options writes start placements embedding)
      (part : String) (picture : ByteArray) :
      Course options writes start (placements ++ [embedding.placement part picture])
        (embedding.embed options part picture).2
  | setText {placements embedding} (earlier : Course options writes start placements embedding)
      {name : String} (writable : writes name) (text : Markup) :
      Course options writes start placements
        { embedding with document := embedding.document.set name (.markup text) }

theorem Sound.of_course {document : Document} {options : RenderOptions} {writes : String → Prop}
    {contentTypes : Markup} {nextDrawing : UInt32} {placements : List Placement}
    {embedding : Embedding}
    (course : Course options writes (Embedding.begin document contentTypes nextDrawing) placements
      embedding)
    (tagged : ∀ name, writes name → PartName.isTemplate name = true) :
    Sound document placements embedding := by
  induction course with
  | start => exact .begin document contentTypes nextDrawing
  | embed _ part picture ih => exact ih.embed options part picture
  | setText _ writable text ih => exact ih.setText (tagged _ writable) text

namespace Course

variable {options : RenderOptions} {writes : String → Prop} {start embedding after : Embedding}
  {placements following : List Placement}

theorem run (course : Course options writes start placements embedding)
    (steps : Run options embedding following after) :
    Course options writes start (placements ++ following) after := by
  induction steps generalizing placements with
  | done => rwa [List.append_nil]
  | embed part picture _ ih =>
      have one := ih (course.embed part picture)
      rwa [List.append_assoc, List.singleton_append] at one

theorem numbers_eq (course : Course options writes start placements embedding) :
    embedding.nextDrawing = start.nextDrawing + UInt32.ofNat placements.length ∧
      placements.map Placement.number =
        (List.range placements.length).map fun count =>
          (start.nextDrawing + UInt32.ofNat count).toNat := by
  induction course with
  | start => exact ⟨(UInt32.add_zero _).symm, rfl⟩
  | @embed placements embedding _ part picture ih =>
      have next : (embedding.embed options part picture).2.nextDrawing = embedding.nextDrawing + 1 :=
        rfl
      have own : (embedding.placement part picture).number = embedding.nextDrawing.toNat := rfl
      constructor
      · rw [next, ih.1, List.length_append, List.length_singleton, UInt32.ofNat_add,
          UInt32.add_assoc]
        rfl
      · rw [List.map_append, List.map_singleton, own, ih.2, ih.1, List.length_append,
          List.length_singleton, List.range_succ, List.map_append, List.map_singleton]
  | setText _ _ _ ih => exact ih

/-- As long as the numbers do not run out, drawings have successive numbers. -/
theorem map_number (course : Course options writes start placements embedding)
    (fits : start.nextDrawing.toNat + placements.length ≤ 2 ^ 32) :
    placements.map Placement.number = List.range' start.nextDrawing.toNat placements.length := by
  rw [course.numbers_eq.2, List.range'_eq_map_range]
  refine List.map_congr_left fun count mem => ?_
  rw [List.mem_range] at mem
  rw [UInt32.toNat_add, UInt32.toNat_ofNat', Nat.mod_eq_of_lt (a := count) (by omega),
    Nat.mod_eq_of_lt (by omega)]

/-- The declarations are those of the start with one for the format of each picture. -/
theorem contentTypes_eq (course : Course options writes start placements embedding) :
    embedding.contentTypes =
      (placements.map Placement.format).foldl ContentTypes.ensure start.contentTypes := by
  induction course with
  | start => rfl
  | embed _ part picture ih =>
      rw [List.map_append, List.map_singleton, List.foldl_append, ← ih]
      rfl
  | setText _ _ _ ih => exact ih

/-- The relationships of a part are those of the start with one for each of its pictures. -/
theorem relationships?_eq (course : Course options writes start placements embedding)
    (tagged : ∀ name, writes name → PartName.isTemplate name = true) (part : String) :
    embedding.relationships? (Relationships.partFor part) =
      (placements.filter (·.home = Relationships.partFor part)).foldl Placement.declareIn
        (start.relationships? (Relationships.partFor part)) := by
  induction course with
  | start => rfl
  | @embed placements embedding _ other picture ih =>
      -- the new part is a media part, which is never one of relationships
      have unchanged : (embedding.embed options other picture).2.document.markup?
          (Relationships.partFor part) =
          embedding.document.markup? (Relationships.partFor part) := by
        rw [Document.markup?, Document.markup?]
        exact congrArg (·.bind PartContent.markup?)
          (Document.content?_set_of_ne (mediaName_ne_partFor _ _ part).symm _ _)
      have added : (embedding.embed options other picture).2.relationships =
          setRelationships (Relationships.partFor other)
            (Relationships.addImage (embedding.relationships? (Relationships.partFor other))
              (embedding.placement other picture).relationship
              (embedding.placement other picture).target) embedding.relationships := rfl
      have home : (embedding.placement other picture).home = Relationships.partFor other := rfl
      rw [List.filter_append, List.foldl_append, ← ih, relationships?, added, unchanged]
      by_cases here : Relationships.partFor part = Relationships.partFor other
      · rw [here, lookup_setRelationships_self, List.filter_cons_of_pos (by simp [home])]
        rfl
      · have away : Relationships.partFor other ≠ Relationships.partFor part := Ne.symm here
        rw [lookup_setRelationships_of_ne here, List.filter_cons_of_neg (by simp [home, away])]
        rfl
  | @setText placements embedding _ name writable text ih =>
      have apart : Relationships.partFor part ≠ name := by
        rintro rfl
        have template := tagged _ writable
        rw [PartName.isTemplate_partFor] at template
        cases template
      rw [← ih, relationships?, relationships?, Document.markup?, Document.markup?,
        Document.content?_set_of_ne apart]

end Course

theorem Sound.markup?_finish_partFor {document : Document} {placements : List Placement}
    {embedding : Embedding} (h : Sound document placements embedding) (part : String) :
    embedding.finish.markup? (Relationships.partFor part) =
      embedding.relationships? (Relationships.partFor part) := by
  rw [Document.markup?, h.content?_finish (PartName.partFor_ne_contentTypes part), relationships?]
  cases embedding.relationships.lookup (Relationships.partFor part) with
  | none => rfl
  | some markup => rfl

theorem markup?_finish_contentTypes {embedding : Embedding} (h : embedding.embedded ≠ 0) :
    embedding.finish.markup? PartName.contentTypes = some embedding.contentTypes := by
  rw [finish_of_embedded h]
  exact Document.markup?_of_content? (Document.content?_set_self _ _ _)

end Embedding

end Stencil
