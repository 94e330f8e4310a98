import Mathlib.Data.List.Forall2
import Stencil.Proofs.Scan.Insertion

/-! # Spellings of tags

A tag can be spelled in many ways: with any formatter or none, with blanks around its name, and an
image tag with a percent sign at its end. A scan finds the same tag in the same place, whichever
spelling is used, and it cuts the source around the tag in the same way.

Main statements: `Recognised.exists_respelled`, `Recognised.segments_respelled`.
-/

namespace Stencil

/-- Another body for a span: a reader takes the same name from it, and it holds the same elements. -/
structure Respelling (kind : TagKind) (body body' : Markup) : Prop where
  free : BraceFree body'
  identifier : (Tag.parse (Markup.visible (kind.enclose body'))).identifier =
    (Tag.parse (Markup.visible (kind.enclose body))).identifier
  elements : Markup.elements body' = Markup.elements body

/-- Tags that are replaced by the same in every payload. -/
structure TagSpan.Interchangeable (tag tag' : TagSpan) : Prop where
  kind : tag'.tag.kind = tag.tag.kind
  identifier : tag'.tag.identifier = tag.tag.identifier
  markup : tag'.markup = tag.markup

/-- Segments that are the same text, or tags that are replaced by the same. -/
inductive Segment.Interchangeable : Segment → Segment → Prop where
  | literal (text : Markup) : Interchangeable (.literal text) (.literal text)
  | tag {tag tag' : TagSpan} (same : tag.Interchangeable tag') :
      Interchangeable (.tag tag) (.tag tag')

theorem TagSpan.Interchangeable.moved {tag tag' : TagSpan} (h : tag.Interchangeable tag')
    (size size' : Nat) : (tag.moved size).Interchangeable (tag'.moved size') :=
  ⟨h.kind, h.identifier, h.markup⟩

theorem Segment.Interchangeable.moved (segment : Segment) (size size' : Nat) :
    (segment.moved size).Interchangeable (segment.moved size') := by
  cases segment with
  | literal text => exact .literal text
  | tag tag => exact .tag (TagSpan.Interchangeable.moved ⟨rfl, rfl, rfl⟩ size size')

theorem Segment.Interchangeable.refl (segment : Segment) : segment.Interchangeable segment := by
  cases segment with
  | literal text => exact .literal text
  | tag tag => exact .tag ⟨rfl, rfl, rfl⟩

theorem Segment.forall₂_tags {segments segments' : List Segment}
    (pairs : List.Forall₂ Segment.Interchangeable segments segments') :
    List.Forall₂ TagSpan.Interchangeable (segments.filterMap Segment.tag?)
      (segments'.filterMap Segment.tag?) := by
  refine List.rel_filterMap ?_ pairs
  rintro _ _ (text | same)
  · exact .none
  · exact .some same

theorem TagSpan.filterMap_eq_of_interchangeable {α : Type} {f g : TagSpan → Option α}
    (same : ∀ tag tag', tag.Interchangeable tag' → g tag' = f tag) {tags tags' : List TagSpan}
    (pairs : List.Forall₂ TagSpan.Interchangeable tags tags') :
    tags'.filterMap g = tags.filterMap f := by
  induction pairs with
  | nil => rfl
  | cons first _ ih => rw [List.filterMap_cons, List.filterMap_cons, same _ _ first, ih]

namespace Tag

theorem kind_parse (raw : List Char) : (parse raw).kind = (undelimited (Text.trim raw)).1 := by
  rw [parse]
  obtain ⟨kind, body⟩ := undelimited (Text.trim raw)
  simp only
  split <;> rfl

theorem kind_parse_enclose (kind : TagKind) (body : Markup) :
    (parse (Markup.visible (kind.enclose body))).kind = kind := by
  rw [kind_parse, visible_enclose, trim_enclose, undelimited_enclose]

end Tag

namespace Scan

variable {kind : TagKind} {body body' : Markup} {tag : TagSpan}

/-- A span is read as an interchangeable tag, however it is spelled. -/
theorem exists_readSpan_respelled {start : Nat}
    (read : readSpan start (kind.enclose body) = .inl tag) (spelling : Respelling kind body body') :
    ∃ tag', readSpan start (kind.enclose body') = .inl tag' ∧ tag.Interchangeable tag' := by
  rw [readSpan] at read
  split at read
  · next named =>
    cases read
    -- a span is a tag if its identifier is well formed, and that one is the same
    refine ⟨_, if_pos ?_, ?_, ?_, ?_⟩
    · rwa [Tag.wellFormed, spelling.identifier]
    · exact (Tag.kind_parse_enclose kind body').trans (Tag.kind_parse_enclose kind body).symm
    · exact spelling.identifier
    · exact (elements_enclose kind body').trans
        (spelling.elements.trans (elements_enclose kind body).symm)
  · cases read

end Scan

namespace Recognised

variable {kind : TagKind} {before body body' after : Markup} {tag : TagSpan}

/-- A recognised tag is recognised in the same place, however it is spelled. -/
theorem exists_respelled (h : Recognised before kind body after tag)
    (spelling : Respelling kind body body') :
    ∃ tag', Recognised before kind body' after tag' ∧ tag.Interchangeable tag' := by
  obtain ⟨read, -, alone⟩ := h.readSpan_eq
  obtain ⟨tag', read', same⟩ := Scan.exists_readSpan_respelled read spelling
  obtain ⟨start, stop⟩ := Scan.range_of_readSpan read'
  have stands : StandsIn (before ++ kind.enclose body' ++ after) before (kind.enclose body') after :=
    ⟨kind, body', spelling.free, rfl, rfl, alone⟩
  refine ⟨tag', ⟨?_, start, ?_⟩, same⟩
  · refine Scan.mem_tags.mpr (Scan.mem_readsFrom.mpr
      ⟨before, _, after, cutAt_stretches.mpr stands, ?_⟩)
    rwa [Nat.zero_add]
  · rw [stop, Text.byteSize_append]

/-- Another spelling of a recognised tag leaves the segments around it as they are. -/
theorem segments_respelled {tag' : TagSpan} (h : Recognised before kind body after tag)
    (h' : Recognised before kind body' after tag') (same : tag.Interchangeable tag') :
    List.Forall₂ Segment.Interchangeable (scan (before ++ kind.enclose body ++ after)).segments
      (scan (before ++ kind.enclose body' ++ after)).segments := by
  have behind : List.Forall₂ Segment.Interchangeable
      ((scan after).segments.map (Segment.moved tag.stop))
      ((scan after).segments.map (Segment.moved tag'.stop)) := by
    rw [List.forall₂_map_left_iff, List.forall₂_map_right_iff, List.forall₂_same]
    exact fun segment _ => .moved segment tag.stop tag'.stop
  rw [h.segments_eq, h'.segments_eq]
  exact List.rel_append (List.forall₂_same.mpr fun segment _ => .refl segment)
    (.cons (.tag same) behind)

end Recognised

end Stencil
