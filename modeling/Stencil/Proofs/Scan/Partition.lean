import Mathlib.Data.List.Nodup
import Stencil.Proofs.Scan.Openers

/-! # The partition of a source

The segments of a scan lie one behind the other from the first byte of the source to its last, and
every range of a scan begins and ends between two characters of the source.

Main statement: `scan_partitions`.
-/

namespace Stencil

/-- Segments that lie one behind the other in a source, the first one at byte `start`. No literal is
    empty, and none follows another one. -/
inductive Tiles : (start : Nat) → List Segment → (source : Markup) → Prop where
  | nil (start : Nat) : Tiles start [] []
  | literal {start : Nat} {rest : List Segment} {source : Markup} (text : Markup)
      (nonempty : text ≠ []) (apart : ∀ next, rest.head? ≠ some (.literal next))
      (later : Tiles (start + Text.byteSize text) rest source) :
      Tiles start (.literal text :: rest) (text ++ source)
  | tag {rest : List Segment} {source : Markup} (tag : TagSpan) (span : Markup)
      (range : tag.stop = tag.start + Text.byteSize span) (later : Tiles tag.stop rest source) :
      Tiles tag.start (.tag tag :: rest) (span ++ source)

/-- Whether a range lies in one literal of segments, the first of which is at byte `start`. -/
def InLiteral (first stop : Nat) : (start : Nat) → List Segment → Prop
  | _, [] => False
  | start, .literal text :: rest =>
    (start ≤ first ∧ stop ≤ start + Text.byteSize text) ∨
      InLiteral first stop (start + Text.byteSize text) rest
  | _, .tag tag :: rest => InLiteral first stop tag.stop rest

/-- A scan that cuts the source between characters only. -/
structure Scan.Partitions (scan : Scan) (source : Markup) : Prop where
  /-- The segments are the source, from its first byte to its last. -/
  tiles : Tiles 0 scan.segments source
  tag_there : ∀ tag ∈ scan.tags, ∃ span, TextAt source tag.start tag.stop span
  tags_follow : scan.tags.Pairwise fun one other => one.stop ≤ other.start
  tag_positive : ∀ tag ∈ scan.tags, tag.start < tag.stop
  malformed_there : ∀ span ∈ scan.malformed, ∃ text, TextAt source span.start span.stop text
  /-- An unterminated opener is shown with what follows it, up to a number of characters. -/
  window : ∀ span ∈ scan.malformed, span.defect = .unterminated →
    TextAt source span.start span.stop span.text ∧ span.text.length ≤ Scan.reportWindow ∧
      (span.text.length < Scan.reportWindow → span.stop = Text.byteSize source)
  invalid_inside : ∀ span ∈ scan.malformed, span.defect = .invalidIdentifier →
    InLiteral span.start span.stop 0 scan.segments
  malformed_follow : (scan.malformed.map MalformedSpan.start).Pairwise (· < ·)
  starts_apart : ∀ span ∈ scan.malformed, ∀ tag ∈ scan.tags, span.start ≠ tag.start

theorem Tiles.prepend {start : Nat} {text source : Markup} {segments : List Segment}
    (nonempty : text ≠ []) (h : Tiles (start + Text.byteSize text) segments source) :
    Tiles start (Scan.prependLiteral text segments) (text ++ source) := by
  generalize placed : start + Text.byteSize text = place at h
  cases h with
  | nil => exact .literal text nonempty (by simp) (.nil _)
  | literal next isNext apart later =>
      rw [← List.append_assoc]
      refine .literal (text ++ next) (by simp [nonempty]) apart ?_
      rwa [Text.byteSize_append, ← Nat.add_assoc, placed]
  | tag tag span range later =>
      refine .literal text nonempty (by simp) ?_
      rw [placed]
      exact .tag tag span range later

namespace InLiteral

variable {first stop start : Nat} {text : Markup} {segments : List Segment}

theorem here (above : start ≤ first) (below : stop ≤ start + Text.byteSize text) :
    InLiteral first stop start (Scan.prependLiteral text segments) := by
  unfold Scan.prependLiteral
  split
  · refine .inl ⟨above, ?_⟩
    rw [Text.byteSize_append]
    omega
  · exact .inl ⟨above, below⟩

theorem prepend (h : InLiteral first stop (start + Text.byteSize text) segments) :
    InLiteral first stop start (Scan.prependLiteral text segments) := by
  unfold Scan.prependLiteral
  split
  · next next rest =>
    rw [InLiteral] at h ⊢
    rw [Text.byteSize_append, ← Nat.add_assoc]
    exact h.imp_left fun inside => ⟨by omega, inside.2⟩
  · exact .inr h

end InLiteral

theorem ne_nil_of_mem_stretches {source : Markup} {stretch : Stretch}
    (listed : stretch ∈ stretches source) : stretch.text ≠ [] := by
  fun_induction stretches source with
  | case1 => cases listed
  | case2 c rest span after found ih =>
      rcases List.mem_cons.mp listed with rfl | later
      · exact (append_of_takeSpan? found).2
      · exact ih later
  | case3 c rest absent ih =>
      rcases List.mem_cons.mp listed with rfl | later
      · exact List.cons_ne_nil _ _
      · exact ih later

namespace Scan

theorem tiles_segmentsFrom {start : Nat} {cut : List Stretch}
    (nonempty : ∀ stretch ∈ cut, stretch.text ≠ []) :
    Tiles start (segmentsFrom start cut) (cut.flatMap Stretch.text) := by
  induction cut generalizing start with
  | nil => exact .nil start
  | cons first cut ih =>
      obtain ⟨isText, later⟩ := List.forall_mem_cons.mp nonempty
      have tiled : Tiles (start + Text.byteSize first.text) _ _ := ih later
      rw [List.flatMap_cons]
      cases first with
      | plain text => exact tiled.prepend isText
      | span text =>
          rw [segmentsFrom]
          cases read : readSpan start text with
          | inl tag =>
              obtain ⟨rfl, stop⟩ := range_of_readSpan read
              exact .tag tag text stop (by rwa [stop])
          | inr invalid => exact tiled.prepend isText

theorem inLiteral_of_mem_invalidFrom {start : Nat} {cut : List Stretch} {span : MalformedSpan}
    (listed : span ∈ invalidFrom start cut) :
    InLiteral span.start span.stop start (segmentsFrom start cut) := by
  induction cut generalizing start with
  | nil => cases listed
  | cons first cut ih =>
      cases first with
      | plain text => exact (ih listed).prepend
      | span text =>
          rw [segmentsFrom]
          rw [invalidFrom] at listed
          cases read : readSpan start text with
          | inl tag =>
              simp only [read] at listed ⊢
              rw [InLiteral, (range_of_readSpan read).2]
              exact ih listed
          | inr invalid =>
              simp only [read] at listed ⊢
              rcases List.mem_cons.mp listed with rfl | later
              · have range := rangeOf_readSpan start text
                rw [read] at range
                obtain ⟨first, stop⟩ := Prod.mk.inj range
                exact .here (Nat.le_of_eq first.symm) (Nat.le_of_eq stop)
              · exact (ih later).prepend

/-- What is read at a range stands there. -/
theorem textAt_of_mem_readsFrom {source : Markup} {reading : TagSpan ⊕ MalformedSpan}
    (listed : reading ∈ readsFrom 0 (stretches source)) :
    ∃ span, TextAt source (rangeOf reading).1 (rangeOf reading).2 span := by
  obtain ⟨before, span, after, cut, rfl⟩ := mem_readsFrom.mp listed
  obtain ⟨kind, body, -, -, whole, -⟩ := cutAt_stretches.mp cut
  rw [rangeOf_readSpan, Nat.zero_add]
  exact ⟨span, before, after, whole, rfl, rfl⟩

/-- The segments of a scan are the source. -/
theorem tiles_segments (source : Markup) : Tiles 0 (scan source).segments source := by
  have tiled : Tiles 0 (segmentsFrom 0 (stretches source)) _ :=
    tiles_segmentsFrom fun _ listed => ne_nil_of_mem_stretches listed
  rwa [flatMap_text_stretches] at tiled

/-- A tag ends before the next one begins. -/
theorem tags_follow (source : Markup) :
    (scan source).tags.Pairwise fun one other => one.stop ≤ other.start := by
  rw [tags, scan, tags_segmentsFrom, List.pairwise_filterMap]
  refine readsFrom_follow.2.imp ?_
  intro one other follow tag isTag tag' isTag'
  rwa [Sum.getLeft?_eq_some_iff.mp isTag, Sum.getLeft?_eq_some_iff.mp isTag'] at follow

/-- An opener is shown with what follows it in the source, as far as the window goes. -/
theorem window_of_unterminated {source : Markup} {span : MalformedSpan}
    (mem : span ∈ (scan source).malformed) (defect : span.defect = .unterminated) :
    TextAt source span.start span.stop span.text ∧ span.text.length ≤ reportWindow ∧
      (span.text.length < reportWindow → span.stop = Text.byteSize source) := by
  obtain ⟨⟨place, rest⟩, found, -, rfl⟩ := mem_unterminated.mp ⟨mem, defect⟩
  obtain ⟨before, kind, after, rfl, -, there⟩ := of_mem_openersFrom found
  rw [Nat.zero_add] at there
  refine ⟨⟨before, rest.drop reportWindow, by simp, there, rfl⟩, List.length_take_le _ _, ?_⟩
  intro short
  have whole : rest.take reportWindow = rest := by
    refine List.take_of_length_le (Nat.le_of_not_lt fun longer => ?_)
    rw [List.length_take, Nat.min_eq_left (Nat.le_of_lt longer)] at short
    exact Nat.lt_irrefl _ short
  rw [whole, there, Text.byteSize_append]

theorem malformed_there {source : Markup} {span : MalformedSpan}
    (mem : span ∈ (scan source).malformed) : ∃ text, TextAt source span.start span.stop text := by
  cases defect : span.defect with
  | invalidIdentifier => exact textAt_of_mem_readsFrom (mem_malformed.mp ⟨mem, defect⟩)
  | unterminated => exact ⟨_, (window_of_unterminated mem defect).1⟩

/-- Readings that begin at one byte are one reading. -/
theorem eq_of_mem_readsFrom {source : Markup} {one other : TagSpan ⊕ MalformedSpan}
    (mem : one ∈ readsFrom 0 (stretches source)) (mem' : other ∈ readsFrom 0 (stretches source))
    (same : (rangeOf one).1 = (rangeOf other).1) : one = other := by
  have distinct : ((readsFrom 0 (stretches source)).map fun read => (rangeOf read).1).Nodup := by
    rw [List.Nodup, List.pairwise_map]
    exact (readsFrom_pairwise source).imp Nat.ne_of_lt
  exact List.inj_on_of_nodup_map distinct mem mem' same

theorem starts_apart {source : Markup} {span : MalformedSpan} {tag : TagSpan}
    (mem : span ∈ (scan source).malformed) (listed : tag ∈ (scan source).tags) :
    span.start ≠ tag.start := by
  intro same
  have read := mem_tags.mp listed
  cases defect : span.defect with
  | invalidIdentifier =>
      have invalid := mem_malformed.mp ⟨mem, defect⟩
      cases eq_of_mem_readsFrom invalid read same
  | unterminated =>
      obtain ⟨opener, -, outside, rfl⟩ := mem_unterminated.mp ⟨mem, defect⟩
      -- a tag covers the byte that it begins at
      exact outside ⟨tag.start, tag.stop, .inl ⟨tag, listed, rfl, rfl⟩, Nat.le_of_eq same.symm,
        Nat.lt_of_le_of_lt (Nat.le_of_eq same) (rangeOf_lt read)⟩

end Scan

/-- A scan partitions its source: the segments follow one another without a gap, every range is one
    of whole characters, a span that is no tag stays in a literal, and no two ranges begin at one
    byte. -/
theorem scan_partitions (source : Markup) : (scan source).Partitions source where
  tiles := Scan.tiles_segments source
  tag_there _ mem := Scan.textAt_of_mem_readsFrom (Scan.mem_tags.mp mem)
  tags_follow := Scan.tags_follow source
  tag_positive _ mem := Scan.rangeOf_lt (Scan.mem_tags.mp mem)
  malformed_there _ mem := Scan.malformed_there mem
  window _ mem defect := Scan.window_of_unterminated mem defect
  invalid_inside _ mem defect :=
    Scan.inLiteral_of_mem_invalidFrom (Scan.mem_invalidFrom.mpr ⟨mem, defect⟩)
  malformed_follow := Scan.malformed_pairwise source
  starts_apart _ mem _ listed := Scan.starts_apart mem listed

end Stencil
