import Stencil.Proofs.Scan.Grammar

/-! # The order of a scan

Tags and malformed spans are listed by increasing offset, and no two of a list begin at one
offset.
-/

namespace Stencil.Scan

/-- The ranges of readings follow one another, from `start` on. -/
theorem readsFrom_follow {start : Nat} {cut : List Stretch} :
    (∀ reading ∈ readsFrom start cut, start ≤ (rangeOf reading).1) ∧
      (readsFrom start cut).Pairwise fun one other => (rangeOf one).2 ≤ (rangeOf other).1 := by
  induction cut generalizing start with
  | nil => exact ⟨by simp [readsFrom], List.Pairwise.nil⟩
  | cons first cut ih =>
      obtain ⟨behind, follow⟩ := @ih (start + Text.byteSize first.text)
      cases first with
      | plain text =>
          exact ⟨fun reading mem => Nat.le_trans (Nat.le_add_right ..) (behind reading mem), follow⟩
      | span text =>
          rw [readsFrom, List.pairwise_cons, List.forall_mem_cons, rangeOf_readSpan]
          refine ⟨⟨Nat.le_refl start, fun reading mem => ?_⟩, behind, follow⟩
          exact Nat.le_trans (Nat.le_add_right ..) (behind reading mem)

/-- The range of a reading is not empty. -/
theorem rangeOf_lt {source : Markup} {reading : TagSpan ⊕ MalformedSpan}
    (h : reading ∈ readsFrom 0 (stretches source)) : (rangeOf reading).1 < (rangeOf reading).2 := by
  obtain ⟨before, span, after, cut, rfl⟩ := mem_readsFrom.mp h
  obtain ⟨kind, body, -, rfl, -, -⟩ := cutAt_stretches.mp cut
  obtain ⟨rest, headIs⟩ := kind.enclose_head body
  rw [rangeOf_readSpan, headIs, Text.byteSize_cons]
  have := Char.utf8Size_pos '{'
  omega

/-- Readings begin one behind the other. -/
theorem readsFrom_pairwise (source : Markup) :
    (readsFrom 0 (stretches source)).Pairwise fun one other =>
      (rangeOf one).1 < (rangeOf other).1 := by
  refine readsFrom_follow.2.imp_of_mem fun mem _ follow => ?_
  exact Nat.lt_of_lt_of_le (rangeOf_lt mem) follow

/-- Tags are listed by increasing offset. -/
theorem tags_pairwise (source : Markup) :
    ((scan source).tags.map TagSpan.start).Pairwise (· < ·) := by
  rw [tags, scan, tags_segmentsFrom, List.pairwise_map, List.pairwise_filterMap]
  refine (readsFrom_pairwise source).imp ?_
  intro one other follow tag isTag tag' isTag'
  rwa [Sum.getLeft?_eq_some_iff.mp isTag, Sum.getLeft?_eq_some_iff.mp isTag'] at follow

theorem invalidFrom_pairwise (source : Markup) :
    ((invalidFrom 0 (stretches source)).map MalformedSpan.start).Pairwise (· < ·) := by
  rw [invalidFrom_eq, List.pairwise_map, List.pairwise_filterMap]
  refine (readsFrom_pairwise source).imp ?_
  intro one other follow span isSpan span' isSpan'
  rwa [Sum.getRight?_eq_some_iff.mp isSpan, Sum.getRight?_eq_some_iff.mp isSpan'] at follow

theorem openersFrom_pairwise (start : Nat) (source : Markup) :
    (∀ opener ∈ openersFrom start source, start ≤ opener.1) ∧
      (openersFrom start source).Pairwise fun one other => one.1 < other.1 := by
  fun_induction openersFrom start source with
  | case1 | case2 => simp
  | case3 start source brace place c after _ _ _ ih =>
      obtain ⟨behind, follow⟩ := ih
      refine ⟨List.forall_mem_cons.mpr ⟨Nat.le_add_right .., fun opener mem => ?_⟩,
        List.pairwise_cons.mpr ⟨fun opener mem => ?_, follow⟩⟩
      · exact Nat.le_trans (by omega) (behind opener mem)
      · exact Nat.lt_of_lt_of_le (by omega) (behind opener mem)
  | case4 start source brace place c after _ _ _ ih =>
      obtain ⟨behind, follow⟩ := ih
      exact ⟨fun opener mem => Nat.le_trans (by omega) (behind opener mem), follow⟩

theorem unterminated_pairwise (covered : List (Nat × Nat)) (source : Markup) :
    ((unterminated covered source).map MalformedSpan.start).Pairwise (· < ·) := by
  rw [unterminated, List.pairwise_map, List.pairwise_filterMap]
  refine (openersFrom_pairwise 0 source).2.imp ?_
  rintro ⟨start, rest⟩ ⟨start', rest'⟩ follow span reported span' reported'
  simp only [Option.ite_none_left_eq_some, Option.some.injEq] at reported reported'
  rw [← reported.2, ← reported'.2]
  exact follow

/-- An unterminated opener begins in no covered range. -/
theorem not_covered_of_unterminated {covered : List (Nat × Nat)} {source : Markup}
    {span : MalformedSpan} (h : span ∈ unterminated covered source) {first stop : Nat}
    (range : (first, stop) ∈ covered) : ¬ (first ≤ span.start ∧ span.start < stop) := by
  rw [unterminated, List.mem_filterMap] at h
  obtain ⟨⟨start, rest⟩, -, reported⟩ := h
  simp only [Option.ite_none_left_eq_some, Option.some.injEq, Bool.not_eq_true,
    List.any_eq_false, Bool.and_eq_true, decide_eq_true_eq] at reported
  rw [← reported.2]
  exact reported.1 (first, stop) range

/-- Malformed spans are listed by increasing offset. -/
theorem malformed_pairwise (source : Markup) :
    ((scan source).malformed.map MalformedSpan.start).Pairwise (· < ·) := by
  have ordered : ((scan source).malformed.map MalformedSpan.start).Pairwise (· ≤ ·) := by
    rw [List.pairwise_map, scan]
    have sorted (spans : List MalformedSpan) :
        (spans.mergeSort fun one other => decide (one.start ≤ other.start)).Pairwise
          fun one other => decide (one.start ≤ other.start) :=
      List.pairwise_mergeSort (by simp only [decide_eq_true_eq]; omega)
        (by simp only [Bool.or_eq_true, decide_eq_true_eq]; omega) spans
    exact (sorted _).imp of_decide_eq_true
  have distinct : ((scan source).malformed.map MalformedSpan.start).Nodup := by
    rw [scan, ((List.mergeSort_perm _ _).map _).nodup_iff, List.map_append, List.nodup_append]
    refine ⟨(invalidFrom_pairwise source).imp Nat.ne_of_lt,
      (unterminated_pairwise _ source).imp Nat.ne_of_lt, ?_⟩
    rintro _ one _ other rfl
    obtain ⟨span, listed, rfl⟩ := List.mem_map.mp one
    obtain ⟨opener, reported, same⟩ := List.mem_map.mp other
    -- an invalid span covers the place that it begins at
    have there : .inr span ∈ readsFrom 0 (stretches source) := by
      rw [invalidFrom_eq, List.mem_filterMap] at listed
      obtain ⟨reading, mem, isSpan⟩ := listed
      rwa [Sum.getRight?_eq_some_iff.mp isSpan] at mem
    refine not_covered_of_unterminated reported
      (List.mem_append_right _ (List.mem_map_of_mem listed)) ⟨Nat.le_of_eq same.symm, ?_⟩
    exact same ▸ rangeOf_lt there
  exact ordered.imp₂ (fun _ _ le ne => Nat.lt_of_le_of_ne le ne) distinct

end Stencil.Scan
