import Stencil.Proofs.Scan.Grammar

/-! # Splices

A text that is made from a source by filling its tags has the stretches between the tags, byte
for byte and in their order, and nothing else but the fillings.

Main statement: what is laid out from the segments of a scan is a splice of the source.
-/

namespace Stencil

/-- A source with some tags, the first stretch of which is at `start`, and a text with fillings in
    place of them. -/
inductive Spliced (fill : Markup → TagSpan → Markup → Prop) :
    (start : Nat) → (source : Markup) → List TagSpan → (text : Markup) → Prop where
  | plain (start : Nat) (literal : Markup) : Spliced fill start literal [] literal
  | tag {start : Nat} {literal span filling source text : Markup} {tag : TagSpan}
      {tags : List TagSpan}
      (read : Scan.readSpan (start + Text.byteSize literal) span = .inl tag)
      (filled : fill span tag filling) (later : Spliced fill tag.stop source tags text) :
      Spliced fill start (literal ++ span ++ source) (tag :: tags) (literal ++ filling ++ text)

/-- Segments laid out one after the other, with fillings in place of the tags. -/
inductive LaidOut (fill : Markup → TagSpan → Markup → Prop) : List Segment → Markup → Prop where
  | nil : LaidOut fill [] []
  | literal {rest text} (literal : Markup) (later : LaidOut fill rest text) :
      LaidOut fill (.literal literal :: rest) (literal ++ text)
  | tag {rest text filling} (tag : TagSpan)
      (filled : ∀ start span, Scan.readSpan start span = .inl tag → fill span tag filling)
      (later : LaidOut fill rest text) : LaidOut fill (.tag tag :: rest) (filling ++ text)

variable {fill : Markup → TagSpan → Markup → Prop}

theorem Spliced.prepend {start : Nat} {lead source text : Markup} {tags : List TagSpan}
    (h : Spliced fill (start + Text.byteSize lead) source tags text) :
    Spliced fill start (lead ++ source) tags (lead ++ text) := by
  cases h with
  | plain => exact .plain start (lead ++ source)
  | @tag _ literal span filling source text tag tags read filled later =>
      rw [Nat.add_assoc, ← Text.byteSize_append] at read
      have spliced := Spliced.tag read filled later
      simpa only [List.append_assoc] using spliced

theorem LaidOut.of_prependLiteral {lead text : Markup} {segments : List Segment}
    (h : LaidOut fill (Scan.prependLiteral lead segments) text) :
    ∃ rest, text = lead ++ rest ∧ LaidOut fill segments rest := by
  unfold Scan.prependLiteral at h
  split at h
  · next next rest =>
    cases h with
    | @literal _ text _ later => exact ⟨next ++ text, List.append_assoc .., .literal next later⟩
  · cases h with
    | literal _ later => exact ⟨_, rfl, later⟩

theorem spliced_of_laidOut_segmentsFrom {start : Nat} {cut : List Stretch} {text : Markup}
    (h : LaidOut fill (Scan.segmentsFrom start cut) text) :
    Spliced fill start (cut.flatMap Stretch.text)
      ((Scan.segmentsFrom start cut).filterMap Segment.tag?) text := by
  induction cut generalizing start text with
  | nil =>
      cases h
      exact .plain start []
  | cons first cut ih =>
      rw [List.flatMap_cons]
      cases first with
      | plain literal =>
          obtain ⟨rest, rfl, later⟩ := LaidOut.of_prependLiteral h
          rw [Scan.segmentsFrom, Scan.filterMap_tag?_prependLiteral]
          exact (ih later).prepend
      | span span =>
          rw [Scan.segmentsFrom] at h ⊢
          cases read : Scan.readSpan start span with
          | inl tag =>
              simp only [read, Stretch.text] at h ⊢
              cases h with
              | @tag _ text filling _ filled later =>
                  have placed : Scan.readSpan (start + Text.byteSize []) span = .inl tag := read
                  refine .tag placed (filled start span read) ?_
                  rw [(Scan.range_of_readSpan read).2]
                  exact ih later
          | inr invalid =>
              simp only [read] at h ⊢
              obtain ⟨rest, rfl, later⟩ := LaidOut.of_prependLiteral h
              rw [Scan.filterMap_tag?_prependLiteral]
              exact (ih later).prepend

/-- What is laid out from the segments of a scan is a splice of the source. -/
theorem spliced_of_laidOut {source text : Markup} (h : LaidOut fill (scan source).segments text) :
    Spliced fill 0 source (scan source).tags text := by
  have spliced := spliced_of_laidOut_segmentsFrom h
  rwa [flatMap_text_stretches] at spliced

/-- Fillings of another kind, where the spans are stretches of the source. -/
theorem Spliced.imp {fill' : Markup → TagSpan → Markup → Prop} {start : Nat}
    {source text : Markup} {tags : List TagSpan} (h : Spliced fill start source tags text)
    (imp : ∀ span tag filling, span <:+: source → tag ∈ tags → fill span tag filling →
      fill' span tag filling) : Spliced fill' start source tags text := by
  induction h with
  | plain start literal => exact .plain start literal
  | @tag start literal span filling source text tag tags read filled _ ih =>
      refine .tag read (imp span tag filling ⟨literal, source, rfl⟩ List.mem_cons_self filled) ?_
      refine ih fun span' tag' filling' within listed => ?_
      exact imp span' tag' filling' (within.trans (List.suffix_append _ source).isInfix)
        (List.mem_cons_of_mem tag listed)

/-- A splice is one of two stretches of its source, if every tag lies in one of them. -/
theorem Spliced.split {start : Nat} {front back text : Markup} {tags : List TagSpan}
    (h : Spliced fill start (front ++ back) tags text)
    (apart : ∀ tag ∈ tags, tag.stop ≤ start + Text.byteSize front ∨
      start + Text.byteSize front ≤ tag.start) :
    ∃ earlier later text₁ text₂, tags = earlier ++ later ∧ text = text₁ ++ text₂ ∧
      Spliced fill start front earlier text₁ ∧
      Spliced fill (start + Text.byteSize front) back later text₂ := by
  generalize whole : front ++ back = source at h
  induction h generalizing front with
  | plain start literal =>
      subst whole
      exact ⟨[], [], front, back, rfl, rfl, .plain start front, .plain _ back⟩
  | @tag start literal span filling source text tag tags read filled later ih =>
      obtain ⟨first, stop⟩ := Scan.range_of_readSpan read
      obtain ⟨here, others⟩ := List.forall_mem_cons.mp apart
      rcases here with inFront | behind
      · -- the tag is in the first stretch, which ends somewhere behind it
        have ends : Text.byteSize (literal ++ span) ≤ Text.byteSize front := by
          rw [Text.byteSize_append]
          omega
        obtain ⟨rest, rfl, rfl⟩ := Text.exists_of_byteSize_le whole.symm ends
        have place : tag.stop + Text.byteSize rest =
            start + Text.byteSize (literal ++ span ++ rest) := by
          simp only [Text.byteSize_append]
          omega
        rw [← place] at others ⊢
        obtain ⟨earlier, tags', text₁, text₂, rfl, rfl, one, other⟩ := ih others rfl
        exact ⟨tag :: earlier, tags', literal ++ filling ++ text₁, text₂, rfl, by simp,
          .tag read filled one, other⟩
      · have ends : Text.byteSize front ≤ Text.byteSize literal := by omega
        rw [List.append_assoc] at whole
        obtain ⟨rest, rfl, rfl⟩ := Text.exists_of_byteSize_le whole ends
        rw [Text.byteSize_append, ← Nat.add_assoc] at read
        refine ⟨[], tag :: tags, front, rest ++ filling ++ text, rfl, by simp,
          .plain start front, ?_⟩
        rw [← List.append_assoc]
        exact .tag read filled later

/-- A character that no tag begins with stays in front. -/
theorem Spliced.tail {start : Nat} {c : Char} {source text : Markup} {tags : List TagSpan}
    (h : Spliced fill start (c :: source) tags text) (apart : ∀ tag ∈ tags, tag.start ≠ start) :
    ∃ rest, text = c :: rest ∧ Spliced fill (start + c.utf8Size) source tags rest := by
  generalize whole : c :: source = source' at h
  cases h with
  | plain =>
      subst whole
      exact ⟨source, rfl, .plain _ source⟩
  | @tag _ literal span filling source' text tag tags read filled later =>
      obtain ⟨first, -⟩ := Scan.range_of_readSpan read
      cases literal with
      | nil => exact absurd first (apart tag List.mem_cons_self)
      | cons d literal =>
          obtain ⟨rfl, rfl⟩ := List.cons.inj whole
          rw [Text.byteSize_cons, ← Nat.add_assoc] at read
          exact ⟨literal ++ filling ++ text, rfl, .tag read filled later⟩

/-- A character that is in no tag stays between what its two sides become. -/
theorem Spliced.split_at {start : Nat} {c : Char} {front back text : Markup} {tags : List TagSpan}
    (h : Spliced fill start (front ++ c :: back) tags text)
    (positive : ∀ tag ∈ tags, tag.start < tag.stop)
    (untagged : ∀ tag ∈ tags, tag.stop ≤ start + Text.byteSize front ∨
      start + Text.byteSize front < tag.start) :
    ∃ earlier later text₁ text₂, tags = earlier ++ later ∧ text = text₁ ++ c :: text₂ ∧
      Spliced fill start front earlier text₁ ∧
      Spliced fill (start + Text.byteSize (front ++ [c])) back later text₂ := by
  obtain ⟨earlier, later, text₁, rest, rfl, rfl, one, other⟩ :=
    h.split fun tag tagged => (untagged tag tagged).imp_right Nat.le_of_lt
  have apart : ∀ tag ∈ later, tag.start ≠ start + Text.byteSize front := by
    intro tag listed same
    have := positive tag (List.mem_append_right earlier listed)
    have := untagged tag (List.mem_append_right earlier listed)
    omega
  obtain ⟨text₂, rfl, behind⟩ := other.tail apart
  have place : start + Text.byteSize front + c.utf8Size =
      start + Text.byteSize (front ++ [c]) := by
    simp [Nat.add_assoc]
  rw [place] at behind
  exact ⟨earlier, later, text₁, text₂, rfl, rfl, one, behind⟩

/-- Without a tag the source stays as it is. -/
theorem Spliced.eq_of_nil {start : Nat} {source text : Markup}
    (h : Spliced fill start source [] text) : text = source := by
  cases h
  rfl

end Stencil
