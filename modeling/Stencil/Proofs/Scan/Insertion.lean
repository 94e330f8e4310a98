import Stencil.Proofs.Scan.Grammar

/-! # Tags with elements inside

Text processors split typed text over several runs, so elements may stand anywhere in the body of a
tag. A span has no part in how the source around it is cut, and a reader passes over its elements:
a tag is read alike with elements inside and without.

Main statements: `stretches_around`, `Recognised.exists_segments`.
-/

namespace Stencil

section Stretches

variable {kind : TagKind} {body before after : Markup}

private theorem stretches_of_takeSpan? {text span following : Markup}
    (found : takeSpan? text = some (span, following)) :
    stretches text = .span span :: stretches following := by
  cases text with
  | nil => cases found
  | cons c rest =>
      rw [stretches]
      split
      · next found' =>
        rw [found] at found'
        cases found'
        rfl
      · next absent =>
        rw [found] at absent
        cases absent

private theorem stretches_of_takeSpan?_none {c : Char} {rest : Markup}
    (absent : takeSpan? (c :: rest) = none) :
    stretches (c :: rest) =
      .plain (c :: rest.takeWhile (· != '{')) :: stretches (rest.dropWhile (· != '{')) := by
  rw [stretches]
  split
  · next found =>
    rw [absent] at found
    cases found
  · rfl

/-- A span that stands alone behind a text makes no span begin in the text. -/
private theorem takeSpan?_before (free : BraceFree body) (alone : kind.StandsAlone before after)
    (inside : before ≠ []) (absent : takeSpan? before = none) :
    takeSpan? (before ++ kind.enclose body ++ after) = none := by
  cases found : takeSpan? (before ++ kind.enclose body ++ after) with
  | none => rfl
  | some cut =>
      obtain ⟨kind', body', free', spanIs, whole⟩ := enclose_of_takeSpan? found
      rw [spanIs] at whole
      rw [List.append_assoc] at whole
      rcases List.append_eq_append_iff.mp whole.symm with ⟨more, beforeIs, -⟩ | ⟨more, longer, rest⟩
      · rw [beforeIs, takeSpan?_enclose free'] at absent
        cases absent
      · cases more with
        | nil =>
            rw [List.append_nil] at longer
            rw [← longer, ← List.append_nil (kind'.enclose body'), takeSpan?_enclose free'] at absent
            cases absent
        | cons d more =>
            -- the span would end behind the text it begins in
            obtain ⟨image, braces, closed⟩ := inside_of_enclose free free' inside
              (whole.symm.trans (List.append_assoc ..).symm) (by simp [longer])
            exact absurd ⟨by rw [braces]; rfl, closed⟩ (alone image)

private theorem takeWhile_ne_append_brace (front tail : Markup) :
    (front ++ '{' :: tail).takeWhile (· != '{') = front.takeWhile (· != '{') ∧
      (front ++ '{' :: tail).dropWhile (· != '{') =
        front.dropWhile (· != '{') ++ '{' :: tail := by
  induction front with
  | nil => simp
  | cons c front ih =>
      by_cases brace : c = '{'
      · simp [brace]
      · simp [brace, ih.1, ih.2]

/-- A source is cut before a span as if the source ended there, and behind it as if the source began
    there. -/
theorem stretches_around (free : BraceFree body) (alone : kind.StandsAlone before after) :
    stretches (before ++ kind.enclose body ++ after) =
      stretches before ++ .span (kind.enclose body) :: stretches after := by
  fun_induction stretches before with
  | case1 =>
      rw [List.nil_append, List.nil_append]
      exact stretches_of_takeSpan? (takeSpan?_enclose free after)
  | case2 c rest span following found ih =>
      obtain ⟨kind', body', free', rfl, whole⟩ := enclose_of_takeSpan? found
      rw [whole] at alone ⊢
      rw [List.append_assoc, List.append_assoc, stretches_of_takeSpan? (takeSpan?_enclose free' _),
        ← List.append_assoc, ih alone.of_append, List.cons_append]
  | case3 c rest absent ih =>
      obtain ⟨head, headIs⟩ := kind.enclose_head body
      have behind := takeSpan?_before free alone (List.cons_ne_nil c rest) absent
      -- the plain stretch ends at the brace of the span, if no brace ends it before
      have skip := takeWhile_ne_append_brace rest (head ++ after)
      rw [List.append_assoc, List.cons_append] at behind
      rw [← List.cons_append, ← headIs] at skip
      rw [← List.takeWhile_append_dropWhile (p := (· != '{')) (l := rest), ← List.cons_append] at alone
      rw [List.append_assoc, List.cons_append, stretches_of_takeSpan?_none behind, skip.1, skip.2,
        ← List.append_assoc, ih alone.of_append, List.cons_append]

end Stretches

/-- The tag that begins behind a longer text. -/
def TagSpan.moved (size : Nat) (tag : TagSpan) : TagSpan :=
  { tag with start := tag.start + size, stop := tag.stop + size }

/-- The malformed span that begins behind a longer text. -/
def MalformedSpan.moved (size : Nat) (span : MalformedSpan) : MalformedSpan :=
  { span with start := span.start + size, stop := span.stop + size }

/-- The segment that begins behind a longer text. -/
def Segment.moved (size : Nat) : Segment → Segment
  | .literal text => .literal text
  | .tag span => .tag (span.moved size)

namespace Scan

theorem readSpan_add (start size : Nat) (span : Markup) :
    readSpan (start + size) span =
      (readSpan start span).map (TagSpan.moved size) (MalformedSpan.moved size) := by
  rw [readSpan, readSpan]
  split
  · simp only [Sum.map_inl, TagSpan.moved, Nat.add_right_comm]
  · simp only [Sum.map_inr, MalformedSpan.moved, Nat.add_right_comm]

theorem map_moved_prependLiteral (size : Nat) (text : Markup) (segments : List Segment) :
    (prependLiteral text segments).map (Segment.moved size) =
      prependLiteral text (segments.map (Segment.moved size)) := by
  cases segments with
  | nil => rfl
  | cons segment rest => cases segment <;> rfl

/-- The segments of a cut are the same at any place, but for their offsets. -/
theorem segmentsFrom_add (start size : Nat) (cut : List Stretch) :
    segmentsFrom (start + size) cut = (segmentsFrom start cut).map (Segment.moved size) := by
  induction cut generalizing start with
  | nil => rfl
  | cons first cut ih =>
      cases first with
      | plain text =>
          rw [segmentsFrom, segmentsFrom, Nat.add_right_comm, ih, map_moved_prependLiteral]
      | span text =>
          rw [segmentsFrom, segmentsFrom, Nat.add_right_comm, ih, readSpan_add]
          cases readSpan start text with
          | inl tag => rfl
          | inr invalid => exact (map_moved_prependLiteral size text _).symm

theorem prependLiteral_append_tag (text : Markup) (front back : List Segment) (tag : TagSpan) :
    prependLiteral text (front ++ .tag tag :: back) = prependLiteral text front ++ .tag tag :: back := by
  cases front with
  | nil => rfl
  | cons segment rest => cases segment <;> rfl

/-- A tag stands between the segments of what is before it and of what is behind it. -/
theorem segmentsFrom_append_tag {start : Nat} {front back : List Stretch} {span : Markup}
    {tag : TagSpan}
    (read : readSpan (start + Text.byteSize (front.flatMap Stretch.text)) span = .inl tag) :
    segmentsFrom start (front ++ .span span :: back) =
      segmentsFrom start front ++ .tag tag :: segmentsFrom tag.stop back := by
  induction front generalizing start with
  | nil =>
      have read : readSpan start span = .inl tag := read
      simp only [List.nil_append, segmentsFrom, read, (range_of_readSpan read).2, Stretch.text]
  | cons first front ih =>
      rw [List.flatMap_cons, Text.byteSize_append, ← Nat.add_assoc] at read
      cases first with
      | plain text =>
          rw [List.cons_append, segmentsFrom, segmentsFrom, ih read, prependLiteral_append_tag]
      | span text =>
          rw [List.cons_append, segmentsFrom, segmentsFrom, ih read]
          cases readSpan start text with
          | inl other => rfl
          | inr invalid => exact prependLiteral_append_tag ..

end Scan

/-- A text with elements inserted at any places, none of which has a brace. -/
inductive Inserted : (elements : List Markup) → (text changed : Markup) → Prop where
  | nil : Inserted [] [] []
  | keep {elements text changed} (c : Char) (later : Inserted elements text changed) :
      Inserted elements (c :: text) (c :: changed)
  | element {elements text changed} (element : Markup) (isElement : Markup.IsElement element)
      (free : BraceFree element) (later : Inserted elements text changed) :
      Inserted (element :: elements) text (element ++ changed)

namespace Inserted

variable {elements : List Markup} {text changed : Markup}

theorem many {more : List Markup}
    (inner : ∀ element ∈ more, Markup.IsElement element ∧ BraceFree element)
    (later : Inserted elements text changed) :
    Inserted (more ++ elements) text (more.flatten ++ changed) := by
  induction more with
  | nil => exact later
  | cons first rest ih =>
      rw [List.forall_mem_cons] at inner
      rw [List.flatten_cons, List.append_assoc]
      exact .element first inner.1.1 inner.1.2 (ih inner.2)

/-- What is inserted into a text without angle brackets are the elements of the changed text, and the
    rest is what a reader sees. -/
theorem elements_visible (inserted : Inserted elements text changed) (plain : Markup.Plain text) :
    Markup.elements changed = elements ∧ Markup.visible changed = text := by
  induction inserted with
  | nil => exact ⟨Markup.elements_nil, Markup.visible_nil⟩
  | @keep elements text changed c _ ih =>
      rw [Markup.Plain, List.forall_mem_cons] at plain
      have none : Markup.takeElement? (c :: changed) = none := by
        refine Markup.takeElement?_eq_none.mpr ?_
        rintro rfl
        exact absurd plain.1 (by decide)
      rw [Markup.elements_of_plain none, Markup.visible_of_plain none, (ih plain.2).1, (ih plain.2).2]
      exact ⟨rfl, rfl⟩
  | element element isElement _ _ ih =>
      rw [Markup.elements_of_isElement isElement, Markup.visible_of_isElement isElement,
        (ih plain).1, (ih plain).2]
      exact ⟨rfl, rfl⟩

theorem braceFree (inserted : Inserted elements text changed) (free : BraceFree text) :
    BraceFree changed := by
  induction inserted with
  | nil => exact free
  | keep c _ ih =>
      rw [BraceFree, List.forall_mem_cons] at free ⊢
      exact ⟨free.1, ih free.2⟩
  | element element _ inner _ ih => exact List.forall_mem_append.mpr ⟨inner, ih free⟩

theorem byteSize_eq (inserted : Inserted elements text changed) :
    Text.byteSize changed = Text.byteSize text + Text.byteSize elements.flatten := by
  induction inserted with
  | nil => rfl
  | keep c _ ih => simp only [Text.byteSize_cons, ih, Nat.add_assoc]
  | element element _ _ _ ih =>
      simp only [Text.byteSize_append, List.flatten_cons, ih, Nat.add_left_comm]

end Inserted

theorem Inserted.byteSize_enclose {elements : List Markup} {body changed : Markup}
    (inserted : Inserted elements body changed) (kind : TagKind) :
    Text.byteSize (kind.enclose changed) =
      Text.byteSize (kind.enclose body) + Text.byteSize elements.flatten := by
  obtain ⟨opening, closing, -, -, spelled⟩ := kind.exists_delimiters
  simp only [spelled, Text.byteSize_append, inserted.byteSize_eq]
  omega

/-- The tag with elements inside. -/
def TagSpan.holding (elements : List Markup) (tag : TagSpan) : TagSpan :=
  { tag with stop := tag.stop + Text.byteSize elements.flatten, markup := elements }

namespace Scan

variable {kind : TagKind} {elements : List Markup} {body changed : Markup} {tag : TagSpan}

/-- A tag is read alike with elements inside. -/
theorem readSpan_inserted {start : Nat} (read : readSpan start (kind.enclose body) = .inl tag)
    (plain : Markup.Plain body) (inserted : Inserted elements body changed) :
    readSpan start (kind.enclose changed) = .inl (tag.holding elements) := by
  obtain ⟨held, seen⟩ := inserted.elements_visible plain
  rw [readSpan, visible_enclose, Markup.visible_of_inner plain] at read
  rw [readSpan, visible_enclose, seen, elements_enclose, held, inserted.byteSize_enclose]
  split at read
  · next named =>
    cases read
    simp only [named, if_true, TagSpan.holding, Nat.add_assoc]
  · cases read

end Scan

/-- A tag that is recognised between two texts. -/
structure Recognised (before : Markup) (kind : TagKind) (body after : Markup) (tag : TagSpan) : Prop
    where
  listed : tag ∈ (scan (before ++ kind.enclose body ++ after)).tags
  start : tag.start = Text.byteSize before
  stop : tag.stop = Text.byteSize (before ++ kind.enclose body)

theorem TagKind.enclose_injective {kind kind' : TagKind} {body body' : Markup}
    (same : kind.enclose body = kind'.enclose body') : kind = kind' ∧ body = body' := by
  cases kind <;> cases kind' <;> simp_all [TagKind.enclose]

namespace Recognised

variable {kind : TagKind} {elements : List Markup} {before body changed after : Markup} {tag : TagSpan}

/-- A recognised tag is read from its span, and the span stands where a search would begin. -/
theorem readSpan_eq (h : Recognised before kind body after tag) :
    Scan.readSpan (Text.byteSize before) (kind.enclose body) = .inl tag ∧ BraceFree body ∧
      kind.StandsAlone before after := by
  obtain ⟨before', span, after', cut, read⟩ := Scan.mem_readsFrom.mp (Scan.mem_tags.mp h.listed)
  obtain ⟨kind', body', free, rfl, whole, alone⟩ := cutAt_stretches.mp cut
  rw [Nat.zero_add] at read
  obtain ⟨start, stop⟩ := Scan.range_of_readSpan read
  -- offsets tell the texts around the span, and these tell its kind and its body
  have sameStart : Text.byteSize before = Text.byteSize before' := h.start.symm.trans start
  rw [List.append_assoc, List.append_assoc] at whole
  obtain ⟨rfl, rest⟩ := Text.append_inj_of_byteSize whole sameStart
  have sameSize : Text.byteSize (kind.enclose body) = Text.byteSize (kind'.enclose body') := by
    rw [h.stop, Text.byteSize_append] at stop
    exact Nat.add_left_cancel stop
  obtain ⟨sameSpan, rfl⟩ := Text.append_inj_of_byteSize rest sameSize
  obtain ⟨rfl, rfl⟩ := TagKind.enclose_injective sameSpan
  exact ⟨read, free, alone⟩

/-- A recognised tag stands between the segments of what is before it and of what is behind it. -/
theorem segments_eq (h : Recognised before kind body after tag) :
    (scan (before ++ kind.enclose body ++ after)).segments =
      (scan before).segments ++ .tag tag :: (scan after).segments.map (Segment.moved tag.stop) := by
  obtain ⟨read, free, alone⟩ := h.readSpan_eq
  have placed : Scan.readSpan (0 + Text.byteSize ((stretches before).flatMap Stretch.text))
      (kind.enclose body) = .inl tag := by
    rw [flatMap_text_stretches, Nat.zero_add, read]
  have behind := Scan.segmentsFrom_add 0 tag.stop (stretches after)
  rw [Nat.zero_add] at behind
  simp only [scan, stretches_around free alone, Scan.segmentsFrom_append_tag placed, behind]

theorem holding (h : Recognised before kind body after tag) (plain : Markup.Plain body)
    (inserted : Inserted elements body changed) :
    Recognised before kind changed after (tag.holding elements) := by
  obtain ⟨read, free, alone⟩ := h.readSpan_eq
  constructor
  case listed =>
    have stands : StandsIn (before ++ kind.enclose changed ++ after) before (kind.enclose changed)
        after := ⟨kind, changed, inserted.braceFree free, rfl, rfl, alone⟩
    refine Scan.mem_tags.mpr (Scan.mem_readsFrom.mpr
      ⟨before, _, after, cutAt_stretches.mpr stands, ?_⟩)
    rw [Nat.zero_add]
    exact Scan.readSpan_inserted read plain inserted
  case start => exact h.start
  case stop =>
    simp only [TagSpan.holding, h.stop, Text.byteSize_append, inserted.byteSize_enclose,
      Nat.add_assoc]

/-- Elements inside a recognised tag move the segments behind it and change no others. -/
theorem segments_holding (h : Recognised before kind body after tag) (plain : Markup.Plain body)
    (inserted : Inserted elements body changed) :
    (scan (before ++ kind.enclose changed ++ after)).segments =
      (scan before).segments ++ .tag (tag.holding elements) ::
        ((scan after).segments.map (Segment.moved tag.stop)).map
          (Segment.moved (Text.byteSize elements.flatten)) := by
  have twice : ∀ segment : Segment, segment.moved (tag.holding elements).stop =
      (segment.moved tag.stop).moved (Text.byteSize elements.flatten) := by
    rintro (text | span)
    · rfl
    · simp only [Segment.moved, TagSpan.moved, TagSpan.holding, Nat.add_assoc]
  rw [(h.holding plain inserted).segments_eq, List.map_map]
  exact congrArg _ (congrArg _ (List.map_congr_left fun segment _ => twice segment))

end Recognised

end Stencil
