import Stencil.Proofs.Markup.Elements
import Stencil.Proofs.Scan.Spans
import Stencil.Proofs.Text.Search

/-! # The grammar of tags

What a scan reports is told by the source alone, without regard to the order of the search: a
range is reported exactly when a span stands there, as a tag when the span names an identifier
and as malformed otherwise.
-/

namespace Stencil

/-- What a reader sees of a body: the elements are passed over, and an image tag may have a
    percent sign at its end. -/
def TagKind.spoken : TagKind → Markup → List Char
  | .text, body => Markup.visible body
  | .image, body => Text.dropTail ['%'] (Text.trimEnd (Markup.visible body))

/-- What a reader takes for the name in a body. A colon ends it. -/
def TagKind.nameIn (kind : TagKind) (body : Markup) : List Char :=
  Text.trim ((Text.trim (kind.spoken body)).takeWhile (· ≠ ':'))

/-- A span of a kind with a body stands in the source, from byte `start` up to byte `stop`. -/
def SpanAt (source : Markup) (start stop : Nat) (kind : TagKind) (body : Markup) : Prop :=
  ∃ before after, source = before ++ kind.enclose body ++ after ∧ BraceFree body ∧
    kind.StandsAlone before after ∧ start = Text.byteSize before ∧
    stop = start + Text.byteSize (kind.enclose body)

/-- A span is its body between delimiters without angle brackets. -/
theorem TagKind.exists_delimiters (kind : TagKind) :
    ∃ opening closing, Markup.Plain opening ∧ Markup.Plain closing ∧
      ∀ body, kind.enclose body = opening ++ (body ++ closing) := by
  cases kind with
  | text => exact ⟨['{', '{'], ['}', '}'], by decide, by decide, fun _ => rfl⟩
  | image => exact ⟨['{', '%'], ['}'], by decide, by decide, fun _ => rfl⟩

/-- The delimiters of a span are seen as they are. -/
theorem visible_enclose (kind : TagKind) (body : Markup) :
    Markup.visible (kind.enclose body) = kind.enclose (Markup.visible body) := by
  obtain ⟨opening, closing, opens, closes, spelled⟩ := kind.exists_delimiters
  rw [spelled, spelled, Markup.visible_append (Markup.not_spans_of_plain_left opens _),
    Markup.visible_append (Markup.not_spans_of_plain_right _ closes), Markup.visible_of_inner opens,
    Markup.visible_of_inner closes]

/-- The delimiters of a span have no part in its elements. -/
theorem elements_enclose (kind : TagKind) (body : Markup) :
    Markup.elements (kind.enclose body) = Markup.elements body := by
  obtain ⟨opening, closing, opens, closes, spelled⟩ := kind.exists_delimiters
  rw [spelled, Markup.elements_append (Markup.not_spans_of_plain_left opens _),
    Markup.elements_append (Markup.not_spans_of_plain_right _ closes),
    Markup.elements_of_inner opens, Markup.elements_of_inner closes, List.nil_append,
    List.append_nil]

namespace Tag

theorem trim_enclose (kind : TagKind) (body : Markup) :
    Text.trim (kind.enclose body) = kind.enclose body := by
  obtain ⟨rest, headIs⟩ := kind.enclose_head body
  exact Text.trim_of_ends (by rw [headIs]; rfl) (kind.getLast?_enclose body) (by decide) (by decide)

theorem undelimited_enclose (kind : TagKind) (body : Markup) :
    undelimited (kind.enclose (Markup.visible body)) = (kind, kind.spoken body) := by
  cases kind with
  | text =>
      have image : Text.dropLead? (opening .image) (TagKind.text.enclose (Markup.visible body)) =
          none := by
        rw [Text.dropLead?_eq_none]
        simp [opening, TagKind.enclose]
      have text : Text.dropLead? (opening .text) (TagKind.text.enclose (Markup.visible body)) =
          some (Markup.visible body ++ closing .text) := Text.dropLead?_eq_some.mpr rfl
      rw [undelimited, image, text]
      exact congrArg (Prod.mk TagKind.text) (Text.dropTail_append _ _)
  | image =>
      have image : Text.dropLead? (opening .image) (TagKind.image.enclose (Markup.visible body)) =
          some (Markup.visible body ++ ['}']) := Text.dropLead?_eq_some.mpr rfl
      rw [undelimited, image]
      simp only [Text.dropTail_append, TagKind.spoken]

theorem identifier_parse (raw : List Char) :
    (parse raw).identifier.toList =
      Text.trim ((undelimited (Text.trim raw)).2.takeWhile (· ≠ ':')) := by
  rw [parse]
  obtain ⟨kind, body⟩ := undelimited (Text.trim raw)
  simp only [Text.splitFirst?_eq]
  cases rest : body.dropWhile (· ≠ ':') with
  | nil =>
      have whole := List.takeWhile_append_dropWhile (p := (· ≠ ':')) (l := body)
      rw [rest, List.append_nil] at whole
      simp only [whole, String.toList_ofList]
  | cons c after => simp only [String.toList_ofList]

/-- The identifier of a tag is the name that is read in its body. -/
theorem identifier_parse_enclose (kind : TagKind) (body : Markup) :
    (parse (Markup.visible (kind.enclose body))).identifier.toList = kind.nameIn body := by
  have colon : ∀ c, Text.isBlank c → decide (c ≠ ':') := by
    rintro c blank
    refine decide_eq_true ?_
    rintro rfl
    exact absurd blank (by decide)
  rw [identifier_parse, visible_enclose, trim_enclose, undelimited_enclose, TagKind.nameIn,
    Text.trim_takeWhile_trim colon]

end Tag

/-- The place of a span is where its text stands, and one span stands there. -/
theorem SpanAt.unique {source : Markup} {start stop : Nat} {kind kind' : TagKind}
    {body body' : Markup} (h : SpanAt source start stop kind body)
    (h' : SpanAt source start stop kind' body') : kind.enclose body = kind'.enclose body' := by
  obtain ⟨before, after, whole, free, -, place, -⟩ := h
  obtain ⟨before', after', whole', free', -, place', -⟩ := h'
  rw [whole, List.append_assoc, List.append_assoc] at whole'
  obtain ⟨-, rest⟩ := Text.append_inj_of_byteSize whole' (place.symm.trans place')
  exact (enclose_inj free free' rest).1

theorem markup_of_readSpan {start : Nat} {span : Markup} {tag : TagSpan}
    (h : Scan.readSpan start span = .inl tag) : tag.markup = Markup.elements span := by
  rw [Scan.readSpan] at h
  split at h
  · cases h
    rfl
  · cases h

namespace Scan

/-- Whether a tag is recognised in the range. -/
def ReportsTag (scan : Scan) (start stop : Nat) : Prop :=
  ∃ tag ∈ scan.tags, tag.start = start ∧ tag.stop = stop

/-- Whether the range is reported for what it names. -/
def ReportsInvalid (scan : Scan) (start stop : Nat) : Prop :=
  ∃ span ∈ scan.malformed, span.defect = .invalidIdentifier ∧ span.start = start ∧
    span.stop = stop

@[simp] theorem filterMap_tag?_prependLiteral (text : Markup) (segments : List Segment) :
    (prependLiteral text segments).filterMap Segment.tag? = segments.filterMap Segment.tag? := by
  cases segments with
  | nil => rfl
  | cons segment rest => cases segment <;> rfl

/-- What the spans of a cut are read as, in order, the first stretch being at `start`. -/
def readsFrom (start : Nat) : List Stretch → List (TagSpan ⊕ MalformedSpan)
  | [] => []
  | .plain text :: rest => readsFrom (start + Text.byteSize text) rest
  | .span text :: rest => readSpan start text :: readsFrom (start + Text.byteSize text) rest

theorem tags_segmentsFrom (start : Nat) (cut : List Stretch) :
    (segmentsFrom start cut).filterMap Segment.tag? =
      (readsFrom start cut).filterMap Sum.getLeft? := by
  induction cut generalizing start with
  | nil => rfl
  | cons first cut ih =>
      cases first with
      | plain text =>
          rw [segmentsFrom, filterMap_tag?_prependLiteral, ih]
          rfl
      | span text =>
          rw [segmentsFrom, readsFrom]
          cases readSpan start text with
          | inl tag => simp [Segment.tag?, ih, Stretch.text]
          | inr invalid => simp [List.filterMap_cons, ih, Stretch.text]

theorem invalidFrom_eq (start : Nat) (cut : List Stretch) :
    invalidFrom start cut = (readsFrom start cut).filterMap Sum.getRight? := by
  induction cut generalizing start with
  | nil => rfl
  | cons first cut ih =>
      cases first with
      | plain text => exact ih _
      | span text =>
          rw [invalidFrom, readsFrom]
          cases readSpan start text with
          | inl tag => simp [List.filterMap_cons, ih, Stretch.text]
          | inr invalid => simp [ih, Stretch.text]

/-- Every span of a cut is read at its place. -/
theorem mem_readsFrom {start : Nat} {cut : List Stretch} {reading : TagSpan ⊕ MalformedSpan} :
    reading ∈ readsFrom start cut ↔
      ∃ before span after, CutAt cut before span after ∧
        readSpan (start + Text.byteSize before) span = reading := by
  induction cut generalizing start with
  | nil =>
      refine iff_of_false (by simp [readsFrom]) ?_
      rintro ⟨before, span, after, none, -⟩
      exact cutAt_nil none
  | cons first cut ih =>
      have later : (∃ before span after, (∃ rest, before = first.text ++ rest ∧
            CutAt cut rest span after) ∧ readSpan (start + Text.byteSize before) span = reading) ↔
          reading ∈ readsFrom (start + Text.byteSize first.text) cut := by
        rw [ih]
        constructor
        · rintro ⟨_, span, after, ⟨rest, rfl, inside⟩, read⟩
          exact ⟨rest, span, after, inside, by rwa [Text.byteSize_append, ← Nat.add_assoc] at read⟩
        · rintro ⟨rest, span, after, inside, read⟩
          exact ⟨_, span, after, ⟨rest, rfl, inside⟩,
            by rwa [Text.byteSize_append, ← Nat.add_assoc]⟩
      simp only [cutAt_cons, or_and_right, exists_or, later]
      cases first with
      | plain text => simp [readsFrom, Stretch.text]
      | span text => simp [readsFrom, Stretch.text, eq_comm]

theorem mem_tags {source : Markup} {tag : TagSpan} :
    tag ∈ (scan source).tags ↔ .inl tag ∈ readsFrom 0 (stretches source) := by
  rw [tags, scan, tags_segmentsFrom, List.mem_filterMap]
  simp

theorem defect_of_unterminated {covered : List (Nat × Nat)} {source : Markup}
    {span : MalformedSpan} (h : span ∈ unterminated covered source) :
    span.defect = .unterminated := by
  rw [unterminated, List.mem_filterMap] at h
  obtain ⟨⟨start, rest⟩, -, same⟩ := h
  simp only [Option.ite_none_left_eq_some, Option.some.injEq] at same
  rw [← same.2]

theorem defect_of_readSpan {start : Nat} {span : Markup} {invalid : MalformedSpan}
    (h : readSpan start span = .inr invalid) : invalid.defect = .invalidIdentifier := by
  rw [readSpan] at h
  split at h
  · cases h
  · rw [← Sum.inr.inj h]

theorem mem_malformed {source : Markup} {span : MalformedSpan} :
    span ∈ (scan source).malformed ∧ span.defect = .invalidIdentifier ↔
      .inr span ∈ readsFrom 0 (stretches source) := by
  have listed : span ∈ invalidFrom 0 (stretches source) ↔
      .inr span ∈ readsFrom 0 (stretches source) := by
    rw [invalidFrom_eq, List.mem_filterMap]
    simp
  rw [scan, List.mem_mergeSort, List.mem_append, listed]
  constructor
  · rintro ⟨invalid | unterminated, defect⟩
    · exact invalid
    · rw [defect_of_unterminated unterminated] at defect
      cases defect
  · intro invalid
    refine ⟨.inl invalid, ?_⟩
    obtain ⟨_, _, _, _, read⟩ := mem_readsFrom.mp invalid
    exact defect_of_readSpan read

/-- The range that a span is read in. -/
def rangeOf : TagSpan ⊕ MalformedSpan → Nat × Nat
  | .inl tag => (tag.start, tag.stop)
  | .inr span => (span.start, span.stop)

theorem rangeOf_readSpan (start : Nat) (span : Markup) :
    rangeOf (readSpan start span) = (start, start + Text.byteSize span) := by
  rw [readSpan]
  split <;> rfl

/-- The range of a tag is where its span is read. -/
theorem range_of_readSpan {start : Nat} {span : Markup} {tag : TagSpan}
    (read : readSpan start span = .inl tag) :
    tag.start = start ∧ tag.stop = start + Text.byteSize span := by
  have range := rangeOf_readSpan start span
  rw [read] at range
  exact Prod.mk.inj range

theorem isLeft_readSpan (start : Nat) (kind : TagKind) (body : Markup) :
    (readSpan start (kind.enclose body)).isLeft = isIdentifier (kind.nameIn body) := by
  rw [← Tag.identifier_parse_enclose, readSpan]
  split
  · next named => exact named.symm
  · next unnamed => exact (Bool.eq_false_iff.mpr unnamed).symm

/-- The spans that are read in a source are those that stand there. -/
theorem exists_mem_readsFrom {source : Markup} {start stop : Nat} {named : Bool} :
    (∃ reading ∈ readsFrom 0 (stretches source),
        reading.isLeft = named ∧ rangeOf reading = (start, stop)) ↔
      ∃ kind body, SpanAt source start stop kind body ∧
        isIdentifier (TagKind.nameIn kind body) = named := by
  constructor
  · rintro ⟨_, mem, left, range⟩
    obtain ⟨before, _, after, cut, rfl⟩ := mem_readsFrom.mp mem
    obtain ⟨kind, body, free, rfl, whole, alone⟩ := cutAt_stretches.mp cut
    rw [rangeOf_readSpan, Nat.zero_add, Prod.mk.injEq] at range
    rw [isLeft_readSpan] at left
    obtain ⟨rfl, rfl⟩ := range
    exact ⟨kind, body, ⟨before, after, whole, free, alone, rfl, rfl⟩, left⟩
  · rintro ⟨kind, body, ⟨before, after, whole, free, alone, rfl, rfl⟩, left⟩
    refine ⟨readSpan (Text.byteSize before) (kind.enclose body), mem_readsFrom.mpr ?_, ?_, ?_⟩
    · exact ⟨before, _, after, cutAt_stretches.mpr ⟨kind, body, free, rfl, whole, alone⟩,
        by rw [Nat.zero_add]⟩
    · rw [isLeft_readSpan, left]
    · rw [rangeOf_readSpan]

theorem reportsTag_iff {source : Markup} {start stop : Nat} :
    (scan source).ReportsTag start stop ↔
      ∃ kind body, SpanAt source start stop kind body ∧
        isIdentifier (TagKind.nameIn kind body) = true := by
  rw [← exists_mem_readsFrom]
  constructor
  · rintro ⟨tag, mem, rfl, rfl⟩
    exact ⟨.inl tag, mem_tags.mp mem, rfl, rfl⟩
  · rintro ⟨tag | span, mem, left, range⟩
    · obtain ⟨rfl, rfl⟩ := Prod.mk.inj range
      exact ⟨tag, mem_tags.mpr mem, rfl, rfl⟩
    · cases left

theorem reportsInvalid_iff {source : Markup} {start stop : Nat} :
    (scan source).ReportsInvalid start stop ↔
      ∃ kind body, SpanAt source start stop kind body ∧
        isIdentifier (TagKind.nameIn kind body) = false := by
  rw [← exists_mem_readsFrom]
  constructor
  · rintro ⟨span, mem, defect, rfl, rfl⟩
    exact ⟨.inr span, mem_malformed.mp ⟨mem, defect⟩, rfl, rfl⟩
  · rintro ⟨tag | span, mem, left, range⟩
    · cases left
    · obtain ⟨rfl, rfl⟩ := Prod.mk.inj range
      obtain ⟨listed, defect⟩ := mem_malformed.mpr mem
      exact ⟨span, listed, defect, rfl, rfl⟩

end Scan

/-- A scan reports the ranges where spans stand and no others: as tags those that name an
    identifier, as malformed the rest. -/
theorem scan_reports_grammar (source : Markup) (start stop : Nat) :
    ((scan source).ReportsTag start stop ∨ (scan source).ReportsInvalid start stop ↔
      ∃ kind body, SpanAt source start stop kind body) ∧
    ((scan source).ReportsTag start stop ↔
      ∃ kind body, SpanAt source start stop kind body ∧ isIdentifier (kind.nameIn body) = true) ∧
    ((scan source).ReportsInvalid start stop ↔
      (∃ kind body, SpanAt source start stop kind body) ∧
        ¬ (scan source).ReportsTag start stop) := by
  rw [Scan.reportsTag_iff, Scan.reportsInvalid_iff]
  refine ⟨⟨?_, ?_⟩, Iff.rfl, ⟨?_, ?_⟩⟩
  · rintro (⟨kind, body, stands, -⟩ | ⟨kind, body, stands, -⟩)
    · exact ⟨kind, body, stands⟩
    · exact ⟨kind, body, stands⟩
  · rintro ⟨kind, body, stands⟩
    cases named : isIdentifier (kind.nameIn body) with
    | true => exact .inl ⟨kind, body, stands, named⟩
    | false => exact .inr ⟨kind, body, stands, named⟩
  · rintro ⟨kind, body, stands, unnamed⟩
    refine ⟨⟨kind, body, stands⟩, ?_⟩
    rintro ⟨kind', body', stands', named⟩
    -- only one span stands in the range, and it is read in one way
    have same := Scan.isLeft_readSpan start kind body
    rw [stands.unique stands', Scan.isLeft_readSpan, named, unnamed] at same
    cases same
  · rintro ⟨⟨kind, body, stands⟩, unread⟩
    refine ⟨kind, body, stands, Bool.eq_false_iff.mpr fun named => ?_⟩
    exact unread ⟨kind, body, stands, named⟩

end Stencil
