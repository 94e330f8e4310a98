import Stencil.Proofs.Scan.Order

/-! # Openers without a span

Openers are searched for apart from spans, from the left and without overlap, and an opener is
reported unless its first character lies in a span. So an opener that a span follows at once is
reported although its second character opens that span.

Main statements: every reported opener begins outside of all spans, and every opener outside of
all spans is reported, or one that begins a character before it.
-/

namespace Stencil

/-- A text stands in the source from byte `start` up to byte `stop`. As no character is cut, both
    are borders of characters. -/
def TextAt (source : Markup) (start stop : Nat) (text : Markup) : Prop :=
  ∃ before after, source = before ++ text ++ after ∧ start = Text.byteSize before ∧
    stop = start + Text.byteSize text

/-- An opening delimiter stands in the source at byte `start`. -/
def OpenerAt (source : Markup) (start : Nat) : Prop :=
  ∃ kind, TextAt source start (start + 2) (Tag.opening kind)

namespace Scan

/-- Whether a range is that of a tag or of a span that names no identifier. -/
def Reports (scan : Scan) (start stop : Nat) : Prop :=
  scan.ReportsTag start stop ∨ scan.ReportsInvalid start stop

/-- Whether the byte lies in a tag or in a span that names no identifier. -/
def Covers (scan : Scan) (offset : Nat) : Prop :=
  ∃ start stop, scan.Reports start stop ∧ start ≤ offset ∧ offset < stop

/-- A text up to its first brace, which ends the part that has none. -/
private theorem exists_before_brace {source rest : Markup} {brace : Char}
    (cut : source.dropWhile (· != '{') = brace :: rest) :
    ∃ plain, source.takeWhile (· != '{') = plain ∧ '{' ∉ plain ∧ brace = '{' ∧
      source = plain ++ '{' :: rest := by
  have whole := List.takeWhile_append_dropWhile (p := (· != '{')) (l := source)
  have first : brace = '{' := by
    have stops := List.head_dropWhile_not (· != '{') (l := source) (by simp [cut])
    simpa [cut] using stops
  rw [cut, first] at whole
  refine ⟨_, rfl, fun mem => ?_, first, whole.symm⟩
  have passed := List.all_eq_true.mp (List.all_takeWhile (p := (· != '{'))) '{' mem
  simp at passed

/-- An opener is found where one stands, with the source from there on. -/
theorem of_mem_openersFrom {start place : Nat} {source rest : Markup}
    (found : (place, rest) ∈ openersFrom start source) :
    ∃ before kind after, source = before ++ rest ∧ rest = Tag.opening kind ++ after ∧
      place = start + Text.byteSize before := by
  have brace : ('{' : Char).utf8Size = 1 := rfl
  fun_induction openersFrom start source with
  | case1 | case2 => cases found
  | case3 start source _ opener c after cut opens _ ih =>
      obtain ⟨plain, run, -, rfl, whole⟩ := exists_before_brace cut
      rcases List.mem_cons.mp found with here | later
      · obtain ⟨rfl, rfl⟩ := Prod.mk.inj here
        refine ⟨plain, if c = '{' then .text else .image, after, whole, ?_, by rw [← run]⟩
        rcases opens with rfl | rfl <;> rfl
      · obtain ⟨before, kind, behind, rfl, restIs, rfl⟩ := ih later
        refine ⟨plain ++ '{' :: c :: before, kind, behind, by simp [whole], restIs, ?_⟩
        have size : c.utf8Size = 1 := by rcases opens with rfl | rfl <;> rfl
        simp only [opener, run, Text.byteSize_append, Text.byteSize_cons, size, brace]
        omega
  | case4 start source _ opener c after cut _ _ ih =>
      obtain ⟨plain, run, -, rfl, whole⟩ := exists_before_brace cut
      obtain ⟨before, kind, behind, afterIs, restIs, rfl⟩ := ih found
      refine ⟨plain ++ '{' :: before, kind, behind, by simp [whole, afterIs], restIs, ?_⟩
      simp only [opener, run, Text.byteSize_append, Text.byteSize_cons, brace]
      omega

/-- An opener behind a first brace is that brace and the next character, or one that begins behind
    the brace. -/
private theorem opener_behind_brace {plain tail before after : Markup} {kind : TagKind}
    (free : '{' ∉ plain)
    (stands : plain ++ '{' :: tail = before ++ (Tag.opening kind ++ after)) :
    (before = plain ∧ '{' :: tail = Tag.opening kind ++ after) ∨
      ∃ more, before = plain ++ '{' :: more ∧ tail = more ++ (Tag.opening kind ++ after) := by
  rcases List.append_eq_append_iff.mp stands with ⟨more, beforeIs, rest⟩ | ⟨more, plainIs, rest⟩
  · cases more with
    | nil => exact .inl ⟨by simpa using beforeIs, by simpa using rest⟩
    | cons c more =>
        simp only [List.cons_append, List.cons.injEq] at rest
        obtain ⟨rfl, rest⟩ := rest
        exact .inr ⟨more, beforeIs, rest⟩
  · cases more with
    | nil => exact .inl ⟨by simpa using plainIs.symm, by simpa using rest.symm⟩
    | cons c more =>
        have first : c = '{' := by
          cases kind <;> simpa [Tag.opening] using (congrArg List.head? rest).symm
        exact absurd (by simp [plainIs, first]) free

/-- Where an opener stands, it is found, or one is found that begins a character before it. -/
theorem exists_mem_openersFrom {start : Nat} {source after : Markup} {kind : TagKind} :
    ∀ {before : Markup}, source = before ++ (Tag.opening kind ++ after) →
      ∃ opener ∈ openersFrom start source, opener.1 = start + Text.byteSize before ∨
        opener.1 + 1 = start + Text.byteSize before := by
  have brace : ('{' : Char).utf8Size = 1 := rfl
  fun_induction openersFrom start source with
  | case1 start source cut =>
      intro before stands
      have listed : '{' ∈ source := by cases kind <;> simp [stands, Tag.opening]
      have braceless := List.dropWhile_eq_nil_iff.mp cut '{' listed
      simp at braceless
  | case2 start source c _ cut =>
      intro before stands
      obtain ⟨plain, -, free, rfl, whole⟩ := exists_before_brace cut
      rcases opener_behind_brace free (whole.symm.trans stands) with
        ⟨-, opens⟩ | ⟨more, -, restIs⟩
      · cases kind <;> simp [Tag.opening] at opens
      · cases kind <;> simp [Tag.opening] at restIs
  | case3 start source _ opener c rest cut opens _ =>
      rename_i ih
      intro before stands
      obtain ⟨plain, run, free, rfl, whole⟩ := exists_before_brace cut
      have place : opener = start + Text.byteSize plain := by rw [← run]
      rcases opener_behind_brace free (whole.symm.trans stands) with
        ⟨rfl, -⟩ | ⟨more, rfl, restIs⟩
      · exact ⟨_, List.mem_cons_self, .inl place⟩
      · cases more with
        | nil =>
            refine ⟨_, List.mem_cons_self, .inr ?_⟩
            simp only [Text.byteSize_append, Text.byteSize_cons, Text.byteSize_nil, brace]
            omega
        | cons d more =>
            simp only [List.cons_append, List.cons.injEq] at restIs
            obtain ⟨rfl, restIs⟩ := restIs
            obtain ⟨found, mem, near⟩ := ih restIs
            refine ⟨found, List.mem_cons_of_mem _ mem, ?_⟩
            have size : c.utf8Size = 1 := by rcases opens with rfl | rfl <;> rfl
            simp only [Text.byteSize_append, Text.byteSize_cons, size, brace]
            omega
  | case4 start source _ opener c rest cut isPlain _ =>
      rename_i ih
      intro before stands
      obtain ⟨plain, run, free, rfl, whole⟩ := exists_before_brace cut
      have place : opener = start + Text.byteSize plain := by rw [← run]
      rcases opener_behind_brace free (whole.symm.trans stands) with
        ⟨rfl, opens⟩ | ⟨more, rfl, restIs⟩
      · refine absurd ?_ isPlain
        cases kind <;> simp_all [Tag.opening]
      · obtain ⟨found, mem, near⟩ := ih restIs
        refine ⟨found, mem, ?_⟩
        simp only [Text.byteSize_append, Text.byteSize_cons, brace]
        omega

/-- The byte ranges that openers are not reported in. -/
def covered (source : Markup) : List (Nat × Nat) :=
  (scan source).tags.map (fun tag => (tag.start, tag.stop)) ++
    (invalidFrom 0 (stretches source)).map fun span => (span.start, span.stop)

theorem mem_invalidFrom {source : Markup} {span : MalformedSpan} :
    span ∈ invalidFrom 0 (stretches source) ↔
      span ∈ (scan source).malformed ∧ span.defect = .invalidIdentifier := by
  rw [mem_malformed, invalidFrom_eq, List.mem_filterMap]
  simp

theorem mem_covered {source : Markup} {start stop : Nat} :
    (start, stop) ∈ covered source ↔ (scan source).Reports start stop := by
  simp only [covered, List.mem_append, List.mem_map, Prod.mk.injEq, mem_invalidFrom, and_assoc,
    Reports, ReportsTag, ReportsInvalid]

/-- What is reported as unterminated is an opener whose first character no span has. -/
theorem mem_unterminated {source : Markup} {span : MalformedSpan} :
    span ∈ (scan source).malformed ∧ span.defect = .unterminated ↔
      ∃ opener ∈ openersFrom 0 source, ¬ (scan source).Covers opener.1 ∧
        span = { start := opener.1, stop := opener.1 + Text.byteSize (opener.2.take reportWindow)
                 text := opener.2.take reportWindow, defect := .unterminated } := by
  have listed : span ∈ (scan source).malformed ∧ span.defect = .unterminated ↔
      span ∈ unterminated (covered source) source := by
    rw [scan, List.mem_mergeSort, List.mem_append]
    constructor
    · rintro ⟨invalid | reported, defect⟩
      · rw [(mem_invalidFrom.mp invalid).2] at defect
        cases defect
      · exact reported
    · intro reported
      exact ⟨.inr reported, defect_of_unterminated reported⟩
  have bare (offset : Nat) : ((covered source).any fun range =>
      range.1 ≤ offset && offset < range.2) = true ↔ (scan source).Covers offset := by
    simp only [List.any_eq_true, Prod.exists, mem_covered, Bool.and_eq_true, decide_eq_true_eq,
      Covers]
  rw [listed, unterminated, List.mem_filterMap]
  simp only [Prod.exists, bare, Option.ite_none_left_eq_some, Option.some.injEq]
  simp only [eq_comm (a := span)]

/-- What is reported in a range is a span there. -/
theorem Reports.spanAt {source : Markup} {start stop : Nat}
    (reported : (scan source).Reports start stop) :
    ∃ kind body, SpanAt source start stop kind body := by
  rcases reported with tag | invalid
  · obtain ⟨kind, body, stands, -⟩ := reportsTag_iff.mp tag
    exact ⟨kind, body, stands⟩
  · obtain ⟨kind, body, stands, -⟩ := reportsInvalid_iff.mp invalid
    exact ⟨kind, body, stands⟩

/-- A span ends with a closing brace, so the character before its end opens nothing. -/
theorem Reports.not_openerAt {source : Markup} {start stop : Nat}
    (reported : (scan source).Reports start (stop + 1)) : ¬ OpenerAt source stop := by
  obtain ⟨kind, body, before, after, whole, -, -, rfl, ends⟩ := reported.spanAt
  rintro ⟨kind', before', after', whole', place, -⟩
  have closed : ∃ front, kind.enclose body = front ++ ['}'] :=
    List.getLast?_eq_some_iff.mp (kind.getLast?_enclose body)
  obtain ⟨front, spelled⟩ := closed
  have size : Text.byteSize (before ++ front) = Text.byteSize before' := by
    rw [spelled] at ends
    have brace : ('}' : Char).utf8Size = 1 := rfl
    simp only [Text.byteSize_append, Text.byteSize_cons, Text.byteSize_nil, brace] at ends ⊢
    omega
  have same : before ++ front ++ '}' :: after = before' ++ (Tag.opening kind' ++ after') := by
    rw [whole, spelled] at whole'
    simpa using whole'
  obtain ⟨-, rest⟩ := Text.append_inj_of_byteSize same size
  cases kind' <;> simp [Tag.opening] at rest

theorem openerAt_of_mem_openersFrom {source rest : Markup} {place : Nat}
    (found : (place, rest) ∈ openersFrom 0 source) : OpenerAt source place := by
  obtain ⟨before, kind, after, rfl, rfl, rfl⟩ := of_mem_openersFrom found
  refine ⟨kind, before, after, by simp, by simp, ?_⟩
  cases kind <;> rfl

end Scan

/-- Every opener that is reported as unterminated begins outside of all spans; its second character
    lies in none either, unless a span begins with it. Conversely, of an opener with both characters
    outside of all spans it is reported, or the opener that begins a character before it. -/
theorem unterminated_openers (source : Markup) :
    (∀ span ∈ (scan source).malformed, span.defect = .unterminated →
      OpenerAt source span.start ∧ ¬ (scan source).Covers span.start ∧
        (¬ (scan source).Covers (span.start + 1) ∨
          ∃ stop, (scan source).Reports (span.start + 1) stop)) ∧
    ∀ start, OpenerAt source start → ¬ (scan source).Covers start →
      ¬ (scan source).Covers (start + 1) →
      ∃ span ∈ (scan source).malformed, span.defect = .unterminated ∧
        (span.start = start ∨ span.start + 1 = start) := by
  constructor
  · intro span mem defect
    obtain ⟨⟨place, rest⟩, found, outside, rfl⟩ := Scan.mem_unterminated.mp ⟨mem, defect⟩
    refine ⟨Scan.openerAt_of_mem_openersFrom found, outside, ?_⟩
    by_cases inside : (scan source).Covers (place + 1)
    · obtain ⟨first, stop, reported, above, below⟩ := inside
      have later : place < first := by
        by_contra earlier
        exact outside ⟨first, stop, reported, by omega, by omega⟩
      obtain rfl : first = place + 1 := by omega
      exact .inr ⟨stop, reported⟩
    · exact .inl inside
  · rintro start ⟨kind, before, after, whole, rfl, -⟩ outside outside'
    obtain ⟨⟨place, rest⟩, found, near⟩ :=
      @Scan.exists_mem_openersFrom 0 _ _ _ _ (whole.trans (List.append_assoc ..))
    simp only [Nat.zero_add] at near
    have free : ¬ (scan source).Covers place := by
      rcases near with same | next
      · rwa [same]
      · -- a span with the character before the opener would end there, with a closing brace
        rintro ⟨first, stop, reported, above, below⟩
        have ends : stop = place + 1 := by
          by_contra further
          exact outside ⟨first, stop, reported, by omega, by omega⟩
        subst ends
        exact reported.not_openerAt (Scan.openerAt_of_mem_openersFrom found)
    obtain ⟨mem, defect⟩ := Scan.mem_unterminated.mpr ⟨(place, rest), found, free, rfl⟩
    exact ⟨_, mem, defect, near⟩

namespace Sample

/-- A tag in one more pair of braces. -/
def bracedTag : Markup := "{{{A}}}".toList

end Sample

/-- Of an opener that is reported the second character may lie in a tag. -/
theorem unterminated_opener_in_tag :
    ¬ ∀ span ∈ (scan Sample.bracedTag).malformed, span.defect = .unterminated →
      OpenerAt Sample.bracedTag span.start ∧ ¬ (scan Sample.bracedTag).Covers span.start ∧
        ¬ (scan Sample.bracedTag).Covers (span.start + 1) := by
  intro apart
  have reported : (scan Sample.bracedTag).malformed =
      [{ start := 0, stop := 7, text := Sample.bracedTag, defect := .unterminated }] := by
    decide +kernel
  have tagged : (scan Sample.bracedTag).tags.map (fun tag => (tag.start, tag.stop)) = [(1, 6)] := by
    decide +kernel
  obtain ⟨-, -, inside⟩ := apart _ (by rw [reported]; exact List.mem_singleton_self _) rfl
  have mem : (1, 6) ∈ (scan Sample.bracedTag).tags.map fun tag => (tag.start, tag.stop) := by
    rw [tagged]
    exact List.mem_singleton_self _
  obtain ⟨tag, listed, range⟩ := List.mem_map.mp mem
  obtain ⟨start, stop⟩ := Prod.mk.inj range
  exact inside ⟨1, 6, .inl ⟨tag, listed, start, stop⟩, by decide, by decide⟩

end Stencil
