import Stencil.Proofs.Markup.Seen
import Stencil.Proofs.Report.Reasons
import Stencil.Proofs.Scan.Openers

/-! # Tags that are seen

A reader sees a tag in a source wherever the characters of one follow each other outside of the
elements. If the two characters that open it adjoin, a scan reports something of it, and a render
fills it or warns of it. An opening delimiter that elements part is found by neither search.

Main statement: `seen_tags_reported`.
-/

namespace Stencil

/-- A tag with a body is seen in the source, from the character at byte `first` to that at byte
    `last`. -/
structure Sees (source : Markup) (kind : TagKind) (body : List Char) (first last : Nat) : Prop where
  free : BraceFree body
  shown : ∃ front middle back,
    Markup.seenFrom 0 source = front ++ (first, '{') :: (middle ++ (last, '}') :: back) ∧
    kind.enclose body = '{' :: (middle.map Prod.snd ++ ['}'])

/-- Elements stand behind the first character of a tag that is seen, and no opening delimiter up to
    the last one. -/
structure SplitOpening (source : Markup) (first last : Nat) : Prop where
  parted : ∃ before element after, source = before ++ '{' :: (element ++ after) ∧
    first = Text.byteSize before ∧ Markup.IsElement element
  unopened : ∀ place, first ≤ place → place < last → ¬ OpenerAt source place

/-- Whether two byte ranges share a byte. -/
def Meet (start stop start' stop' : Nat) : Prop :=
  start < stop' ∧ start' < stop

theorem Meet.mono {start stop start' stop' first last : Nat} (meets : Meet start stop start' stop')
    (above : first ≤ start') (below : stop' ≤ last) : Meet start stop first last := by
  obtain ⟨before, behind⟩ := meets
  constructor <;> omega

namespace Scan

/-- Whether a tag or a malformed span shares a byte with the range. -/
def Touches (scan : Scan) (start stop : Nat) : Prop :=
  (∃ tag ∈ scan.tags, Meet tag.start tag.stop start stop) ∨
    ∃ span ∈ scan.malformed, Meet span.start span.stop start stop

theorem Touches.mono {scan : Scan} {start stop first last : Nat} (touched : scan.Touches start stop)
    (above : first ≤ start) (below : stop ≤ last) : scan.Touches first last := by
  rcases touched with ⟨tag, tagged, meets⟩ | ⟨span, listed, meets⟩
  · exact .inl ⟨tag, tagged, meets.mono above below⟩
  · exact .inr ⟨span, listed, meets.mono above below⟩

variable {source : Markup} {start stop first last place : Nat}

theorem touches_of_reports (reported : (scan source).Reports start stop)
    (meets : Meet start stop first last) : (scan source).Touches first last := by
  rcases reported with ⟨tag, tagged, rfl, rfl⟩ | ⟨span, listed, -, rfl, rfl⟩
  · exact .inl ⟨tag, tagged, meets⟩
  · exact .inr ⟨span, listed, meets⟩

theorem two_le_byteSize_window {rest : Markup} (found : (place, rest) ∈ openersFrom 0 source) :
    2 ≤ Text.byteSize (rest.take reportWindow) := by
  obtain ⟨before, kind, after, -, rfl, -⟩ := of_mem_openersFrom found
  have size : Text.byteSize (Tag.opening kind) = 2 := by cases kind <;> rfl
  have short : (Tag.opening kind).length ≤ reportWindow := by cases kind <;> decide
  rw [List.take_append, List.take_of_length_le short, Text.byteSize_append, size]
  omega

/-- Something of every opening delimiter is reported. -/
theorem touches_of_openerAt (opener : OpenerAt source place) :
    (scan source).Touches place (place + 2) := by
  obtain ⟨kind, before, after, whole, rfl, -⟩ := opener
  obtain ⟨⟨start, rest⟩, found, near⟩ :=
    @exists_mem_openersFrom 0 _ _ _ _ (whole.trans (List.append_assoc ..))
  simp only [Nat.zero_add] at near
  by_cases covered : (scan source).Covers start
  · obtain ⟨first, stop, reported, above, below⟩ := covered
    refine touches_of_reports reported ⟨by omega, ?_⟩
    rcases near with same | next
    · omega
    · -- a span that ended behind the character at `start` would have it for its closing brace
      have further : stop ≠ start + 1 := by
        rintro rfl
        exact reported.not_openerAt (openerAt_of_mem_openersFrom found)
      omega
  · obtain ⟨listed, -⟩ := mem_unterminated.mpr ⟨(start, rest), found, covered, rfl⟩
    have reaches := two_le_byteSize_window found
    exact .inr ⟨_, listed, by simp only [Meet]; omega⟩

end Scan

namespace Sees

variable {source : Markup} {kind : TagKind} {body : List Char} {first last : Nat}

/-- The two characters that open a tag which is seen are seen one behind the other. -/
theorem exists_opening (sees : Sees source kind body first last) :
    ∃ front second c rest, Tag.opening kind = ['{', c] ∧ first < last ∧
      Markup.seenFrom 0 source = front ++ (first, '{') :: (second, c) :: rest := by
  obtain ⟨front, middle, back, shown, spelled⟩ := sees.shown
  obtain ⟨before, after, -, -, -, behind, -⟩ := Markup.exists_of_seenFrom shown
  have brace : ('{' : Char).utf8Size = 1 := rfl
  have apart : first + 1 ≤ last := by
    rw [← brace]
    exact Markup.le_of_mem_seenFrom (c := '}') (by rw [behind]; simp)
  cases middle with
  | nil => cases kind <;> simp [TagKind.enclose] at spelled
  | cons next middle =>
      obtain ⟨second, c⟩ := next
      refine ⟨front, second, c, _, ?_, apart, shown⟩
      rw [List.map_cons, List.cons_append] at spelled
      cases kind with
      | text =>
          obtain ⟨rfl, -⟩ := List.cons.inj (List.cons.inj spelled).2
          rfl
      | image =>
          obtain ⟨rfl, -⟩ := List.cons.inj (List.cons.inj spelled).2
          rfl

theorem touches_or_split (sees : Sees source kind body first last) :
    (scan source).Touches first (last + 1) ∨ SplitOpening source first last := by
  obtain ⟨front, second, c, rest, opens, before_last, shown⟩ := sees.exists_opening
  by_cases opened : ∃ place, first ≤ place ∧ place < last ∧ OpenerAt source place
  · obtain ⟨place, above, below, opener⟩ := opened
    exact .inl ((Scan.touches_of_openerAt opener).mono above (by omega))
  · have unopened : ∀ place, first ≤ place → place < last → ¬ OpenerAt source place :=
      fun place above below opener => opened ⟨place, above, below, opener⟩
    obtain ⟨before, after, whole, placed, -, behind, -⟩ := Markup.exists_of_seenFrom shown
    rw [Nat.zero_add] at placed
    rcases Markup.head_of_seenFrom behind with ⟨element, following, rfl, isElement⟩ |
      ⟨following, rfl, -⟩
    · exact .inr ⟨⟨before, element, following, whole, placed, isElement⟩, unopened⟩
    · -- the two characters adjoin
      refine absurd ⟨kind, before, following, ?_, placed, ?_⟩
        (unopened first (Nat.le_refl _) before_last)
      · rw [opens, whole]
        simp
      · cases kind <;> rfl

end Sees

/-- How a render tells of a tag or a malformed span that shares a byte with a range of a source. -/
inductive Told (payload : Payload) (fetch : Fetcher) (part : String) (source : Markup)
    (warnings : List Warning) (start stop : Nat) : Prop where
  | filled (tag : TagSpan) (tagged : tag ∈ (scan source).tags)
      (meets : Meet tag.start tag.stop start stop)
      (fate : tag.fate payload fetch = .substituted ∨ tag.fate payload fetch = .embedded)
  | unfilled (tag : TagSpan) (tagged : tag ∈ (scan source).tags)
      (meets : Meet tag.start tag.stop start stop) (reason : WarningReason)
      (warned : tag.warning part reason ∈ warnings)
  | malformed (span : MalformedSpan) (listed : span ∈ (scan source).malformed)
      (meets : Meet span.start span.stop start stop) (warned : span.warning part ∈ warnings)

theorem TagFate.filled_or_reason (fate : TagFate) :
    (fate = .substituted ∨ fate = .embedded) ∨
      ∃ reason, fate.bindingReason? = some reason ∨ fate.fetchReason? = some reason := by
  cases fate with
  | substituted => exact .inl (.inl rfl)
  | embedded => exact .inl (.inr rfl)
  | unresolved => exact .inr ⟨_, .inl rfl⟩
  | notAnAsset => exact .inr ⟨_, .inl rfl⟩
  | unfetched failure => exact .inr ⟨_, .inr rfl⟩

theorem Scan.Touches.told {document : Document} {payload : Payload} {fetch : Fetcher}
    {part : String} {source : Markup} {start stop : Nat}
    (touched : (scan source).Touches start stop) (there : (part, source) ∈ document.templates) :
    Told payload fetch part source (document.warnings payload fetch) start stop := by
  rcases touched with ⟨tag, tagged, meets⟩ | ⟨span, listed, meets⟩
  · rcases (tag.fate payload fetch).filled_or_reason with filled | ⟨reason, told⟩
    · exact .filled tag tagged meets filled
    · refine .unfilled tag tagged meets reason ?_
      exact (Document.mem_warnings document payload fetch).mpr
        ⟨(part, source), there, .inr ⟨tag, tagged, reason, told, rfl⟩⟩
  · refine .malformed span listed meets ?_
    exact (Document.mem_warnings document payload fetch).mpr
      ⟨(part, source), there, .inl ⟨span, listed, rfl⟩⟩

/-- Of every tag that is seen in a source, whatever it names, something is reported by the scan and
    told of by every render, unless elements part the two characters that open it. -/
theorem seen_tags_reported {source : Markup} {kind : TagKind} {body : List Char}
    {first last : Nat} (sees : Sees source kind body first last) :
    ((scan source).Touches first (last + 1) ∨ SplitOpening source first last) ∧
    ∀ document payload options fetch warnings part, (part, source) ∈ document.templates →
      EndsWith (render document payload options fetch) warnings →
      (scan source).Touches first (last + 1) →
      Told payload fetch part source warnings first (last + 1) := by
  refine ⟨sees.touches_or_split, ?_⟩
  intro document payload options fetch warnings part there ends touched
  rw [warnings_of_endsWith ends]
  exact touched.told there

namespace Sample

/-- A tag that ends in another run than it begins in. -/
def splitEnd : String :=
  "<w:t>\x7b\x7bname\x7d</w:t><w:t>\x7d</w:t>"

/-- A tag whose opening braces are in two runs. -/
def splitOpening : String :=
  "<w:t>\x7b</w:t><w:t>\x7bname\x7d\x7d</w:t>"

theorem exists_splitEnd_report :
    ∃ report, render (withBody splitEnd) payload {} fetch = .ok report :=
  Stencil.exists_report rfl (by decide +kernel)

theorem sees_splitEnd : Sees splitEnd.toList .text "name".toList 5 23 where
  free := by decide
  shown := ⟨[], [(6, '{'), (7, 'n'), (8, 'a'), (9, 'm'), (10, 'e'), (11, '}')], [],
    by decide +kernel, rfl⟩

end Sample

/-- A tag with an element between its closing braces is told of. -/
theorem seen_tags_reported_split_end :
    Sees Sample.splitEnd.toList .text "name".toList 5 23 ∧
      ∃ report,
        render (Sample.withBody Sample.splitEnd) Sample.payload {} Sample.fetch = .ok report ∧
        Told Sample.payload Sample.fetch PartName.mainDocument Sample.splitEnd.toList
          report.warnings 5 24 := by
  refine ⟨Sample.sees_splitEnd, ?_⟩
  obtain ⟨report, rendered⟩ := Sample.exists_splitEnd_report
  have ends : EndsWith (render (Sample.withBody Sample.splitEnd) Sample.payload {} Sample.fetch)
      report.warnings := rendered ▸ .report report
  have there : (PartName.mainDocument, Sample.splitEnd.toList) ∈
      (Sample.withBody Sample.splitEnd).templates := by decide +kernel
  obtain ⟨reported, told⟩ := seen_tags_reported Sample.sees_splitEnd
  refine ⟨report, rendered, told _ _ _ _ _ _ there ends (reported.resolve_right fun split => ?_)⟩
  -- the braces that open it adjoin
  exact split.unopened 5 (by decide) (by decide)
    ⟨.text, "<w:t>".toList, "name\x7d</w:t><w:t>\x7d</w:t>".toList, rfl, rfl, rfl⟩

/-- A tag is seen with an element between its opening braces, and nothing of it is reported. -/
theorem seen_tag_unreported :
    Sees Sample.splitOpening.toList .text "name".toList 5 23 ∧
      isIdentifier "name".toList = true ∧ (scan Sample.splitOpening.toList).tags = [] ∧
      (scan Sample.splitOpening.toList).malformed = [] := by
  refine ⟨⟨by decide, ?_⟩, by decide, by decide +kernel, by decide +kernel⟩
  exact ⟨[], [(17, '{'), (18, 'n'), (19, 'a'), (20, 'm'), (21, 'e'), (22, '}')], [],
    by decide +kernel, rfl⟩

end Stencil
