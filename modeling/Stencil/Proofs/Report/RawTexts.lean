import Stencil.Proofs.Markup.Seen
import Stencil.Proofs.Report.Inspection
import Stencil.Proofs.Scan.Partition

/-! # Reported texts

Warnings and occurrences repeat the text that they are about. Of a closed span that is what is seen
of it, so it holds an element only where brackets are nested. An opener without a span is shown with
the source behind it, elements included.

Main statement: `reported_texts`.
-/

namespace Stencil

/-- What the text of a warning or an occurrence is in the source that it is about. -/
structure RawText (source : Markup) (unterminated : Prop) (raw : List Char) : Prop where
  closed : ¬ unterminated → ∃ start stop kind body, SpanAt source start stop kind body ∧
    raw = Markup.visible (kind.enclose body) ∧
    (Markup.HasElement raw ↔ Markup.Nested (kind.enclose body))
  opened : unterminated → ∃ start stop, TextAt source start stop raw ∧ OpenerAt source start ∧
    raw.length ≤ Scan.reportWindow ∧
    (raw.length < Scan.reportWindow → stop = Text.byteSize source)

theorem RawText.congr {source : Markup} {unterminated unterminated' : Prop} {raw : List Char}
    (text : RawText source unterminated raw) (same : unterminated' ↔ unterminated) :
    RawText source unterminated' raw :=
  propext same ▸ text

namespace Scan

variable {source : Markup}

theorem text_of_readSpan (start : Nat) (span : Markup) :
    (readSpan start span).elim TagSpan.text MalformedSpan.text = Markup.visible span := by
  rw [readSpan]
  split <;> rfl

theorem rawText_of_mem_readsFrom {reading : TagSpan ⊕ MalformedSpan}
    (listed : reading ∈ readsFrom 0 (stretches source)) :
    RawText source False (reading.elim TagSpan.text MalformedSpan.text) := by
  obtain ⟨before, span, after, cut, rfl⟩ := mem_readsFrom.mp listed
  obtain ⟨kind, body, free, rfl, whole, alone⟩ := cutAt_stretches.mp cut
  rw [text_of_readSpan]
  constructor
  case closed =>
    intro _
    exact ⟨_, _, kind, body, ⟨before, after, whole, free, alone, rfl, rfl⟩, rfl,
      Markup.hasElement_visible_iff⟩
  case opened => exact False.elim

theorem rawText_of_mem_tags {tag : TagSpan} (tagged : tag ∈ (scan source).tags) :
    RawText source False tag.text :=
  rawText_of_mem_readsFrom (mem_tags.mp tagged)

theorem rawText_of_mem_malformed {span : MalformedSpan} (listed : span ∈ (scan source).malformed) :
    RawText source (span.defect = .unterminated) span.text := by
  cases defect : span.defect with
  | invalidIdentifier =>
      have text := rawText_of_mem_readsFrom (mem_malformed.mp ⟨listed, defect⟩)
      exact text.congr (iff_false_intro nofun)
  | unterminated =>
      obtain ⟨there, short, ends⟩ := window_of_unterminated listed defect
      obtain ⟨⟨place, rest⟩, found, -, rfl⟩ := mem_unterminated.mp ⟨listed, defect⟩
      constructor
      case closed => exact fun closed => absurd rfl closed
      case opened =>
        intro _
        exact ⟨_, _, there, openerAt_of_mem_openersFrom found, short, ends⟩

end Scan

theorem TagDefect.message_eq_unterminated {defect : TagDefect} :
    defect.message = TagDefect.unterminated.message ↔ defect = .unterminated := by
  cases defect <;> decide

theorem TagFate.ne_malformed {fate : TagFate} {reason : WarningReason} {detail : String}
    (told : fate.bindingReason? = some reason ∨ fate.fetchReason? = some reason) :
    reason ≠ .malformed detail := by
  rintro rfl
  cases fate <;> simp [TagFate.bindingReason?, TagFate.fetchReason?] at told

theorem Occurrence.mem_inSource {part : String} {source : Markup} {occurrence : Occurrence} :
    occurrence ∈ Occurrence.inSource part source ↔
      (∃ tag ∈ (scan source).tags, Occurrence.ofTag part tag = occurrence) ∨
        ∃ span ∈ (scan source).malformed, Occurrence.ofMalformed part span = occurrence := by
  rw [Occurrence.inSource, List.mem_map]
  simp only [List.mem_mergeSort, List.mem_append, List.mem_map, Prod.exists, Prod.mk.injEq,
    exists_eq_right]
  constructor
  · rintro ⟨place, ⟨tag, tagged, -, same⟩ | ⟨span, listed, -, same⟩⟩
    · exact .inl ⟨tag, tagged, same⟩
    · exact .inr ⟨span, listed, same⟩
  · rintro (⟨tag, tagged, same⟩ | ⟨span, listed, same⟩)
    · exact ⟨tag.start, .inl ⟨tag, tagged, rfl, same⟩⟩
    · exact ⟨span.start, .inr ⟨span, listed, rfl, same⟩⟩

namespace Document

variable {document : Document}

theorem rawText_of_mem_warnings {payload : Payload} {fetch : Fetcher} {warning : Warning}
    (mem : warning ∈ document.warnings payload fetch) :
    ∃ source, (warning.part, source) ∈ document.templates ∧
      RawText source (warning.reason = .malformed TagDefect.unterminated.message)
        warning.raw.toList := by
  obtain ⟨⟨part, source⟩, there, cause⟩ := (mem_warnings document payload fetch).mp mem
  rcases cause with ⟨span, listed, rfl⟩ | ⟨tag, tagged, reason, told, rfl⟩
  · refine ⟨source, there, ?_⟩
    rw [MalformedSpan.warning, String.toList_ofList]
    refine (Scan.rawText_of_mem_malformed listed).congr ?_
    rw [WarningReason.malformed.injEq, TagDefect.message_eq_unterminated]
  · refine ⟨source, there, ?_⟩
    rw [TagSpan.warning, String.toList_ofList]
    exact (Scan.rawText_of_mem_tags tagged).congr (iff_false_intro (TagFate.ne_malformed told))

theorem rawText_of_inspect {occurrences : List Occurrence}
    (inspected : inspect document = .ok occurrences) {occurrence : Occurrence}
    (mem : occurrence ∈ occurrences) :
    ∃ source, (occurrence.part, source) ∈ document.templates ∧
      RawText source (occurrence.malformed = some TagDefect.unterminated.message)
        occurrence.raw.toList := by
  rw [eq_flatMap_of_inspect inspected] at mem
  obtain ⟨⟨part, source⟩, there, mem⟩ := List.mem_flatMap.mp mem
  rcases Occurrence.mem_inSource.mp mem with ⟨tag, tagged, rfl⟩ | ⟨span, listed, rfl⟩
  · refine ⟨source, there, ?_⟩
    rw [Occurrence.ofTag, String.toList_ofList]
    exact (Scan.rawText_of_mem_tags tagged).congr (iff_false_intro nofun)
  · refine ⟨source, there, ?_⟩
    rw [Occurrence.ofMalformed, String.toList_ofList]
    refine (Scan.rawText_of_mem_malformed listed).congr ?_
    rw [Option.some.injEq, TagDefect.message_eq_unterminated]

end Document

/-- The text of every warning that a render ends with, and of every occurrence that an inspection
    lists, is what is seen of a span, without elements unless brackets are nested there; only of an
    opener that is not closed it is the source as it stands. -/
theorem reported_texts (document : Document) :
    (∀ payload options fetch warnings,
      EndsWith (render document payload options fetch) warnings →
      ∀ warning ∈ warnings, ∃ source, (warning.part, source) ∈ document.templates ∧
        RawText source (warning.reason = .malformed TagDefect.unterminated.message)
          warning.raw.toList) ∧
    ∀ occurrences, inspect document = .ok occurrences →
      ∀ occurrence ∈ occurrences, ∃ source, (occurrence.part, source) ∈ document.templates ∧
        RawText source (occurrence.malformed = some TagDefect.unterminated.message)
          occurrence.raw.toList := by
  constructor
  · intro payload options fetch warnings ends warning mem
    rw [warnings_of_endsWith ends] at mem
    exact Document.rawText_of_mem_warnings mem
  · intro occurrences inspected occurrence mem
    exact Document.rawText_of_inspect inspected mem

/-- The warnings of a template with tags of every fate repeat what it has. -/
theorem reported_texts_mixed :
    ∃ report, render Sample.mixed Sample.mixedPayload {} Sample.fetch = .ok report ∧
      report.warnings.length = 5 ∧
      ∀ warning ∈ report.warnings, ∃ source, (warning.part, source) ∈ Sample.mixed.templates ∧
        RawText source (warning.reason = .malformed TagDefect.unterminated.message)
          warning.raw.toList := by
  obtain ⟨report, rendered⟩ := Sample.exists_mixed_report
  have ends : EndsWith (render Sample.mixed Sample.mixedPayload {} Sample.fetch) report.warnings :=
    rendered ▸ .report report
  refine ⟨report, rendered, ?_, (reported_texts Sample.mixed).1 _ _ _ _ ends⟩
  simp only [warnings_of_endsWith ends, Document.warnings, Document.partWarnings,
    List.length_append, List.length_flatMap, List.length_map, scan, List.length_mergeSort]
  decide +kernel

namespace Sample

/-- A tag whose closing braces are missing. -/
def openTag : Document :=
  withBody "<w:t>\x7b\x7bname</w:t>"

/-- A tag with a formatter in twice as many brackets as elements have. -/
def nestedTag : Document :=
  withBody "<w:t>{{name:<<b>>}}</w:t>"

end Sample

/-- A tag that is not closed is reported with the element behind it, and one with nested brackets
    with those that are left, which are an element. -/
theorem reported_texts_with_elements :
    (inspect Sample.openTag).toOption.map (List.map Occurrence.raw) =
      some ["\x7b\x7bname</w:t>"] ∧
    Markup.HasElement "\x7b\x7bname</w:t>".toList ∧
    (inspect Sample.nestedTag).toOption.map (List.map Occurrence.raw) =
      some ["{{name:<>}}"] ∧
    Markup.HasElement "{{name:<>}}".toList := by
  refine ⟨by decide +kernel, ?_, by decide +kernel, ?_⟩
  · exact ⟨"</w:t>".toList, ⟨"/w:t".toList, by decide, rfl⟩, "\x7b\x7bname".toList, [], rfl⟩
  · exact ⟨['<', '>'], ⟨[], by decide, rfl⟩, "\x7b\x7bname:".toList, "\x7d\x7d".toList, rfl⟩

end Stencil
