import Stencil.Proofs.Markup.Values
import Stencil.Proofs.Report.Draft
import Stencil.Proofs.Scan.Order

/-! # Tags in attributes

A tag may stand in an attribute, such as the description of a picture. A value is escaped for that
as well, so the element stays one and the attribute ends where it ended, unless the value is written
with run breaks, which are meant for the text of a run.

Main statement: `filled_keeps_attributes`.
-/

namespace Stencil

/-- Whether the value of a text tag is written with run breaks. -/
def TagSpan.Breaks (payload : Payload) (linebreaks : Bool) (tag : TagSpan) : Prop :=
  ∃ value, (payload.binding tag.tag.identifier).text? = some value ∧
    Markup.Breaks value.toList linebreaks

/-- Whether the character at a byte of the source is in no tag. -/
def Untagged (source : Markup) (offset : Nat) : Prop :=
  ∀ tag ∈ (scan source).tags, tag.stop ≤ offset ∨ offset < tag.start

/-- What takes the place of a text tag. -/
def FillsText (payload : Payload) (linebreaks : Bool) (span : Markup) (tag : TagSpan)
    (filling : Markup) : Prop :=
  filling = (tag.value? payload linebreaks).getD [] ++ (Markup.elements span).flatten

/-- What becomes of the text between the brackets of an element, which begins at byte `start`. -/
structure FilledInside (payload : Payload) (linebreaks : Bool) (start : Nat) (inner : Markup)
    (inside : List TagSpan) (kept : Markup) : Prop where
  spliced : Spliced (fun _ tag filling => filling = (tag.value? payload linebreaks).getD []) start
    inner inside kept
  isElement : Markup.IsElement ('<' :: kept ++ ['>']) ↔
    ∀ tag ∈ inside, ¬ tag.Breaks payload linebreaks
  unquoted : ∀ tag ∈ inside, ¬ tag.Breaks payload linebreaks →
    ∀ mark ∈ ['<', '>', '\x22', '\x27'], mark ∉ (tag.value? payload linebreaks).getD []

/-- Every element whose brackets are in no tag becomes a text of its own. -/
def FillsElements (payload : Payload) (linebreaks : Bool) (source text : Markup) : Prop :=
  ∀ before inner after, source = before ++ ('<' :: inner ++ ['>']) ++ after →
    Markup.Plain inner → Untagged source (Text.byteSize before) →
    Untagged source (Text.byteSize (before ++ '<' :: inner)) →
    ∃ earlier inside later front kept back,
      (scan source).tags = earlier ++ inside ++ later ∧
      text = front ++ ('<' :: kept ++ ['>']) ++ back ∧
      Spliced (FillsText payload linebreaks) 0 before earlier front ∧
      FilledInside payload linebreaks (Text.byteSize (before ++ ['<'])) inner inside kept ∧
      Spliced (FillsText payload linebreaks) (Text.byteSize (before ++ '<' :: inner ++ ['>'])) after
        later back

section Values

variable {payload : Payload} {linebreaks : Bool} {tag : TagSpan}

theorem TagSpan.plain_value_iff :
    Markup.Plain ((tag.value? payload linebreaks).getD []) ↔ ¬ tag.Breaks payload linebreaks := by
  unfold TagSpan.value? TagSpan.Breaks
  cases (payload.binding tag.tag.identifier).text? with
  | none => simp [Markup.Plain]
  | some value => simp [Markup.plain_ofValue_iff]

theorem TagSpan.not_mem_value (whole : ¬ tag.Breaks payload linebreaks) {mark : Char}
    (quoted : mark ∈ ['<', '>', '\x22', '\x27']) :
    mark ∉ (tag.value? payload linebreaks).getD [] := by
  unfold TagSpan.value?
  cases found : (payload.binding tag.tag.identifier).text? with
  | none => exact List.not_mem_nil
  | some value =>
      have unbroken : ¬ Markup.Breaks value.toList linebreaks :=
        fun broken => whole ⟨value, found, broken⟩
      rw [Option.map_some, Option.getD_some, Markup.ofValue_of_not_breaks unbroken]
      exact Markup.not_mem_escape quoted

theorem fillsText_of_fills {options : RenderOptions} {placements : List Placement}
    {answers : TagSpan → Option ByteArray → Prop} {span filling : Markup}
    (kind : tag.tag.kind = .text) (h : Fills payload options placements answers span tag filling) :
    FillsText payload options.linebreaks span tag filling := by
  rw [Fills, kind] at h
  exact h

end Values

theorem Spliced.plain_iff {filling : TagSpan → Markup} {start : Nat} {source text : Markup}
    {tags : List TagSpan}
    (h : Spliced (fun _ tag filled => filled = filling tag) start source tags text)
    (plain : Markup.Plain source) :
    Markup.Plain text ↔ ∀ tag ∈ tags, Markup.Plain (filling tag) := by
  have split (front back : Markup) :
      Markup.Plain (front ++ back) ↔ Markup.Plain front ∧ Markup.Plain back :=
    List.forall_mem_append
  induction h with
  | plain => exact iff_of_true plain nofun
  | tag _ filled _ ih =>
      subst filled
      rw [split, split] at plain
      rw [split, split, List.forall_mem_cons, and_iff_right plain.1.1]
      exact and_congr_right' (ih plain.2)

section Filling

variable {payload : Payload} {linebreaks : Bool} {source text : Markup}

theorem filledInside_of_spliced {start : Nat} {inner kept : Markup} {inside : List TagSpan}
    (spliced : Spliced (FillsText payload linebreaks) start inner inside kept)
    (plain : Markup.Plain inner) : FilledInside payload linebreaks start inner inside kept := by
  have values : Spliced (fun _ tag filling => filling = (tag.value? payload linebreaks).getD [])
      start inner inside kept := by
    refine spliced.imp fun span tag filling within _ filled => ?_
    -- the span has none of the brackets, so no element stands inside it
    have bare : Markup.elements span = [] :=
      Markup.elements_of_inner fun c mem => plain c (within.subset mem)
    rw [filled, bare, List.flatten_nil, List.append_nil]
  have isElement : Markup.IsElement ('<' :: kept ++ ['>']) ↔ Markup.Plain kept := by
    constructor
    · rintro ⟨inner, plain, same⟩
      obtain ⟨rfl, -⟩ := List.append_inj' (List.cons.inj same).2 rfl
      exact plain
    · exact fun plain => ⟨kept, plain, rfl⟩
  constructor
  case spliced => exact values
  case isElement =>
    rw [isElement, values.plain_iff plain]
    exact forall₂_congr fun tag _ => TagSpan.plain_value_iff
  case unquoted => exact fun tag _ whole mark quoted => TagSpan.not_mem_value whole quoted

theorem fillsElements_of_spliced
    (spliced : Spliced (FillsText payload linebreaks) 0 source (scan source).tags text) :
    FillsElements payload linebreaks source text := by
  rintro before inner after rfl plain opening closing
  have whole : before ++ ('<' :: inner ++ ['>']) ++ after =
      before ++ '<' :: (inner ++ '>' :: after) := by simp
  have positive : ∀ tag ∈ (scan (before ++ ('<' :: inner ++ ['>']) ++ after)).tags,
      tag.start < tag.stop := fun tag tagged => Scan.rangeOf_lt (Scan.mem_tags.mp tagged)
  unfold Untagged at opening closing
  generalize (scan (before ++ ('<' :: inner ++ ['>']) ++ after)).tags = tags at *
  rw [whole] at spliced
  obtain ⟨earlier, rest, front, text, rfl, rfl, first, spliced⟩ :=
    spliced.split_at positive (by simpa only [Nat.zero_add] using opening)
  obtain ⟨-, positive⟩ := List.forall_mem_append.mp positive
  obtain ⟨-, closing⟩ := List.forall_mem_append.mp closing
  have closes : Text.byteSize (before ++ '<' :: inner) =
      Text.byteSize (before ++ ['<']) + Text.byteSize inner := by
    simp [Nat.add_assoc]
  have ends : Text.byteSize (before ++ '<' :: inner ++ ['>']) =
      Text.byteSize (before ++ ['<']) + Text.byteSize (inner ++ ['>']) := by
    simp [Nat.add_assoc]
  rw [Nat.zero_add] at spliced
  rw [closes] at closing
  obtain ⟨inside, later, kept, back, rfl, rfl, second, last⟩ := spliced.split_at positive closing
  exact ⟨earlier, inside, later, front, kept, back, (List.append_assoc ..).symm, by simp, first,
    filledInside_of_spliced second plain, ends ▸ last⟩

end Filling

/-- An element of a part whose tags are all text tags is filled to one element exactly if no tag
    inside has a value that is written with run breaks; any other value brings no bracket and no
    quote. -/
theorem filled_keeps_attributes {document : Document} {payload : Payload} {options : RenderOptions}
    {draft : Draft} (made : Draft.make document payload options = .ok draft)
    (outcomes : List FetchOutcome) :
    (∀ report, draft.complete outcomes = .ok report →
      (draft.filled outcomes).pack = .ok report.bytes) ∧
    ∀ name ∈ document.templateNames, ∃ source text, document.markup? name = some source ∧
      (draft.filled outcomes).markup? name = some text ∧
      ((∀ tag ∈ (scan source).tags, tag.tag.kind = .text) →
        FillsElements payload options.linebreaks source text) := by
  refine ⟨fun report completed => (Draft.of_complete completed).1, fun name mem => ?_⟩
  obtain ⟨placements, -, -, -, parts⟩ := Draft.exists_placements_filled made outcomes
  obtain ⟨source, block, text, there, part⟩ := parts name mem
  obtain ⟨pieces, fits, written⟩ := part.written
  refine ⟨source, text, there, part.text, fun texts => fillsElements_of_spliced ?_⟩
  refine (spliced_of_written fits written).imp fun span tag filling _ tagged filled => ?_
  exact fillsText_of_fills (texts tag tagged) filled

namespace Sample

/-- A picture that a tag describes. -/
def described : String :=
  "<wp:docPr descr=\"{{name}}\"/>"

/-- A value with everything that an attribute might end at. -/
def quoting : Payload :=
  { fields := [("name", .string "<b title='x'>\"A\"</b>")] }

theorem exists_described_report :
    ∃ report, render (withBody described) quoting {} fetch = .ok report :=
  Stencil.exists_report rfl (by decide +kernel)

/-- What stands between the brackets. -/
def describing : Markup :=
  "wp:docPr descr=\"{{name}}\"/".toList

theorem isElement_described : Markup.IsElement described.toList :=
  ⟨describing, by decide, rfl⟩

theorem not_breaks_described {tag : TagSpan} (tagged : tag ∈ (scan described.toList).tags) :
    ¬ tag.Breaks quoting true := by
  have named : ∀ tag ∈ (scan described.toList).tags, tag.tag.identifier = "name" := by
    decide +kernel
  have bound : (quoting.binding "name").text? = some "<b title='x'>\"A\"</b>" := by decide +kernel
  rintro ⟨value, found, -, lines⟩
  rw [named tag tagged, bound] at found
  cases found
  revert lines
  decide

end Sample

/-- The description of a picture is filled with brackets and quotes, and its element stays one. -/
theorem filled_keeps_attributes_quoting :
    (∀ tag ∈ (scan Sample.described.toList).tags, tag.tag.kind = .text) ∧
    ∃ draft, Draft.make (Sample.withBody Sample.described) Sample.quoting {} = .ok draft ∧
      ∀ outcomes, ∃ text, (draft.filled outcomes).markup? PartName.mainDocument = some text ∧
        FillsElements Sample.quoting true Sample.described.toList text ∧
        ∃ element, Markup.IsElement element ∧ element <:+: text := by
  have texts : ∀ tag ∈ (scan Sample.described.toList).tags, tag.tag.kind = .text := by
    decide +kernel
  obtain ⟨report, rendered⟩ := Sample.exists_described_report
  obtain ⟨draft, made, -⟩ := exists_draft_of_render rendered
  refine ⟨texts, draft, made, fun outcomes => ?_⟩
  obtain ⟨-, parts⟩ := filled_keeps_attributes made outcomes
  have there : (Sample.withBody Sample.described).markup? PartName.mainDocument =
      some Sample.described.toList := by decide +kernel
  obtain ⟨source, text, found, filled, keeps⟩ := parts PartName.mainDocument (by decide +kernel)
  cases Option.some.inj (there.symm.trans found)
  refine ⟨text, filled, keeps texts, ?_⟩
  have opening : Untagged Sample.described.toList 0 := by
    unfold Untagged
    decide +kernel
  have closing : Untagged Sample.described.toList (Text.byteSize ('<' :: Sample.describing)) := by
    unfold Untagged
    decide +kernel
  obtain ⟨earlier, inside, later, front, kept, back, split, rfl, -, filled, -⟩ :=
    keeps texts [] Sample.describing [] rfl (by decide) opening closing
  refine ⟨'<' :: kept ++ ['>'], filled.isElement.mpr fun tag listed => ?_, front, back, rfl⟩
  refine Sample.not_breaks_described (split ▸ ?_)
  exact List.mem_append_left later (List.mem_append_right earlier listed)

/-- A description of two lines is filled with a run break, and its element is none any more. -/
theorem filled_breaks_attribute :
    Markup.IsElement Sample.described.toList ∧
    ((filledDocument (Sample.withBody Sample.described) Sample.payload {}
      Sample.fetch).toOption.bind fun output => output.markup? PartName.mainDocument) =
        some "<wp:docPr descr=\"Ada</w:t><w:br/><w:t xml:space=\"preserve\">B.\"/>".toList ∧
    ¬ Markup.IsElement
      "<wp:docPr descr=\"Ada</w:t><w:br/><w:t xml:space=\"preserve\">B.\"/>".toList := by
  refine ⟨Sample.isElement_described, by decide +kernel, fun isElement => ?_⟩
  have whole := Markup.elements_of_isElement isElement []
  exact absurd whole (by decide +kernel)

end Stencil
