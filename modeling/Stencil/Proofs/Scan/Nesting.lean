import Stencil.Proofs.Markup.Groups
import Stencil.Proofs.Scan.Splice

/-! # Elements of splices

Where no tag begins or ends inside an element, no element of a source is lost, fused or made at
the seams of a splice: a filling adds the groups it has, and keeps the elements of its tag.

Main statements: `Spliced.grown`, `Spliced.balanced`.
-/

namespace Stencil

namespace Markup

/-- Elements to which only complete groups were added. -/
inductive Grown : List Markup → List Markup → Prop where
  | nil : Grown [] []
  | kept {before after} (element : Markup) (later : Grown before after) :
      Grown (element :: before) (element :: after)
  | added {before after group} (isGroup : IsGroup group) (later : Grown before after) :
      Grown before (group ++ after)

namespace Grown

theorem sublist {before after : List Markup} (h : Grown before after) : before.Sublist after := by
  induction h with
  | nil => exact .slnil
  | kept element _ ih => exact .cons_cons element ih
  | added isGroup _ ih => exact ih.trans (List.sublist_append_right _ _)

theorem keep {before after : List Markup} (elements : List Markup) (h : Grown before after) :
    Grown (elements ++ before) (elements ++ after) := by
  induction elements with
  | nil => exact h
  | cons element _ ih => exact .kept element ih

theorem refl (elements : List Markup) : Grown elements elements := by
  have grown := Grown.nil.keep elements
  rwa [List.append_nil] at grown

theorem add {before after lead : List Markup} (grouped : Grouped lead) (h : Grown before after) :
    Grown before (lead ++ after) := by
  induction grouped with
  | nil => exact h
  | group isGroup _ ih =>
      rw [List.append_assoc]
      exact .added isGroup ih

end Grown

theorem exists_of_firstBracket? {text : Markup} {c : Char} (h : firstBracket? text = some c) :
    ∃ inner rest, Plain inner ∧ text = inner ++ c :: rest := by
  obtain ⟨-, inner, rest, whole, plain⟩ := List.find?_eq_some_iff_append.mp h
  exact ⟨inner, rest, fun d mem => by simpa using plain d mem, whole⟩

theorem exists_of_lastBracket? {text : Markup} {c : Char} (h : lastBracket? text = some c) :
    ∃ rest inner, Plain inner ∧ text = rest ++ c :: inner := by
  obtain ⟨inner, rest, plain, whole⟩ := exists_of_firstBracket? h
  refine ⟨rest.reverse, inner.reverse, fun d mem => plain d (List.mem_reverse.mp mem), ?_⟩
  have turned := congrArg List.reverse whole
  simpa using turned

theorem firstBracket?_cons_of_ne {c : Char} (inner : isInner c) (rest : Markup) :
    firstBracket? (c :: rest) = firstBracket? rest :=
  List.find?_cons_of_neg (by simp [inner])

/-- Brackets that make no element and begin with an opening one are opening ones. -/
theorem lastBracket?_of_elements_nil {text : Markup} (bare : elements text = [])
    (h : firstBracket? text = some '<') : lastBracket? text = some '<' := by
  induction text using element_induction with
  | nil => cases h
  | element element rest isElement _ =>
      rw [elements_of_isElement isElement] at bare
      cases bare
  | plain c rest absent ih =>
      rw [elements_of_plain absent] at bare
      by_cases opening : c = '<'
      · subst opening
        cases later : firstBracket? rest with
        | none => rw [lastBracket?_cons_of_none later]; rfl
        | some d =>
            rcases firstBracket?_of_mem later with rfl | rfl
            · exact lastBracket?_append_of_some ['<'] (ih bare later)
            · exact absurd later (takeElement?_eq_none.mp absent rfl)
      · have inner : isInner c := by
          by_contra outer
          have first : firstBracket? (c :: rest) = some c :=
            List.find?_cons_of_pos (by simp [outer])
          exact opening (Option.some.inj (first.symm.trans h))
        rw [firstBracket?_cons_of_ne inner] at h
        exact lastBracket?_append_of_some [c] (ih bare h)

end Markup

/-- Whether an element begins before a byte of the source and ends behind it. -/
def InsideElement (source : Markup) (offset : Nat) : Prop :=
  ∃ before element after, source = before ++ element ++ after ∧ Markup.IsElement element ∧
    Text.byteSize before < offset ∧ offset < Text.byteSize (before ++ element)

theorem not_spans_of_not_insideElement {before after : Markup}
    (h : ¬ InsideElement (before ++ after) (Text.byteSize before)) :
    ¬ Markup.Spans before after := by
  rintro ⟨opened, closed⟩
  obtain ⟨front, inner, plain, rfl⟩ := Markup.exists_of_lastBracket? opened
  obtain ⟨inner', back, plain', rfl⟩ := Markup.exists_of_firstBracket? closed
  refine h ⟨front, '<' :: (inner ++ inner') ++ ['>'], back, by simp, ?_, ?_, ?_⟩
  · exact ⟨inner ++ inner', plain.append plain', rfl⟩
  · have := ('<' : Char).utf8Size_pos
    simp only [Text.byteSize_append, Text.byteSize_cons]
    omega
  · have := ('>' : Char).utf8Size_pos
    simp only [Text.byteSize_append, Text.byteSize_cons, List.cons_append]
    omega

theorem not_insideElement {before after : Markup} (apart : ¬ Markup.Spans before after) :
    ¬ InsideElement (before ++ after) (Text.byteSize before) := by
  rintro ⟨front, element, back, whole, ⟨inner, plain, spelled⟩, above, below⟩
  rw [List.append_assoc] at whole
  -- the element is cut into what stands before the byte and what stands behind it
  obtain ⟨opened, rfl, rest⟩ := Text.exists_of_byteSize_le whole.symm (Nat.le_of_lt above)
  rw [Text.byteSize_append, Text.byteSize_append] at below
  obtain ⟨closed, rfl, rfl⟩ := Text.exists_of_byteSize_le rest.symm (by omega)
  cases opened with
  | nil => simp at above
  | cons c opened =>
      rcases List.eq_nil_or_concat closed with rfl | ⟨closed, last, rfl⟩
      · simp at below
      · simp only [List.concat_eq_append, List.cons_append, ← List.append_assoc,
          List.cons.injEq] at spelled
        obtain ⟨rfl, spelled⟩ := spelled
        obtain ⟨rfl, ends⟩ := List.append_inj' spelled rfl
        cases ends
        have plain := List.forall_mem_append.mp plain
        refine apart ⟨?_, ?_⟩
        · refine Markup.lastBracket?_append_of_some front ?_
          rw [Markup.lastBracket?_cons_of_none (Markup.firstBracket?_eq_none.mpr plain.1)]
          rfl
        · rw [List.concat_eq_append, List.append_assoc, Markup.firstBracket?_append,
            Markup.firstBracket?_eq_none.mpr plain.2]
          rfl

theorem not_insideElement_take {source : Markup} (n : Nat)
    (apart : ¬ Markup.Spans (source.take n) (source.drop n)) :
    ¬ InsideElement source (Text.byteSize (source.take n)) := by
  have outside := not_insideElement apart
  rwa [List.take_append_drop] at outside

/-- Whether the text of a run is the innermost open element at a byte of the source. -/
def InRunText (source : Markup) (offset : Nat) : Prop :=
  ∃ before after below, source = before ++ after ∧ Text.byteSize before = offset ∧
    Markup.nest [] (Markup.elements before) = some ("w:t".toList :: below)

/-- A filling has the elements of its span behind complete groups, and no other brackets. -/
structure Regular (span filling : Markup) : Prop where
  isSealed : Markup.Sealed filling
  leads : ∃ lead, Markup.Grouped lead ∧ Markup.elements filling = lead ++ Markup.elements span

open Markup in
theorem Regular.firstBracket?_append {span filling source text : Markup}
    (regular : Regular span filling) (apart : ¬ Spans span source)
    (kept : firstBracket? text = some '>' → firstBracket? source = some '>')
    (h : firstBracket? (filling ++ text) = some '>') :
    firstBracket? (span ++ source) = some '>' := by
  rw [Markup.firstBracket?_append] at h ⊢
  cases first : firstBracket? filling with
  | some c =>
      rw [first, Option.some_or, ← first] at h
      exact absurd h regular.isSealed.first
  | none =>
      rw [first, Option.none_or] at h
      obtain ⟨lead, -, same⟩ := regular.leads
      have bare : elements span = [] := by
        rw [elements_of_inner (firstBracket?_eq_none.mp first)] at same
        exact (List.append_eq_nil_iff.mp same.symm).2
      cases opened : firstBracket? span with
      | none => exact kept h
      | some d =>
          rcases firstBracket?_of_mem opened with rfl | rfl
          · exact absurd ⟨lastBracket?_of_elements_nil bare opened, kept h⟩ apart
          · rfl

/-- No tag begins or ends inside an element, where the source stands behind a text. -/
def TagsOutside (before source : Markup) (tags : List TagSpan) : Prop :=
  ∀ tag ∈ tags, ¬ InsideElement (before ++ source) tag.start ∧
    ¬ InsideElement (before ++ source) tag.stop

/-- The seams around the first tag of a source, and the tags behind it. -/
structure Seams (before literal span source : Markup) (tag : TagSpan) (tags : List TagSpan) :
    Prop where
  start : tag.start = Text.byteSize (before ++ literal)
  stop : tag.stop = Text.byteSize (before ++ literal ++ span)
  opening : ¬ Markup.Spans (before ++ literal) (span ++ source)
  closing : ¬ Markup.Spans (before ++ literal ++ span) source
  later : TagsOutside (before ++ literal ++ span) source tags

theorem TagsOutside.seams {before literal span source : Markup} {tag : TagSpan}
    {tags : List TagSpan} (outside : TagsOutside before (literal ++ span ++ source) (tag :: tags))
    (read : Scan.readSpan (Text.byteSize before + Text.byteSize literal) span = .inl tag) :
    Seams before literal span source tag tags := by
  have range := Scan.rangeOf_readSpan (Text.byteSize before + Text.byteSize literal) span
  rw [read, ← Text.byteSize_append, ← Text.byteSize_append] at range
  have start : tag.start = _ := congrArg Prod.fst range
  have stop : tag.stop = _ := congrArg Prod.snd range
  have whole : before ++ (literal ++ span ++ source) = before ++ literal ++ span ++ source := by
    simp only [List.append_assoc]
  unfold TagsOutside at outside
  rw [whole] at outside
  obtain ⟨⟨before, behind⟩, later⟩ := List.forall_mem_cons.mp outside
  rw [start, List.append_assoc _ span] at before
  rw [stop] at behind
  exact ⟨start, stop, not_spans_of_not_insideElement before,
    not_spans_of_not_insideElement behind, later⟩

namespace Seams

open Markup

variable {before literal span source filling text : Markup} {tag : TagSpan} {tags : List TagSpan}

theorem literal_apart (h : Seams before literal span source tag tags) :
    ¬ Spans literal (span ++ source) :=
  fun spans => h.opening ⟨lastBracket?_append_of_some before spans.1, spans.2⟩

theorem span_apart (h : Seams before literal span source tag tags) : ¬ Spans span source :=
  fun spans => h.closing ⟨lastBracket?_append_of_some (before ++ literal) spans.1, spans.2⟩

theorem elements_source (h : Seams before literal span source tag tags) :
    elements (literal ++ span ++ source) =
      elements literal ++ (elements span ++ elements source) := by
  rw [List.append_assoc, elements_append h.literal_apart, elements_append h.span_apart]

theorem firstBracket?_text (h : Seams before literal span source tag tags)
    (regular : Regular span filling)
    (kept : firstBracket? text = some '>' → firstBracket? source = some '>')
    (first : firstBracket? (literal ++ filling ++ text) = some '>') :
    firstBracket? (literal ++ span ++ source) = some '>' := by
  rw [List.append_assoc, firstBracket?_append] at first ⊢
  cases found : firstBracket? literal with
  | some c =>
      rw [found] at first
      exact first
  | none =>
      rw [found, Option.none_or] at first
      exact regular.firstBracket?_append h.span_apart kept first

theorem elements_text (h : Seams before literal span source tag tags)
    (regular : Regular span filling)
    (kept : firstBracket? text = some '>' → firstBracket? source = some '>') :
    ∃ lead, Grouped lead ∧ elements (literal ++ filling ++ text) =
      elements literal ++ (lead ++ (elements span ++ elements text)) := by
  obtain ⟨lead, grouped, same⟩ := regular.leads
  have apart : ¬ Spans literal (filling ++ text) := fun spans =>
    h.literal_apart ⟨spans.1, regular.firstBracket?_append h.span_apart kept spans.2⟩
  refine ⟨lead, grouped, ?_⟩
  rw [List.append_assoc, elements_append apart, regular.isSealed.elements_append, same,
    List.append_assoc]

end Seams

namespace Spliced

open Markup

variable {fill : Markup → TagSpan → Markup → Prop} {before source text : Markup}
  {tags : List TagSpan} {start : Nat}

theorem firstBracket?_source
    (regular : ∀ span tag filling, fill span tag filling → Regular span filling)
    (spliced : Spliced fill start source tags text) (placed : start = Text.byteSize before)
    (outside : TagsOutside before source tags) :
    firstBracket? text = some '>' → firstBracket? source = some '>' := by
  induction spliced generalizing before with
  | plain => exact id
  | tag read filled _ ih =>
      subst placed
      have seams := outside.seams read
      exact seams.firstBracket?_text (regular _ _ _ filled) (ih seams.stop seams.later)

/-- The elements of a source stay in their order, and complete groups are added. -/
theorem grown (regular : ∀ span tag filling, fill span tag filling → Regular span filling)
    (spliced : Spliced fill start source tags text) (placed : start = Text.byteSize before)
    (outside : TagsOutside before source tags) : Grown (elements source) (elements text) := by
  induction spliced generalizing before with
  | plain start literal => exact .refl _
  | tag read filled later ih =>
      subst placed
      have seams := outside.seams read
      have kept := later.firstBracket?_source regular seams.stop seams.later
      obtain ⟨lead, grouped, same⟩ := seams.elements_text (regular _ _ _ filled) kept
      rw [seams.elements_source, same]
      exact ((ih seams.stop seams.later).keep _ |>.add grouped).keep _

/-- Behind a text that leaves elements open, a source and its splice open and close the same. -/
theorem nest_eq (regular : ∀ span tag filling, fill span tag filling → Regular span filling)
    (spliced : Spliced fill start source tags text) (placed : start = Text.byteSize before)
    (outside : TagsOutside before source tags)
    (inText : ∀ tag ∈ tags, InRunText (before ++ source) tag.start)
    {stack : List (List Char)} (opened : nest [] (elements before) = some stack)
    (apart : ¬ Spans before source) :
    nest stack (elements text) = nest stack (elements source) := by
  induction spliced generalizing before stack with
  | plain start literal => rfl
  | @tag _ literal span filling source text tag tags read filled later ih =>
      subst placed
      have seams := outside.seams read
      have kept := later.firstBracket?_source regular seams.stop seams.later
      obtain ⟨lead, grouped, same⟩ := seams.elements_text (regular _ _ _ filled) kept
      have whole : before ++ (literal ++ span ++ source) =
          before ++ literal ++ (span ++ source) := by
        simp only [List.append_assoc]
      have leading : elements (before ++ literal) = elements before ++ elements literal := by
        refine elements_append fun spans => apart ⟨spans.1, ?_⟩
        rw [List.append_assoc, firstBracket?_append, spans.2, Option.some_or]
      rw [List.forall_mem_cons] at inText
      -- the tag begins in the text of a run, so that the groups leave the open elements as they are
      obtain ⟨front, back, below, cut, size, inside⟩ := inText.1
      obtain ⟨rfl, -⟩ := Text.append_inj_of_byteSize (cut.symm.trans whole) (size.trans seams.start)
      rw [leading, nest_append, opened, Option.bind_some] at inside
      rw [same, seams.elements_source, nest_append, nest_append stack, inside, Option.bind_some,
        Option.bind_some, nest_append, grouped.nest_eq, Option.bind_some, nest_append,
        nest_append _ (elements span)]
      cases following : nest ("w:t".toList :: below) (elements span) with
      | none => rfl
      | some stack' =>
          refine ih seams.stop seams.later ?_ ?_ seams.closing
          · rw [whole, ← List.append_assoc] at inText
            exact inText.2
          · have spanned : ¬ Spans (before ++ literal) span := fun spans => seams.opening
              ⟨spans.1, by rw [firstBracket?_append, spans.2, Option.some_or]⟩
            rw [elements_append spanned, leading, nest_append, nest_append, opened,
              Option.bind_some, inside, Option.bind_some, following]

/-- A splice of a source with balanced elements has balanced elements. -/
theorem balanced (regular : ∀ span tag filling, fill span tag filling → Regular span filling)
    (spliced : Spliced fill 0 source tags text) (outside : TagsOutside [] source tags)
    (inText : ∀ tag ∈ tags, InRunText source tag.start) (h : Balanced (elements source)) :
    Balanced (elements text) := by
  have same := spliced.nest_eq regular rfl outside inText (congrArg (nest []) elements_nil)
    fun spans => nomatch spans.1
  exact same.trans h

end Spliced

end Stencil
