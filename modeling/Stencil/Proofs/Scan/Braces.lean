import Stencil.Proofs.Markup.Values
import Stencil.Proofs.Scan.Partition

/-! # Texts without braces

Every tag and everything that looks like one begins with a brace, so that a scan finds nothing in a
text without braces. Values and drawings are written without braces of their own.

Main statement: the braces of a source lie in its tags exactly if the text between the tags has
none.
-/

namespace Stencil

namespace BraceFree

theorem append {front back : Markup} (h : BraceFree front) (h' : BraceFree back) :
    BraceFree (front ++ back) :=
  List.forall_mem_append.mpr ⟨h, h'⟩

theorem of_subset {text whole : Markup} (h : BraceFree whole) (subset : text ⊆ whole) :
    BraceFree text :=
  fun c mem => h c (subset mem)

theorem flatten {parts : List Markup} (h : ∀ part ∈ parts, BraceFree part) :
    BraceFree parts.flatten := by
  intro c mem
  obtain ⟨part, listed, mem⟩ := List.mem_flatten.mp mem
  exact h part listed c mem

theorem not_mem_brace {text : Markup} (h : BraceFree text) : '{' ∉ text :=
  fun mem => absurd (h '{' mem) (by decide)

theorem of_isAlphanum {text : Markup} (h : ∀ c ∈ text, c.isAlphanum = true) : BraceFree text := by
  intro c mem
  have other : ∀ d ∈ ['{', '}'], c ≠ d := by
    rintro d listed rfl
    have fixed : ∀ d ∈ ['{', '}'], d.isAlphanum = false := List.all_iff_forall_prop.mp (by decide)
    exact Bool.eq_false_iff.mp (fixed c listed) (h c mem)
  simp only [List.forall_mem_cons] at other
  simp [isBody, other.1, other.2.1]

/-! ## Texts that are written -/

theorem escape {text : List Char} (h : BraceFree text) : BraceFree (Markup.escape text) := by
  intro c mem
  obtain ⟨d, listed, mem⟩ := List.mem_flatMap.mp mem
  rcases Markup.escapeChar_cases d with ⟨name, named, written⟩ | ⟨-, -, written⟩ | ⟨-, written⟩
  · have all : ∀ entity ∈ Markup.entities, BraceFree ('&' :: entity.2 ++ [';']) := by decide
    exact all _ named c (written ▸ mem)
  · rw [written, List.mem_singleton] at mem
    exact mem ▸ h d listed
  · rw [written] at mem
    cases mem

theorem join {separator : Markup} {pieces : List Markup} (free : BraceFree separator)
    (h : ∀ piece ∈ pieces, BraceFree piece) : BraceFree (Text.join separator pieces) := by
  fun_induction Text.join separator pieces with
  | case1 => exact List.forall_mem_nil _
  | case2 piece => exact h piece List.mem_cons_self
  | case3 piece rest _ ih =>
      rw [List.forall_mem_cons] at h
      exact (h.1.append free).append (ih h.2)

/-- A value without braces is written without them, and so are its run breaks. -/
theorem ofValue {value : List Char} (h : BraceFree value) (linebreaks : Bool) :
    BraceFree (Markup.ofValue value linebreaks) := by
  have replaced : BraceFree (Text.replaceChar '\x0b' ['\n'] value) := by
    intro c mem
    obtain ⟨d, listed, mem⟩ := List.mem_flatMap.mp mem
    split at mem
    · rw [List.mem_singleton.mp mem]
      rfl
    · rw [List.mem_singleton.mp mem]
      exact h d listed
  rw [Markup.ofValue]
  split
  · refine join (by decide) fun piece listed c mem => ?_
    exact replaced.escape c
      (Markup.mem_of_mem_joinLineEnds (Text.mem_of_mem_splitAll listed mem))
  · exact replaced.escape

section Tags

variable {name : String} {named : List (String × List Char)}

/-- Whether names and values of attributes have no brace. -/
def Attributes (named : List (String × List Char)) : Prop :=
  ∀ entry ∈ named, BraceFree entry.1.toList ∧ BraceFree entry.2

instance (named : List (String × List Char)) : Decidable (Attributes named) :=
  List.decidableBAll _ named

theorem Attributes.cons {value : List Char} (nameFree : BraceFree name.toList)
    (valueFree : BraceFree value) (h : Attributes named) : Attributes ((name, value) :: named) :=
  List.forall_mem_cons.mpr ⟨⟨nameFree, valueFree⟩, h⟩

theorem attributes (h : Attributes named) : BraceFree (Markup.attributes named) := by
  intro c mem
  obtain ⟨entry, listed, mem⟩ := List.mem_flatMap.mp mem
  have fixed : BraceFree [' ', '=', '\x22'] := by decide
  simp only [Markup.attributeText, List.cons_append, List.append_assoc, List.mem_cons,
    List.mem_append, List.not_mem_nil, or_false] at mem
  rcases mem with rfl | inName | rfl | rfl | inValue | rfl
  · exact fixed _ (by simp)
  · exact (h entry listed).1 c inName
  · exact fixed _ (by simp)
  · exact fixed _ (by simp)
  · exact (h entry listed).2 c inValue
  · exact fixed _ (by simp)

theorem startTag (nameFree : BraceFree name.toList) (h : Attributes named) :
    BraceFree (Markup.startTag name named) :=
  List.forall_mem_cons.mpr ⟨rfl, (nameFree.append (attributes h)).append (by decide)⟩

theorem endTag (nameFree : BraceFree name.toList) : BraceFree (Markup.endTag name) :=
  List.forall_mem_cons.mpr ⟨rfl, List.forall_mem_cons.mpr ⟨rfl, nameFree.append (by decide)⟩⟩

theorem emptyTag (nameFree : BraceFree name.toList) (h : Attributes named) :
    BraceFree (Markup.emptyTag name named) :=
  List.forall_mem_cons.mpr ⟨rfl, (nameFree.append (attributes h)).append (by decide)⟩

end Tags

theorem number (n : Nat) : BraceFree (Drawing.number n) :=
  of_isAlphanum fun c mem => by
    rw [Char.isAlphanum, Nat.isDigit_of_mem_toDigits (by decide) (by decide) mem, Bool.or_true]

/-- A drawing has no braces but those of its relationship and its file. -/
theorem inline {relationship file : List Char} (linked : BraceFree relationship)
    (stored : BraceFree file) (id width height : Nat) :
    BraceFree (Drawing.inline relationship id file width height) := by
  have extent : Attributes [("cx", Drawing.number (width * Drawing.unitsPerPixel)),
      ("cy", Drawing.number (height * Drawing.unitsPerPixel))] :=
    .cons (by decide) (number _) (.cons (by decide) (number _) (by decide))
  have title : Attributes [("id", Drawing.number id),
      ("name", "Picture ".toList ++ Drawing.number id)] :=
    .cons (by decide) (number _) (.cons (by decide) (append (by decide) (number _)) (by decide))
  have picture : Attributes [("id", ['0']), ("name", Markup.escape file)] :=
    .cons (by decide) (by decide) (.cons (by decide) stored.escape (by decide))
  have link : Attributes [("xmlns:r", Drawing.referenceNamespace),
      ("r:embed", Markup.escape relationship)] :=
    .cons (by decide) (by decide) (.cons (by decide) linked.escape (by decide))
  refine flatten ?_
  simp only [Drawing.inlineElements, List.forall_mem_cons]
  repeat' apply And.intro
  all_goals first
    | exact endTag (by decide)
    | exact startTag (by decide) (by decide)
    | exact emptyTag (by decide) (by assumption)
    | exact emptyTag (by decide) (by decide)
    | exact List.forall_mem_nil _

end BraceFree

/-! ## Texts that are scanned -/

theorem StandsIn.mem_brace {source before span after : Markup}
    (h : StandsIn source before span after) : '{' ∈ source := by
  obtain ⟨kind, body, -, rfl, rfl, -⟩ := h
  obtain ⟨rest, head⟩ := kind.enclose_head body
  exact List.mem_append_left after (List.mem_append_right before (head ▸ List.mem_cons_self))

theorem OpenerAt.mem_brace {source : Markup} {start : Nat} (h : OpenerAt source start) :
    '{' ∈ source := by
  obtain ⟨kind, before, after, rfl, -⟩ := h
  have first : '{' ∈ Tag.opening kind := by cases kind <;> decide
  exact List.mem_append_left after (List.mem_append_right before first)

namespace Scan

theorem mem_brace_of_mem_readsFrom {start : Nat} {source : Markup}
    {reading : TagSpan ⊕ MalformedSpan} (listed : reading ∈ readsFrom start (stretches source)) :
    '{' ∈ source := by
  obtain ⟨before, span, after, cut, -⟩ := mem_readsFrom.mp listed
  exact (cutAt_stretches.mp cut).mem_brace

end Scan

namespace BraceFree

variable {source : Markup}

/-- Nothing in a text without braces is a tag. -/
theorem tags_eq (h : BraceFree source) : (scan source).tags = [] :=
  List.eq_nil_iff_forall_not_mem.mpr fun _ mem =>
    h.not_mem_brace (Scan.mem_brace_of_mem_readsFrom (Scan.mem_tags.mp mem))

/-- Nothing in a text without braces looks like a tag. -/
theorem malformed_eq (h : BraceFree source) : (scan source).malformed = [] := by
  refine List.eq_nil_iff_forall_not_mem.mpr fun span mem => h.not_mem_brace ?_
  cases defect : span.defect with
  | invalidIdentifier => exact Scan.mem_brace_of_mem_readsFrom (Scan.mem_malformed.mp ⟨mem, defect⟩)
  | unterminated =>
      obtain ⟨opener, found, -⟩ := Scan.mem_unterminated.mp ⟨mem, defect⟩
      exact (Scan.openerAt_of_mem_openersFrom found).mem_brace

end BraceFree

theorem subset_of_mem_elements {text element : Markup} (listed : element ∈ Markup.elements text) :
    element ⊆ text := by
  obtain ⟨piece, found, isElement⟩ := List.mem_filterMap.mp listed
  have same : piece.text = element := by
    cases piece with
    | element => exact Option.some.inj isElement
    | plain => cases isElement
  intro c mem
  rw [← Markup.flatMap_text_pieces text]
  exact List.mem_flatMap.mpr ⟨piece, found, same ▸ mem⟩

/-- The elements inside a tag are elements of its body. -/
theorem braceFree_of_mem_markup {source element : Markup} {tag : TagSpan}
    (listed : tag ∈ (scan source).tags) (mem : element ∈ tag.markup) : BraceFree element := by
  obtain ⟨before, span, after, cut, read⟩ := Scan.mem_readsFrom.mp (Scan.mem_tags.mp listed)
  obtain ⟨kind, body, free, rfl, -⟩ := cutAt_stretches.mp cut
  rw [markup_of_readSpan read, elements_enclose] at mem
  exact free.of_subset (subset_of_mem_elements mem)

/-- Whether a byte lies in the range of one of the tags. -/
def InTags (tags : List TagSpan) (offset : Nat) : Prop :=
  ∃ tag ∈ tags, tag.start ≤ offset ∧ offset < tag.stop

/-- Whether every brace of a text that begins at byte `start` has its place among the given ones. -/
def BracesAt (places : Nat → Prop) (start : Nat) (text : Markup) : Prop :=
  ∀ before c after, text = before ++ c :: after → isBody c = false →
    places (start + Text.byteSize before)

/-- Whether every brace of the source lies in the range of one of its tags. -/
def BracesInTags (source : Markup) : Prop :=
  BracesAt (InTags (scan source).tags) 0 source

/-- The text of a segment that is kept. -/
def Segment.kept : Segment → Markup
  | literal text => text
  | tag _ => []

namespace BracesAt

variable {places places' : Nat → Prop} {start : Nat} {text : Markup}

theorem append_iff {back : Markup} : BracesAt places start (text ++ back) ↔
    BracesAt places start text ∧ BracesAt places (start + Text.byteSize text) back := by
  refine ⟨fun h => ⟨?_, ?_⟩, ?_⟩
  · rintro before c after rfl brace
    exact h before c (after ++ back) (by simp) brace
  · rintro before c after rfl brace
    rw [Nat.add_assoc, ← Text.byteSize_append]
    exact h (text ++ before) c after (by simp) brace
  · rintro ⟨front, behind⟩ before c after whole brace
    rcases List.append_eq_append_iff.mp whole with ⟨more, rfl, rest⟩ | ⟨more, rfl, rest⟩
    · rw [Text.byteSize_append, ← Nat.add_assoc]
      exact behind more c after rest brace
    · cases more with
      | nil => simpa using behind [] c after rest.symm brace
      | cons d more =>
          obtain ⟨rfl, -⟩ := List.cons.inj rest
          exact front before c more rfl brace

theorem congr (same : ∀ offset, start ≤ offset → (places offset ↔ places' offset)) :
    BracesAt places start text ↔ BracesAt places' start text :=
  forall₃_congr fun _ _ _ => forall₂_congr fun _ _ => same _ (Nat.le_add_right _ _)

/-- A brace at a place in the text begins before its end. -/
theorem byteSize_lt {before after : Markup} {c : Char} (whole : text = before ++ c :: after) :
    Text.byteSize before < Text.byteSize text := by
  have positive := c.utf8Size_pos
  rw [whole, Text.byteSize_append, Text.byteSize_cons]
  omega

theorem of_places (all : ∀ offset, start ≤ offset → offset < start + Text.byteSize text →
    places offset) : BracesAt places start text := fun _ _ _ whole _ =>
  all _ (Nat.le_add_right _ _) (Nat.add_lt_add_left (byteSize_lt whole) start)

theorem iff_braceFree (none : ∀ offset, places offset → start + Text.byteSize text ≤ offset) :
    BracesAt places start text ↔ BraceFree text := by
  refine ⟨fun h c mem => ?_, fun free before c after whole brace => ?_⟩
  · by_contra brace
    obtain ⟨before, after, whole⟩ := List.append_of_mem mem
    have behind := none _ (h before c after whole (Bool.eq_false_iff.mpr brace))
    have inside := byteSize_lt whole
    omega
  · have inner := free c (whole ▸ List.mem_append_right before List.mem_cons_self)
    rw [brace] at inner
    cases inner

end BracesAt

namespace Tiles

variable {start : Nat} {segments : List Segment} {source : Markup}

theorem start_le (h : Tiles start segments source) {offset : Nat}
    (inTags : InTags (segments.filterMap Segment.tag?) offset) : start ≤ offset := by
  induction h with
  | nil =>
      obtain ⟨tag, listed, -⟩ := inTags
      cases listed
  | literal _ _ _ _ ih => exact (Nat.le_add_right _ _).trans (ih inTags)
  | tag tag span range _ ih =>
      obtain ⟨other, listed, above, below⟩ := inTags
      rcases List.mem_cons.mp listed with rfl | mem
      · exact above
      · have behind := ih ⟨other, mem, above, below⟩
        omega

/-- The braces lie in the tags exactly if no segment keeps one. -/
theorem bracesAt_iff (h : Tiles start segments source) :
    BracesAt (InTags (segments.filterMap Segment.tag?)) start source ↔
      ∀ segment ∈ segments, BraceFree segment.kept := by
  induction h with
  | nil => exact iff_of_true (by simp [BracesAt]) (List.forall_mem_nil _)
  | literal text _ _ later ih =>
      rw [List.forall_mem_cons, ← ih, BracesAt.append_iff]
      exact and_congr (BracesAt.iff_braceFree fun _ => later.start_le) Iff.rfl
  | @tag rest source tag span range later ih =>
      have inside : BracesAt (InTags (tag :: rest.filterMap Segment.tag?)) tag.start span :=
        .of_places fun offset above below => ⟨tag, List.mem_cons_self, above, range ▸ below⟩
      have behind (offset : Nat) (past : tag.stop ≤ offset) :
          InTags (tag :: rest.filterMap Segment.tag?) offset ↔
            InTags (rest.filterMap Segment.tag?) offset :=
        (List.exists_mem_cons_iff _ _ _).trans (or_iff_right fun here => Nat.not_lt.mpr past here.2)
      rw [List.forall_mem_cons, ← ih, ← BracesAt.congr behind]
      refine BracesAt.append_iff.trans ?_
      rw [← range]
      exact and_congr (iff_of_true inside (List.forall_mem_nil _)) Iff.rfl

end Tiles

/-- The braces of a source lie in its tags exactly if the text between the tags has none. -/
theorem bracesInTags_iff {source : Markup} :
    BracesInTags source ↔ ∀ segment ∈ (scan source).segments, BraceFree segment.kept :=
  (Scan.tiles_segments source).bracesAt_iff

instance (source : Markup) : Decidable (BracesInTags source) :=
  decidable_of_iff' _ bracesInTags_iff

end Stencil
