import Stencil.Image.Drawing
import Stencil.Proofs.Markup.Escape
import Stencil.Proofs.Markup.Nesting
import Stencil.Proofs.Text.Search

/-! # Groups of elements in run text

A run break and a drawing close the text element around them and open it again, so that they may
stand wherever the text element is the innermost one. Their brackets are those of their own
elements, and so are the brackets of a value.
-/

namespace Stencil.Markup

/-- Whether names and values of attributes have no angle bracket. -/
def PlainAttributes (named : List (String × List Char)) : Prop :=
  ∀ entry ∈ named, Plain entry.1.toList ∧ Plain entry.2

instance (named : List (String × List Char)) : Decidable (PlainAttributes named) :=
  List.decidableBAll _ named

theorem PlainAttributes.cons {name : String} {value : List Char}
    {rest : List (String × List Char)} (named : Plain name.toList) (valued : Plain value)
    (h : PlainAttributes rest) : PlainAttributes ((name, value) :: rest) :=
  List.forall_mem_cons.mpr ⟨⟨named, valued⟩, h⟩

theorem plain_number (n : Nat) : Plain (Drawing.number n) := by
  intro c mem
  have digit : c.isDigit = true := Nat.isDigit_of_mem_toDigits (by decide) (by decide) mem
  have less : c ≠ '<' := fun same => absurd (same ▸ digit) (by decide)
  have greater : c ≠ '>' := fun same => absurd (same ▸ digit) (by decide)
  simp [isInner, less, greater]

section Tags

variable {name : String}

theorem plain_tagName (h : IsTagName name) : Plain name.toList := by
  intro c mem
  have other : ∀ d ∈ ['<', '>'], c ≠ d := by
    rintro d listed rfl
    have fixed : ∀ d ∈ ['<', '>'], ¬ (d.isAlphanum ∨ d = ':') :=
      List.all_iff_forall_prop.mp (by decide)
    exact fixed c listed (h.2 c mem)
  simp only [List.forall_mem_cons] at other
  simp [isInner, other.1, other.2.1]

theorem plain_attributes {named : List (String × List Char)} (h : PlainAttributes named) :
    Plain (attributes named) := by
  intro c mem
  obtain ⟨entry, listed, mem⟩ := List.mem_flatMap.mp mem
  simp only [attributeText, List.cons_append, List.append_assoc, List.mem_cons, List.mem_append,
    List.not_mem_nil, or_false] at mem
  rcases mem with rfl | inName | rfl | rfl | inValue | rfl
  · decide
  · exact (h entry listed).1 c inName
  · decide
  · decide
  · exact (h entry listed).2 c inValue
  · decide

theorem isElement_startTag (h : IsTagName name) {named : List (String × List Char)}
    (plain : PlainAttributes named) : IsElement (startTag name named) :=
  ⟨name.toList ++ attributes named, (plain_tagName h).append (plain_attributes plain), rfl⟩

theorem isElement_endTag (h : IsTagName name) : IsElement (endTag name) :=
  ⟨'/' :: name.toList, List.forall_mem_cons.mpr ⟨by decide, plain_tagName h⟩, rfl⟩

theorem isElement_emptyTag (h : IsTagName name) {named : List (String × List Char)}
    (plain : PlainAttributes named) : IsElement (emptyTag name named) := by
  refine ⟨name.toList ++ attributes named ++ ['/'],
    ((plain_tagName h).append (plain_attributes plain)).append (by decide), ?_⟩
  simp [emptyTag]

end Tags

/-- The elements of a drawing are elements. -/
theorem isElement_of_mem_inlineElements (relationship : List Char) (id : Nat) (file : List Char)
    (width height : Nat) :
    ∀ element ∈ Drawing.inlineElements relationship id file width height, IsElement element := by
  have extent : PlainAttributes [("cx", Drawing.number (width * Drawing.unitsPerPixel)),
      ("cy", Drawing.number (height * Drawing.unitsPerPixel))] :=
    .cons (by decide) (plain_number _) (.cons (by decide) (plain_number _) (by decide))
  have title : PlainAttributes [("id", Drawing.number id),
      ("name", "Picture ".toList ++ Drawing.number id)] :=
    .cons (by decide) (plain_number _)
      (.cons (by decide) (Plain.append (by decide) (plain_number _)) (by decide))
  have named : PlainAttributes [("id", ['0']), ("name", escape file)] :=
    .cons (by decide) (by decide) (.cons (by decide) (plain_escape _) (by decide))
  have linked : PlainAttributes [("xmlns:r", Drawing.referenceNamespace),
      ("r:embed", escape relationship)] :=
    .cons (by decide) (by decide) (.cons (by decide) (plain_escape _) (by decide))
  simp only [Drawing.inlineElements, List.forall_mem_cons]
  repeat' apply And.intro
  all_goals first
    | exact isElement_endTag (by decide)
    | exact isElement_startTag (by decide) (by decide)
    | exact isElement_emptyTag (by decide) (by assumption)
    | exact isElement_emptyTag (by decide) (by decide)
    | exact List.forall_mem_nil _

/-- A drawing may stand where the text of a run is the innermost element. -/
theorem nest_inlineElements (relationship : List Char) (id : Nat) (file : List Char)
    (width height : Nat) (below : List (List Char)) :
    nest ("w:t".toList :: below) (Drawing.inlineElements relationship id file width height) =
      some ("w:t".toList :: below) := by
  simp (disch := decide) only [Drawing.inlineElements, nest_endTag, nest_startTag, nest_emptyTag,
    nest_nil]

/-- The elements of a run break. -/
def runBreakElements : List Markup :=
  [endTag "w:t", emptyTag "w:br" [], startTag "w:t" [("xml:space", "preserve".toList)]]

/-- Elements that are added in place of a tag. -/
inductive IsGroup : List Markup → Prop where
  | runBreak : IsGroup runBreakElements
  | drawing (relationship : List Char) (id : Nat) (file : List Char) (width height : Nat) :
      IsGroup (Drawing.inlineElements relationship id file width height)

theorem IsGroup.isElement {group : List Markup} (h : IsGroup group) :
    ∀ element ∈ group, IsElement element := by
  cases h with
  | runBreak =>
      simp only [runBreakElements, List.forall_mem_cons]
      exact ⟨isElement_endTag (by decide), isElement_emptyTag (by decide) (by decide),
        isElement_startTag (by decide) (by decide), List.forall_mem_nil _⟩
  | drawing relationship id file width height =>
      exact isElement_of_mem_inlineElements relationship id file width height

/-- A group may stand where the text of a run is the innermost element. -/
theorem IsGroup.nest_eq {group : List Markup} (h : IsGroup group) (below : List (List Char)) :
    nest ("w:t".toList :: below) group = some ("w:t".toList :: below) := by
  cases h with
  | runBreak =>
      simp (disch := decide) only [runBreakElements, nest_endTag, nest_startTag, nest_emptyTag,
        nest_nil]
  | drawing relationship id file width height =>
      exact nest_inlineElements relationship id file width height below

/-- Complete groups, one after the other. -/
inductive Grouped : List Markup → Prop where
  | nil : Grouped []
  | group {group later} (isGroup : IsGroup group) (grouped : Grouped later) :
      Grouped (group ++ later)

theorem IsGroup.grouped {group : List Markup} (h : IsGroup group) : Grouped group := by
  have alone := Grouped.group h .nil
  rwa [List.append_nil] at alone

theorem Grouped.of_plain {text : Markup} (h : Plain text) : Grouped (elements text) := by
  rw [elements_of_inner h]
  exact .nil

theorem Grouped.nest_eq {elements : List Markup} (h : Grouped elements)
    (below : List (List Char)) :
    nest ("w:t".toList :: below) elements = some ("w:t".toList :: below) := by
  induction h with
  | nil => rfl
  | group isGroup _ ih => rw [nest_append, isGroup.nest_eq, Option.bind_some, ih]

/-- Whether no element that ends in the text begins before it, and none that begins in it ends
    behind it. -/
structure Sealed (text : Markup) : Prop where
  first : firstBracket? text ≠ some '>'
  last : lastBracket? text ≠ some '<'

namespace Sealed

theorem of_plain {text : Markup} (h : Plain text) : Sealed text where
  first := by rw [firstBracket?_eq_none.mpr h]; exact nofun
  last := by rw [lastBracket?_eq_none.mpr h]; exact nofun

theorem of_isElement {text : Markup} (h : IsElement text) : Sealed text where
  first := by rw [h.first]; decide
  last := by rw [h.last]; decide

theorem append {front back : Markup} (h : Sealed front) (h' : Sealed back) :
    Sealed (front ++ back) where
  first := by
    rw [firstBracket?_append]
    cases found : firstBracket? front with
    | none => exact h'.first
    | some c =>
        rw [Option.some_or, ← found]
        exact h.first
  last := by
    rw [lastBracket?_append]
    cases found : lastBracket? back with
    | none => exact h.last
    | some c =>
        rw [Option.some_or, ← found]
        exact h'.last

theorem elements_append {front : Markup} (h : Sealed front) (back : Markup) :
    elements (front ++ back) = elements front ++ elements back :=
  Markup.elements_append fun spans => h.last spans.1

end Sealed

/-- Elements one after the other. -/
theorem sealed_flatten {parts : List Markup} (h : ∀ element ∈ parts, IsElement element) :
    Sealed parts.flatten ∧ elements parts.flatten = parts := by
  induction parts with
  | nil => exact ⟨.of_plain (by decide), elements_nil⟩
  | cons element rest ih =>
      rw [List.forall_mem_cons] at h
      obtain ⟨isSealed, same⟩ := ih h.2
      rw [List.flatten_cons, elements_of_isElement h.1, same]
      exact ⟨(Sealed.of_isElement h.1).append isSealed, rfl⟩

/-- Text pieces without brackets and run breaks between them. -/
theorem grouped_join {pieces : List Markup} (h : ∀ piece ∈ pieces, Plain piece) :
    Sealed (Text.join runBreak pieces) ∧ Grouped (elements (Text.join runBreak pieces)) := by
  induction pieces with
  | nil => exact ⟨.of_plain (List.forall_mem_nil _), .of_plain (List.forall_mem_nil _)⟩
  | cons piece rest ih =>
      rw [List.forall_mem_cons] at h
      cases rest with
      | nil => exact ⟨.of_plain h.1, .of_plain h.1⟩
      | cons next rest =>
          obtain ⟨isSealed, grouped⟩ := ih h.2
          have broken : runBreakElements.flatten = runBreak := by decide
          obtain ⟨breakSealed, breakSame⟩ := sealed_flatten IsGroup.runBreak.isElement
          rw [broken] at breakSealed breakSame
          have leading := (Sealed.of_plain h.1).append breakSealed
          have joined : Text.join runBreak (piece :: next :: rest) =
              piece ++ runBreak ++ Text.join runBreak (next :: rest) := rfl
          refine ⟨joined ▸ leading.append isSealed, ?_⟩
          rw [joined, leading.elements_append, (Sealed.of_plain h.1).elements_append,
            elements_of_inner h.1, breakSame, List.nil_append]
          exact .group .runBreak grouped

theorem mem_of_mem_joinLineEnds {text : List Char} {c : Char} (mem : c ∈ joinLineEnds text) :
    c ∈ text := by
  fun_induction joinLineEnds text with
  | case1 rest ih =>
      rcases List.mem_cons.mp mem with rfl | later
      · simp
      · simp [ih later]
  | case2 c rest other ih =>
      rcases List.mem_cons.mp mem with rfl | later
      · exact List.mem_cons_self
      · exact List.mem_cons_of_mem _ (ih later)
  | case3 => cases mem

/-- The elements of a value are those of its run breaks. -/
theorem grouped_ofValue (value : List Char) (linebreaks : Bool) :
    Sealed (ofValue value linebreaks) ∧ Grouped (elements (ofValue value linebreaks)) := by
  have plain := plain_escape (Text.replaceChar '\x0b' ['\n'] value)
  rw [ofValue]
  split
  · refine grouped_join fun piece listed c mem => ?_
    exact plain c (mem_of_mem_joinLineEnds (Text.mem_of_mem_splitAll listed mem))
  · exact ⟨.of_plain plain, .of_plain plain⟩

end Stencil.Markup
