import Mathlib.Data.List.TakeWhile
import Stencil.Markup.Element

/-! # Elements of joined texts

The elements of a text are found from the left, character by character. Two texts that are
joined keep their elements unless one spans the seam, and whether it does is told by the last
angle bracket before the seam and the first one behind it.
-/

namespace Stencil.Markup

/-- Whether no character of the text is an angle bracket. -/
def Plain (text : Markup) : Prop :=
  ∀ c ∈ text, isInner c

instance (text : Markup) : Decidable (Plain text) :=
  List.decidableBAll _ text

theorem Plain.append {front back : Markup} (h : Plain front) (h' : Plain back) :
    Plain (front ++ back) :=
  List.forall_mem_append.mpr ⟨h, h'⟩

/-- An opening angle bracket, characters that are none, and a closing one. -/
def IsElement (text : Markup) : Prop :=
  ∃ inner, Plain inner ∧ text = '<' :: inner ++ ['>']

/-- The first angle bracket of a text. -/
def firstBracket? (text : Markup) : Option Char :=
  text.find? fun c => !isInner c

/-- The last angle bracket of a text. -/
def lastBracket? (text : Markup) : Option Char :=
  firstBracket? text.reverse

/-- Whether an element may begin in the first text and end in the second. -/
def Spans (front back : Markup) : Prop :=
  lastBracket? front = some '<' ∧ firstBracket? back = some '>'

instance (front back : Markup) : Decidable (Spans front back) :=
  inferInstanceAs (Decidable (_ ∧ _))

theorem firstBracket?_append (front back : Markup) :
    firstBracket? (front ++ back) = (firstBracket? front).or (firstBracket? back) :=
  List.find?_append

theorem lastBracket?_append (front back : Markup) :
    lastBracket? (front ++ back) = (lastBracket? back).or (lastBracket? front) := by
  rw [lastBracket?, List.reverse_append, firstBracket?_append]
  rfl

theorem firstBracket?_eq_none {text : Markup} : firstBracket? text = none ↔ Plain text := by
  simp [firstBracket?, Plain]

theorem lastBracket?_eq_none {text : Markup} : lastBracket? text = none ↔ Plain text := by
  simp [lastBracket?, firstBracket?_eq_none, Plain]

theorem firstBracket?_of_mem {text : Markup} {c : Char} (h : firstBracket? text = some c) :
    c = '<' ∨ c = '>' := by
  have outer := List.find?_some h
  simp only [isInner, Bool.not_and, Bool.or_eq_true, Bool.not_eq_true', bne_eq_false_iff_eq]
    at outer
  exact outer

theorem not_spans_of_plain_left {front : Markup} (h : Plain front) (back : Markup) :
    ¬ Spans front back := by
  rintro ⟨opened, -⟩
  rw [lastBracket?_eq_none.mpr h] at opened
  cases opened

theorem not_spans_of_plain_right (front : Markup) {back : Markup} (h : Plain back) :
    ¬ Spans front back := by
  rintro ⟨-, closed⟩
  rw [firstBracket?_eq_none.mpr h] at closed
  cases closed

theorem IsElement.first {element : Markup} (h : IsElement element) :
    firstBracket? element = some '<' := by
  obtain ⟨inner, _, rfl⟩ := h
  rfl

theorem IsElement.last {element : Markup} (h : IsElement element) :
    lastBracket? element = some '>' := by
  obtain ⟨inner, _, rfl⟩ := h
  simp [lastBracket?, firstBracket?, isInner]

theorem IsElement.ne_nil {element : Markup} (h : IsElement element) : element ≠ [] := by
  obtain ⟨inner, _, rfl⟩ := h
  simp

/-- An element is closed by its last character. -/
theorem IsElement.not_mem_of_append {front back : Markup} (h : IsElement (front ++ back))
    (nonempty : back ≠ []) : '>' ∉ front := by
  obtain ⟨inner, plain, spelled⟩ := h
  have same : front ++ back.dropLast = '<' :: inner := by
    rw [← List.dropLast_append_of_ne_nil nonempty, spelled, List.dropLast_concat]
  intro mem
  have within : '>' ∈ '<' :: inner := same ▸ List.mem_append_left _ mem
  rcases List.mem_cons.mp within with less | within
  · cases less
  · exact absurd (plain '>' within) (by decide)

/-- An element stands at the start of a text exactly when one is found there. -/
theorem takeElement?_eq_some {text element after : Markup} :
    takeElement? text = some (element, after) ↔ IsElement element ∧ text = element ++ after := by
  constructor
  · intro found
    refine ⟨?_, (append_of_takeElement? found).1.symm⟩
    unfold takeElement? at found
    split at found
    · next rest =>
      split at found
      · simp only [Option.some.injEq, Prod.mk.injEq] at found
        exact ⟨rest.takeWhile isInner, List.all_eq_true.mp List.all_takeWhile, found.1.symm⟩
      · cases found
    · cases found
  · rintro ⟨⟨inner, isInner, rfl⟩, rfl⟩
    simp only [takeElement?, List.cons_append, List.append_assoc, List.nil_append]
    rw [List.dropWhile_append_of_pos isInner, List.takeWhile_append_of_pos isInner]
    simp [Markup.isInner]

theorem takeElement?_of_isElement {element : Markup} (h : IsElement element) (after : Markup) :
    takeElement? (element ++ after) = some (element, after) :=
  takeElement?_eq_some.mpr ⟨h, rfl⟩

private theorem pieces_of_takeElement? {text element after : Markup}
    (h : takeElement? text = some (element, after)) :
    pieces text = .element element :: pieces after := by
  cases text with
  | nil => simp [takeElement?] at h
  | cons c rest =>
      rw [pieces]
      split
      · next found =>
        rw [h] at found
        cases found
        rfl
      · next absent => rw [h] at absent; cases absent

private theorem pieces_of_takeElement?_none {c : Char} {rest : Markup}
    (h : takeElement? (c :: rest) = none) :
    pieces (c :: rest) =
      .plain (c :: rest.takeWhile (· != '<')) :: pieces (rest.dropWhile (· != '<')) := by
  rw [pieces]
  split
  · next found => rw [h] at found; cases found
  · rfl

@[simp] theorem elements_nil : elements [] = [] := by simp [elements, pieces]

@[simp] theorem visible_nil : visible [] = [] := by simp [visible, pieces]

theorem elements_of_isElement {element : Markup} (h : IsElement element) (after : Markup) :
    elements (element ++ after) = element :: elements after := by
  simp [elements, pieces_of_takeElement? (takeElement?_of_isElement h after), MarkupPiece.element?]

theorem visible_of_isElement {element : Markup} (h : IsElement element) (after : Markup) :
    visible (element ++ after) = visible after := by
  simp [visible, pieces_of_takeElement? (takeElement?_of_isElement h after), MarkupPiece.visible]

private theorem takeElement?_of_ne {c : Char} (h : c ≠ '<') (rest : Markup) :
    takeElement? (c :: rest) = none := by
  unfold takeElement?
  split
  · next same => exact absurd (List.cons.inj same).1 h
  · rfl

/-- Nothing is found before the next opening bracket. -/
private theorem pieces_skip (text : Markup) :
    elements text = elements (text.dropWhile (· != '<')) ∧
      visible text = text.takeWhile (· != '<') ++ visible (text.dropWhile (· != '<')) := by
  cases text with
  | nil => simp
  | cons c rest =>
      by_cases here : c = '<'
      · simp [here]
      · have step := pieces_of_takeElement?_none (takeElement?_of_ne here rest)
        simp [elements, visible, step, List.filterMap_cons, MarkupPiece.element?,
          MarkupPiece.visible, here]

theorem elements_of_plain {c : Char} {rest : Markup} (h : takeElement? (c :: rest) = none) :
    elements (c :: rest) = elements rest := by
  rw [(pieces_skip rest).1]
  simp [elements, pieces_of_takeElement?_none h, List.filterMap_cons, MarkupPiece.element?]

theorem visible_of_plain {c : Char} {rest : Markup} (h : takeElement? (c :: rest) = none) :
    visible (c :: rest) = c :: visible rest := by
  rw [(pieces_skip rest).2]
  simp [visible, pieces_of_takeElement?_none h, MarkupPiece.visible]

/-- A text is read from the left by whole elements and by single characters that begin none. -/
@[elab_as_elim]
theorem element_induction {motive : Markup → Prop} (text : Markup) (nil : motive [])
    (element : ∀ element rest, IsElement element → motive rest → motive (element ++ rest))
    (plain : ∀ c rest, takeElement? (c :: rest) = none → motive rest → motive (c :: rest)) :
    motive text := by
  induction size : text.length using Nat.strongRecOn generalizing text with
  | ind n ih =>
      cases text with
      | nil => exact nil
      | cons c rest =>
          cases found : takeElement? (c :: rest) with
          | none =>
              simp only [List.length_cons] at size
              exact plain c rest found (ih rest.length (by omega) rest rfl)
          | some cut =>
              obtain ⟨isElement, whole⟩ := takeElement?_eq_some.mp found
              have longer := List.length_pos_iff.mpr isElement.ne_nil
              have sizes := congrArg List.length whole
              simp only [List.length_append] at sizes
              rw [whole]
              exact element cut.1 cut.2 isElement (ih cut.2.length (by omega) cut.2 rfl)

/-- No element begins a text exactly when it begins with no opening bracket or the next bracket
    is no closing one. -/
theorem takeElement?_eq_none {c : Char} {rest : Markup} :
    takeElement? (c :: rest) = none ↔ (c = '<' → firstBracket? rest ≠ some '>') := by
  by_cases here : c = '<'
  · subst here
    rw [firstBracket?, List.find?_not_eq_head?_dropWhile]
    simp only [takeElement?, forall_const]
    split
    · next found => simp [found]
    · next absent =>
      refine iff_of_true rfl fun closed => ?_
      obtain ⟨after, found⟩ := List.head?_eq_some_iff.mp closed
      exact absent after found
  · simp [takeElement?_of_ne here rest, here]

theorem lastBracket?_cons_of_none {c : Char} {rest : Markup}
    (h : firstBracket? rest = none) : lastBracket? (c :: rest) = lastBracket? [c] := by
  rw [← List.singleton_append, lastBracket?_append,
    lastBracket?_eq_none.mpr (firstBracket?_eq_none.mp h), Option.none_or]

theorem lastBracket?_append_of_some (front : Markup) {rest : Markup} {c : Char}
    (h : lastBracket? rest = some c) : lastBracket? (front ++ rest) = some c := by
  rw [lastBracket?_append, h, Option.some_or]

/-- Joined texts are read one after the other unless an element spans the seam. -/
theorem takeElement?_append {c : Char} {front back : Markup}
    (absent : takeElement? (c :: front) = none) (apart : ¬ Spans (c :: front) back) :
    takeElement? (c :: (front ++ back)) = none := by
  rw [takeElement?_eq_none]
  rintro rfl
  have open' := takeElement?_eq_none.mp absent rfl
  rw [firstBracket?_append]
  cases inside : firstBracket? front with
  | some d => rw [inside] at open'; exact open'
  | none =>
      intro closed
      exact apart ⟨by rw [lastBracket?_cons_of_none inside]; rfl, by simpa using closed⟩

theorem elements_append {front back : Markup} (apart : ¬ Spans front back) :
    elements (front ++ back) = elements front ++ elements back := by
  induction front using element_induction with
  | nil => simp
  | element element rest isElement ih =>
      rw [List.append_assoc, elements_of_isElement isElement, elements_of_isElement isElement,
        ih fun spans => apart ⟨lastBracket?_append_of_some element spans.1, spans.2⟩,
        List.cons_append]
  | plain c rest absent ih =>
      rw [elements_of_plain absent, List.cons_append,
        elements_of_plain (takeElement?_append absent apart),
        ih fun spans => apart ⟨lastBracket?_append_of_some [c] spans.1, spans.2⟩]

theorem visible_append {front back : Markup} (apart : ¬ Spans front back) :
    visible (front ++ back) = visible front ++ visible back := by
  induction front using element_induction with
  | nil => simp
  | element element rest isElement ih =>
      rw [List.append_assoc, visible_of_isElement isElement, visible_of_isElement isElement,
        ih fun spans => apart ⟨lastBracket?_append_of_some element spans.1, spans.2⟩]
  | plain c rest absent ih =>
      rw [visible_of_plain absent, List.cons_append,
        visible_of_plain (takeElement?_append absent apart),
        ih fun spans => apart ⟨lastBracket?_append_of_some [c] spans.1, spans.2⟩,
        List.cons_append]

/-- A text without angle brackets has no elements, and all of it is seen. -/
theorem elements_of_inner {text : Markup} (h : Plain text) : elements text = [] := by
  induction text with
  | nil => exact elements_nil
  | cons c rest ih =>
      have free : firstBracket? rest = none :=
        firstBracket?_eq_none.mpr fun d mem => h d (List.mem_cons_of_mem c mem)
      rw [elements_of_plain (takeElement?_eq_none.mpr fun _ => by simp [free])]
      exact ih fun d mem => h d (List.mem_cons_of_mem c mem)

theorem visible_of_inner {text : Markup} (h : Plain text) : visible text = text := by
  induction text with
  | nil => exact visible_nil
  | cons c rest ih =>
      have free : firstBracket? rest = none :=
        firstBracket?_eq_none.mpr fun d mem => h d (List.mem_cons_of_mem c mem)
      rw [visible_of_plain (takeElement?_eq_none.mpr fun _ => by simp [free]),
        ih fun d mem => h d (List.mem_cons_of_mem c mem)]

/-- An element that stands anywhere in a text is one of its elements. -/
theorem elements_around {before element after : Markup} (h : IsElement element) :
    elements (before ++ element ++ after) = elements before ++ element :: elements after := by
  rw [List.append_assoc, elements_append, elements_of_isElement h]
  rintro ⟨-, closed⟩
  rw [firstBracket?_append, h.first] at closed
  cases closed

/-- Each of the elements of a text is an element that stands in it. -/
theorem isElement_of_mem_elements {text element : Markup} (h : element ∈ elements text) :
    IsElement element ∧ element <:+: text := by
  induction text using element_induction with
  | nil => simp at h
  | element first rest isElement ih =>
      rw [elements_of_isElement isElement] at h
      rcases List.mem_cons.mp h with rfl | later
      · exact ⟨isElement, List.infix_append_left⟩
      · exact ⟨(ih later).1, List.infix_append_of_infix_right (ih later).2⟩
  | plain c rest absent ih =>
      rw [elements_of_plain absent] at h
      exact ⟨(ih h).1, List.infix_cons (ih h).2⟩

end Stencil.Markup
