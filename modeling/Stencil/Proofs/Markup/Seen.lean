import Stencil.Proofs.Markup.Elements
import Stencil.Proofs.Text.Search

/-! # What is seen of a text

A reader sees the characters of a text that are in none of its elements. What is left of nested
brackets may look like an element again, as elements are taken out once.

Main statements: `exists_of_seenFrom`, `hasElement_visible_iff`.
-/

namespace Stencil.Markup

/-- What is seen of a text that begins at byte `start`: each character with the byte it begins
    at. -/
def seenFrom (start : Nat) : (text : Markup) → List (Nat × Char)
  | [] => []
  | c :: rest =>
    match _h : takeElement? (c :: rest) with
    | some (element, after) => seenFrom (start + Text.byteSize element) after
    | none => (start, c) :: seenFrom (start + c.utf8Size) rest
termination_by text => text.length
decreasing_by
  · obtain ⟨whole, nonempty⟩ := append_of_takeElement? _h
    have sizes := congrArg List.length whole
    have positive := List.length_pos_iff.mpr nonempty
    simp only [List.length_append] at sizes
    omega
  · simp

/-- Whether an element stands somewhere in the text. -/
def HasElement (text : Markup) : Prop :=
  ∃ element, IsElement element ∧ element <:+: text

/-- Whether brackets surround elements and else only characters that are no brackets. -/
def Nested (text : Markup) : Prop :=
  ∃ before inner after, text = before ++ '<' :: inner ++ '>' :: after ∧ HasElement inner ∧
    Plain (visible inner)

section Places

variable {start place : Nat} {text : Markup}

@[simp] theorem seenFrom_nil (start : Nat) : seenFrom start [] = [] := by
  rw [seenFrom]

theorem seenFrom_of_isElement {element : Markup} (isElement : IsElement element) (after : Markup) :
    seenFrom start (element ++ after) = seenFrom (start + Text.byteSize element) after := by
  have found := takeElement?_of_isElement isElement after
  cases whole : element ++ after with
  | nil => exact absurd (List.append_eq_nil_iff.mp whole).1 isElement.ne_nil
  | cons c rest =>
      rw [whole] at found
      rw [seenFrom]
      split
      · next cut =>
        rw [found] at cut
        cases cut
        rfl
      · next absent =>
        rw [found] at absent
        cases absent

theorem seenFrom_of_plain {c : Char} {rest : Markup} (absent : takeElement? (c :: rest) = none) :
    seenFrom start (c :: rest) = (start, c) :: seenFrom (start + c.utf8Size) rest := by
  rw [seenFrom]
  split
  · next cut =>
    rw [absent] at cut
    cases cut
  · rfl

theorem map_snd_seenFrom (start : Nat) (text : Markup) :
    (seenFrom start text).map Prod.snd = visible text := by
  induction text using element_induction generalizing start with
  | nil => simp
  | element element rest isElement ih =>
      rw [seenFrom_of_isElement isElement, visible_of_isElement isElement]
      exact ih _
  | plain c rest absent ih =>
      rw [seenFrom_of_plain absent, visible_of_plain absent, List.map_cons, ih]

/-- No element begins a text if none begins a longer one. -/
theorem takeElement?_of_append {c : Char} {front back : Markup}
    (absent : takeElement? (c :: (front ++ back)) = none) : takeElement? (c :: front) = none := by
  cases found : takeElement? (c :: front) with
  | none => rfl
  | some cut =>
      obtain ⟨isElement, whole⟩ := takeElement?_eq_some.mp found
      have longer : c :: (front ++ back) = cut.1 ++ (cut.2 ++ back) := by
        rw [← List.cons_append, whole, List.append_assoc]
      rw [longer, takeElement?_of_isElement isElement] at absent
      cases absent

/-- A character that is seen divides a text, and no element has a part of either side. -/
theorem exists_of_seenFrom {front back : List (Nat × Char)} {c : Char}
    (seen : seenFrom start text = front ++ (place, c) :: back) :
    ∃ before after, text = before ++ c :: after ∧ place = start + Text.byteSize before ∧
      seenFrom start before = front ∧ seenFrom (place + c.utf8Size) after = back ∧
      elements text = elements before ++ elements after := by
  induction text using element_induction generalizing start front with
  | nil => simp at seen
  | element element rest isElement ih =>
      rw [seenFrom_of_isElement isElement] at seen
      obtain ⟨before, after, rfl, placed, seenBefore, seenAfter, split⟩ := ih seen
      refine ⟨element ++ before, after, by simp, ?_, ?_, seenAfter, ?_⟩
      · rw [placed, Text.byteSize_append, Nat.add_assoc]
      · rw [seenFrom_of_isElement isElement, seenBefore]
      · rw [elements_of_isElement isElement, elements_of_isElement isElement, split,
          List.cons_append]
  | plain d rest absent ih =>
      rw [seenFrom_of_plain absent] at seen
      cases front with
      | nil =>
          simp only [List.nil_append, List.cons.injEq, Prod.mk.injEq] at seen
          obtain ⟨⟨rfl, rfl⟩, seenAfter⟩ := seen
          refine ⟨[], rest, rfl, rfl, seenFrom_nil _, seenAfter, ?_⟩
          rw [elements_of_plain absent, elements_nil, List.nil_append]
      | cons first front =>
          simp only [List.cons_append, List.cons.injEq] at seen
          obtain ⟨rfl, seen⟩ := seen
          obtain ⟨before, after, rfl, placed, seenBefore, seenAfter, split⟩ := ih seen
          refine ⟨d :: before, after, rfl, ?_, ?_, seenAfter, ?_⟩
          · rw [placed, Text.byteSize_cons]
            omega
          · rw [seenFrom_of_plain (takeElement?_of_append absent), seenBefore]
          · rw [elements_of_plain absent, elements_of_plain (takeElement?_of_append absent), split]

theorem le_of_mem_seenFrom {c : Char} (seen : (place, c) ∈ seenFrom start text) :
    start ≤ place := by
  obtain ⟨front, back, whole⟩ := List.append_of_mem seen
  obtain ⟨before, after, -, placed, -⟩ := exists_of_seenFrom whole
  omega

/-- The first character that is seen begins the text, unless an element does. -/
theorem head_of_seenFrom {c : Char} {rest : List (Nat × Char)}
    (seen : seenFrom start text = (place, c) :: rest) :
    (∃ element after, text = element ++ after ∧ IsElement element) ∨
      ∃ after, text = c :: after ∧ place = start := by
  cases text with
  | nil => simp at seen
  | cons d text =>
      cases found : takeElement? (d :: text) with
      | some cut =>
          obtain ⟨isElement, whole⟩ := takeElement?_eq_some.mp found
          exact .inl ⟨cut.1, cut.2, whole, isElement⟩
      | none =>
          rw [seenFrom_of_plain found] at seen
          simp only [List.cons.injEq, Prod.mk.injEq] at seen
          obtain ⟨⟨rfl, rfl⟩, -⟩ := seen
          exact .inr ⟨text, rfl, rfl⟩

/-- What is seen of a text before and behind a character of it that is seen. -/
theorem exists_of_visible {front back : List Char} {c : Char}
    (seen : visible text = front ++ c :: back) :
    ∃ before after, text = before ++ c :: after ∧ visible before = front ∧ visible after = back ∧
      elements text = elements before ++ elements after := by
  rw [← map_snd_seenFrom 0 text] at seen
  obtain ⟨placedFront, others, whole, rfl, rest⟩ := List.map_eq_append_iff.mp seen
  obtain ⟨⟨place, d⟩, placedBack, rfl, same, rfl⟩ := List.map_eq_cons_iff.mp rest
  obtain ⟨before, after, split, -, rfl, rfl, apart⟩ := exists_of_seenFrom whole
  cases same
  exact ⟨before, after, split, (map_snd_seenFrom ..).symm, (map_snd_seenFrom ..).symm, apart⟩

end Places

section Nesting

variable {text : Markup}

theorem hasElement_iff : HasElement text ↔ elements text ≠ [] := by
  constructor
  · rintro ⟨element, isElement, before, after, rfl⟩
    rw [elements_around isElement]
    simp
  · intro nonempty
    obtain ⟨element, listed⟩ := List.exists_mem_of_ne_nil _ nonempty
    exact ⟨element, isElement_of_mem_elements listed⟩

theorem visible_of_elements_nil (bare : elements text = []) : visible text = text := by
  induction text using element_induction with
  | nil => simp
  | element element rest isElement ih =>
      rw [elements_of_isElement isElement] at bare
      cases bare
  | plain c rest absent ih =>
      rw [elements_of_plain absent] at bare
      rw [visible_of_plain absent, ih bare]

/-- If no bracket of a text is seen, the first one opens an element and the last one closes one. -/
theorem brackets_of_plain_visible (plain : Plain (visible text)) :
    firstBracket? text ≠ some '>' ∧ lastBracket? text ≠ some '<' := by
  induction text using element_induction with
  | nil => exact ⟨nofun, nofun⟩
  | element element rest isElement ih =>
      rw [visible_of_isElement isElement] at plain
      obtain ⟨-, last⟩ := ih plain
      rw [firstBracket?_append, lastBracket?_append, isElement.first, isElement.last]
      constructor
      · simp
      · cases ends : lastBracket? rest with
        | none => simp
        | some c => rwa [ends] at last
  | plain c rest absent ih =>
      rw [visible_of_plain absent] at plain
      have inner : Plain [c] := by
        intro d mem
        exact plain d (List.mem_singleton.mp mem ▸ List.mem_cons_self)
      obtain ⟨first, last⟩ := ih fun d mem => plain d (List.mem_cons_of_mem c mem)
      rw [← List.singleton_append, firstBracket?_append, lastBracket?_append,
        firstBracket?_eq_none.mpr inner, lastBracket?_eq_none.mpr inner, Option.none_or,
        Option.or_none]
      exact ⟨first, last⟩

theorem firstBracket?_of_hasElement (held : HasElement text) (plain : Plain (visible text)) :
    firstBracket? text = some '<' := by
  cases first : firstBracket? text with
  | none =>
      have none := elements_of_inner (firstBracket?_eq_none.mp first)
      exact absurd none (hasElement_iff.mp held)
  | some c =>
      rcases firstBracket?_of_mem first with rfl | rfl
      · rfl
      · exact absurd first (brackets_of_plain_visible plain).1

theorem visible_nested {before inner after : Markup} (held : HasElement inner)
    (plain : Plain (visible inner)) :
    visible (before ++ '<' :: inner ++ '>' :: after) =
      visible before ++ ('<' :: visible inner ++ ['>']) ++ visible after := by
  have opened : firstBracket? (inner ++ '>' :: after) = some '<' := by
    rw [firstBracket?_append, firstBracket?_of_hasElement held plain]
    rfl
  have outer : takeElement? ('<' :: (inner ++ '>' :: after)) = none :=
    takeElement?_eq_none.mpr fun _ => by simp [opened]
  have closing : takeElement? ('>' :: after) = none :=
    takeElement?_eq_none.mpr fun same => absurd same (by decide)
  have front : ¬ Spans before ('<' :: (inner ++ '>' :: after)) := by
    rintro ⟨-, closed⟩
    cases closed
  have back : ¬ Spans inner ('>' :: after) := by
    rintro ⟨opened, -⟩
    exact (brackets_of_plain_visible plain).2 opened
  rw [List.append_assoc, List.cons_append, visible_append front, visible_of_plain outer,
    visible_append back, visible_of_plain closing]
  simp

/-- What is seen of a text has an element exactly if brackets of the text are nested. -/
theorem hasElement_visible_iff : HasElement (visible text) ↔ Nested text := by
  constructor
  · rintro ⟨element, ⟨shown, plain, rfl⟩, front, back, whole⟩
    have opening : visible text = front ++ '<' :: (shown ++ '>' :: back) := by simp [← whole]
    obtain ⟨before, rest, rfl, -, closing, apart⟩ := exists_of_visible opening
    obtain ⟨inner, after, rfl, rfl, -, apart'⟩ := exists_of_visible closing
    refine ⟨before, inner, after, by simp, ?_, plain⟩
    rw [hasElement_iff]
    intro bare
    -- without an element inside, the brackets would be those of an element, which is not seen
    have isElement : IsElement ('<' :: inner ++ ['>']) :=
      ⟨inner, visible_of_elements_nil bare ▸ plain, rfl⟩
    have around : elements (before ++ ('<' :: inner ++ ['>']) ++ after) = _ :=
      elements_around isElement
    have same : before ++ '<' :: (inner ++ '>' :: after) =
        before ++ ('<' :: inner ++ ['>']) ++ after := by simp
    rw [same, around, apart', bare] at apart
    have lengths := congrArg List.length apart
    simp at lengths
  · rintro ⟨before, inner, after, rfl, held, plain⟩
    rw [visible_nested held plain]
    exact ⟨_, ⟨visible inner, plain, rfl⟩, visible before, visible after, rfl⟩

end Nesting

end Stencil.Markup
