import Stencil.Proofs.Markup.Attribute
import Stencil.Proofs.Markup.Groups
import Stencil.Proofs.Package.Relationships

/-! # Relationships that are kept

The place of a new picture is found by the text of the end tag, or else by the last slash in front of
a closing bracket. Where the first is the end tag of the root, or the second makes the root close
itself, all relationships stay as they are and the elements stay balanced. In other relationships the
new element may take the end of an old one.

Main statement: `kept_addImage`.
-/

namespace Stencil

namespace Markup

theorem takeWhile_append_stop {p : Char → Bool} {stop : Char} (stops : p stop = false)
    (front rest : List Char) : (front ++ stop :: rest).takeWhile p = front.takeWhile p := by
  induction front with
  | nil => simp [stops]
  | cons c front ih => simp only [List.cons_append, List.takeWhile_cons, ih]

/-- A start tag that opens an element has its name, and would be neutral if it closed itself. -/
theorem of_role_opens {inner name : List Char} (named : name ≠ [])
    (opens : role ('<' :: inner ++ ['>']) = .opens name) :
    role ('<' :: inner ++ ['/', '>']) = .neutral ∧ tagName ('<' :: inner ++ ['/', '>']) = name := by
  have closing : isNameChar '>' = false := by decide
  have slash : isNameChar '/' = false := by decide
  have suffix : ['/', '>'] <:+ inner ++ ['/', '>'] := List.suffix_append _ _
  cases inner with
  | nil =>
      have nameless : role ('<' :: [] ++ ['>']) = .opens [] := by decide
      rw [nameless] at opens
      cases opens
      exact absurd rfl named
  | cons c rest =>
      simp only [List.cons_append] at opens suffix ⊢
      unfold role at opens
      split at opens
      · cases opens
      · cases opens
      · cases opens
      · next tail ends query bang same =>
        cases same
        split at opens
        · cases opens
        · simp only [Role.opens.injEq] at opens
          rw [← List.cons_append, takeWhile_append_stop closing] at opens
          constructor
          · unfold role
            split
            · next same => cases same; exact absurd rfl (ends _)
            · rfl
            · rfl
            · next same => cases same; exact if_pos suffix
            · rfl
          · unfold tagName
            split
            · next same => cases same; exact absurd rfl (ends _)
            · next same =>
              cases same
              rw [← List.cons_append, takeWhile_append_stop slash, opens]
            · next other => exact absurd rfl (other _)
      · cases opens

end Markup

namespace Relationships

/-- Whether a tag is that of a relationship, whatever the prefix of its namespace is. -/
def isRelationship (element : Markup) : Bool :=
  Markup.localName element = "Relationship".toList

/-- Relationships with the end tag of their root, with a root that closes itself behind all other
    elements that do, or without any end that a search could find. -/
inductive Rooted (markup : Markup) : Prop where
  | closed (ended : rootEnd <:+: markup)
  | selfClosing {front inner after : Markup}
      (whole : markup = front ++ ('<' :: inner ++ ['/', '>']) ++ after) (plain : Markup.Plain inner)
      (root : Markup.role ('<' :: inner ++ ['>']) = .opens "Relationships".toList)
      (last : ¬ ['/', '>'] <:+: '>' :: after)
  | endless (unended : ¬ Extendable markup)

/-- Every relationship stands in the changed text, in the same order, and the elements are balanced if
    they were. -/
structure Kept (before after : Markup) : Prop where
  relationships : ((Markup.elements before).filter isRelationship).Sublist
    ((Markup.elements after).filter isRelationship)
  balanced : Markup.Balanced (Markup.elements before) → Markup.Balanced (Markup.elements after)

theorem Kept.refl (markup : Markup) : Kept markup markup :=
  ⟨List.Sublist.refl _, fun balanced => balanced⟩

theorem Kept.trans {first second third : Markup} (h : Kept first second) (h' : Kept second third) :
    Kept first third :=
  ⟨h.relationships.trans h'.relationships, fun balanced => h'.balanced (h.balanced balanced)⟩

/-- Elements in place of others that open and close the same keep what is around them. -/
theorem Kept.of_elements {before after : Markup} (front old new back : List Markup)
    (was : Markup.elements before = front ++ old ++ back)
    (is : Markup.elements after = front ++ new ++ back)
    (kept : (old.filter isRelationship).Sublist (new.filter isRelationship))
    (nests : ∀ stack, Markup.nest stack new = Markup.nest stack old) : Kept before after where
  relationships := by
    rw [was, is]
    simp only [List.filter_append]
    exact ((List.Sublist.refl _).append kept).append (List.Sublist.refl _)
  balanced := by
    rw [was, is, Markup.Balanced, Markup.Balanced]
    simp only [Markup.nest_append, nests]
    exact fun balanced => balanced

theorem nest_imageElement (id target : List Char) (stack : List (List Char)) (rest : List Markup) :
    Markup.nest stack (imageElement id target :: rest) = Markup.nest stack rest := by
  rw [imageElement_eq_emptyTag, Markup.nest_emptyTag (by decide)]

theorem nest_rootEnd (stack : List (List Char)) (rest : List Markup) :
    Markup.nest ("Relationships".toList :: stack) (rootEnd :: rest) = Markup.nest stack rest :=
  Markup.nest_endTag (by decide) stack rest

/-- A picture is declared in a root that closed itself by opening the root in front of its element and
    closing it behind. -/
theorem kept_selfClosing {front inner after : Markup} (plain : Markup.Plain inner)
    (root : Markup.role ('<' :: inner ++ ['>']) = .opens "Relationships".toList) (id target : List Char) :
    Kept (front ++ ('<' :: inner ++ ['/', '>']) ++ after)
      (front ++ ('<' :: inner ++ ['>']) ++ (imageElement id target ++ (rootEnd ++ after))) := by
  obtain ⟨neutral, named⟩ := Markup.of_role_opens (by decide) root
  have closes : Markup.IsElement ('<' :: inner ++ ['/', '>']) :=
    ⟨inner ++ ['/'], plain.append (by decide), by simp⟩
  have opens : Markup.IsElement ('<' :: inner ++ ['>']) := ⟨inner, plain, rfl⟩
  have other : isRelationship ('<' :: inner ++ ['/', '>']) = false := by
    rw [isRelationship, Markup.localName, named]
    decide
  refine Kept.of_elements (Markup.elements front) ['<' :: inner ++ ['/', '>']]
    ['<' :: inner ++ ['>'], imageElement id target, rootEnd] (Markup.elements after) ?_ ?_ ?_
    fun stack => ?_
  · rw [Markup.elements_around closes, List.append_assoc, List.singleton_append]
  · rw [Markup.elements_around opens, Markup.elements_of_isElement (isElement_imageElement id target),
      Markup.elements_of_isElement isElement_rootEnd, List.append_assoc]
    rfl
  · rw [List.filter_cons_of_neg (Bool.eq_false_iff.mp other)]
    exact List.nil_sublist _
  · have opened : Markup.nestStep stack ('<' :: inner ++ ['>']) =
        some ("Relationships".toList :: stack) := by rw [Markup.nestStep, root]
    have unmoved : Markup.nestStep stack ('<' :: inner ++ ['/', '>']) = some stack := by
      rw [Markup.nestStep, neutral]
    rw [Markup.nest_cons, opened, Option.bind_some, nest_imageElement, nest_rootEnd, Markup.nest_cons,
      unmoved]
    rfl

/-- One more picture keeps relationships of a root that is found, and it is found again. -/
theorem kept_addImage {markup : Markup} (h : Rooted markup) (id target : List Char) :
    Kept markup (addImage (some markup) id target) ∧ Rooted (addImage (some markup) id target) := by
  have insert (before after : Markup) :
      Kept (before ++ rootEnd ++ after)
        (before ++ imageElement id target ++ (rootEnd ++ after)) := by
    refine Kept.of_elements (Markup.elements before) [] [imageElement id target]
      (rootEnd :: Markup.elements after) ?_ ?_ ?_ fun stack => nest_imageElement id target stack []
    · rw [Markup.elements_around isElement_rootEnd, List.append_nil]
    · rw [Markup.elements_around (isElement_imageElement id target),
        Markup.elements_of_isElement isElement_rootEnd, List.append_assoc, List.singleton_append]
    · exact List.nil_sublist _
  have again (front after : Markup) : Rooted (front ++ (rootEnd ++ after)) :=
    .closed ⟨front, after, List.append_assoc ..⟩
  by_cases extendable : Extendable markup
  · rcases addImage_of_extendable extendable id target with
      ⟨before, after, rfl, added⟩ | ⟨before, after, whole, unended, added⟩
    · exact added ▸ ⟨insert before after, again _ after⟩
    · refine ⟨?_, added ▸ again _ after⟩
      cases h with
      | closed ended => exact absurd ended unended
      | endless none => exact absurd extendable none
      | @selfClosing front inner behind spelled plain root last =>
          -- both cuts are made at the last slash in front of a closing bracket
          have cut : Text.cutLast? ['/', '>'] markup = some (front ++ '<' :: inner, behind) :=
            (Text.cutLast?_eq_some_iff (by decide)).mpr ⟨by simp [spelled], last⟩
          have found : addImage (some markup) id target =
              front ++ ('<' :: inner ++ ['>']) ++ (imageElement id target ++ (rootEnd ++ behind)) := by
            have none : Text.cutLast? rootEnd markup = none := by
              cases ended : Text.cutLast? rootEnd markup with
              | none => rfl
              | some pair =>
                  exact absurd ⟨pair.1, pair.2, Text.append_of_cutLast? ended⟩ unended
            simp [addImage, none, cut]
          rw [found, spelled]
          exact kept_selfClosing plain root id target
  · have absent : Text.cutLast? rootEnd markup = none ∧ Text.cutLast? ['/', '>'] markup = none := by
      rw [Extendable, not_or] at extendable
      constructor
      · cases ended : Text.cutLast? rootEnd markup with
        | none => rfl
        | some pair => exact absurd ⟨pair.1, pair.2, Text.append_of_cutLast? ended⟩ extendable.1
      · cases slash : Text.cutLast? ['/', '>'] markup with
        | none => rfl
        | some pair => exact absurd ⟨pair.1, pair.2, Text.append_of_cutLast? slash⟩ extendable.2
    have same : addImage (some markup) id target = markup := by
      simp only [addImage, absent.1, absent.2]
    exact same.symm ▸ ⟨.refl markup, h⟩

end Relationships

end Stencil
