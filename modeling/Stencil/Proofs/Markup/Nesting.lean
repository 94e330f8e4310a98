import Mathlib.Data.Bool.AllAny
import Stencil.Markup.Element
import Stencil.Proofs.Markup.Elements

/-! # Nested elements

Elements are read from the left with the names of those that are open, the innermost first. A
start tag opens an element, an end tag closes the innermost one, and other elements leave the
names as they are.
-/

namespace Stencil.Markup

/-- What an element does to the elements that are open. -/
inductive Role where
  | opens (name : List Char)
  | closes (name : List Char)
  | neutral
  deriving DecidableEq

/-- Whether the character belongs to the name that an element begins with. -/
def isNameChar (c : Char) : Bool :=
  !c.isWhitespace && c != '/' && c != '>'

/-- What is told from the first and the last characters of an element. -/
def role : Markup → Role
  | '<' :: '/' :: rest => .closes (rest.takeWhile isNameChar)
  | '<' :: '?' :: _ | '<' :: '!' :: _ => .neutral
  | '<' :: rest => if ['/', '>'] <:+ rest then .neutral else .opens (rest.takeWhile isNameChar)
  | _ => .neutral

/-- The open elements behind one more element; `none` if it closes another than the innermost. -/
def nestStep (stack : List (List Char)) (element : Markup) : Option (List (List Char)) :=
  match role element with
  | .neutral => some stack
  | .opens name => some (name :: stack)
  | .closes name =>
    match stack with
    | [] => none
    | top :: below => if top = name then some below else none

/-- The open elements behind several elements. -/
def nest (stack : List (List Char)) (elements : List Markup) : Option (List (List Char)) :=
  elements.foldlM nestStep stack

/-- Every end tag closes the innermost open element, and none is left open. -/
def Balanced (elements : List Markup) : Prop :=
  nest [] elements = some []

instance (elements : List Markup) : Decidable (Balanced elements) :=
  inferInstanceAs (Decidable (_ = _))

@[simp] theorem nest_nil (stack : List (List Char)) : nest stack [] = some stack := rfl

theorem nest_cons (stack : List (List Char)) (element : Markup) (rest : List Markup) :
    nest stack (element :: rest) = (nestStep stack element).bind fun stack => nest stack rest := rfl

theorem nest_append (stack : List (List Char)) (front back : List Markup) :
    nest stack (front ++ back) = (nest stack front).bind fun stack => nest stack back :=
  List.foldlM_append

/-- A name of ASCII letters and digits and colons, and not empty. -/
def IsTagName (name : String) : Prop :=
  name.toList ≠ [] ∧ ∀ c ∈ name.toList, c.isAlphanum ∨ c = ':'

instance (name : String) : Decidable (IsTagName name) :=
  @instDecidableAnd _ _ inferInstance (List.decidableBAll _ name.toList)

section Written

variable {name : String}

private theorem isNameChar_of_mem (h : IsTagName name) {c : Char} (mem : c ∈ name.toList) :
    isNameChar c = true ∧ c ≠ '/' ∧ c ≠ '?' ∧ c ≠ '!' := by
  have other : ∀ d ∈ [' ', '\t', '\r', '\n', '/', '>', '?', '!'], c ≠ d := by
    rintro d listed rfl
    have fixed : ∀ d ∈ [' ', '\t', '\r', '\n', '/', '>', '?', '!'],
        ¬ (d.isAlphanum ∨ d = ':') := List.all_iff_forall_prop.mp (by decide)
    exact fixed c listed (h.2 c mem)
  simp only [List.forall_mem_cons] at other
  obtain ⟨space, tab, cr, lf, slash, greater, query, bang, -⟩ := other
  refine ⟨?_, slash, query, bang⟩
  simp [isNameChar, Char.isWhitespace, space, tab, cr, lf, slash, greater]

theorem IsTagName.isWhitespace_of_mem (h : IsTagName name) {c : Char} (mem : c ∈ name.toList) :
    c.isWhitespace = false := by
  have part := (isNameChar_of_mem h mem).1
  rw [isNameChar, Bool.and_assoc, Bool.and_eq_true, Bool.not_eq_true'] at part
  exact part.1

theorem exists_cons_of_isTagName (h : IsTagName name) :
    ∃ c rest, name.toList = c :: rest ∧ c ≠ '/' ∧ c ≠ '?' ∧ c ≠ '!' := by
  cases spelled : name.toList with
  | nil => exact absurd spelled h.1
  | cons c rest => exact ⟨c, rest, rfl, (isNameChar_of_mem h (spelled ▸ List.mem_cons_self)).2⟩

theorem takeWhile_name (h : IsTagName name) {stop : Char} (stops : isNameChar stop = false)
    (rest : List Char) : (name.toList ++ stop :: rest).takeWhile isNameChar = name.toList := by
  rw [List.takeWhile_append_of_pos fun c mem => (isNameChar_of_mem h mem).1,
    List.takeWhile_cons_of_neg (by rw [stops]; exact Bool.false_ne_true), List.append_nil]

private theorem role_of_name (h : IsTagName name) (rest : Markup) :
    role ('<' :: (name.toList ++ rest)) =
      if ['/', '>'] <:+ name.toList ++ rest then .neutral
      else .opens ((name.toList ++ rest).takeWhile isNameChar) := by
  obtain ⟨c, others, spelled, slash, query, bang⟩ := exists_cons_of_isTagName h
  rw [spelled, List.cons_append]
  unfold role
  split
  · next same => exact absurd (List.cons.inj (List.cons.inj same).2).1 slash
  · next same => exact absurd (List.cons.inj (List.cons.inj same).2).1 query
  · next same => exact absurd (List.cons.inj (List.cons.inj same).2).1 bang
  · next same =>
    cases same
    rfl
  · next other => exact absurd rfl (other _)

theorem role_endTag (h : IsTagName name) : role (endTag name) = .closes name.toList := by
  rw [endTag, List.cons_append, List.cons_append, role, takeWhile_name h (by decide)]

theorem role_emptyTag (h : IsTagName name) (named : List (String × List Char)) :
    role (emptyTag name named) = .neutral := by
  unfold emptyTag
  simp only [List.cons_append, List.append_assoc]
  rw [role_of_name h, if_pos]
  exact ⟨name.toList ++ attributes named, List.append_assoc ..⟩

/-- Attributes begin with a blank and end with a quote. -/
theorem attributes_cons (first : String × List Char) (named : List (String × List Char)) :
    ∃ inner, attributes (first :: named) = ' ' :: (inner ++ ['\x22']) := by
  induction named generalizing first with
  | nil =>
      refine ⟨first.1.toList ++ '=' :: '\x22' :: first.2, ?_⟩
      simp [attributes, attributeText]
  | cons second named ih =>
      obtain ⟨inner, spelled⟩ := ih second
      refine ⟨first.1.toList ++ '=' :: '\x22' :: first.2 ++ '\x22' :: ' ' :: inner, ?_⟩
      rw [attributes, List.flatMap_cons]
      change attributeText first.1 first.2 ++ attributes (second :: named) = _
      rw [spelled]
      simp [attributeText]

private theorem not_suffix_startTag (h : IsTagName name) (named : List (String × List Char)) :
    ¬ ['/', '>'] <:+ name.toList ++ (attributes named ++ ['>']) := by
  rintro ⟨front, same⟩
  have inner : front ++ ['/'] = name.toList ++ attributes named := by
    have ended : front ++ ['/'] ++ ['>'] = name.toList ++ attributes named ++ ['>'] := by
      simpa using same
    exact List.append_cancel_right ended
  cases named with
  | nil =>
      have mem : '/' ∈ name.toList := by
        rw [attributes, List.flatMap_nil, List.append_nil] at inner
        exact inner ▸ List.mem_append_right front List.mem_cons_self
      exact (isNameChar_of_mem h mem).2.1 rfl
  | cons first named =>
      obtain ⟨values, spelled⟩ := attributes_cons first named
      have last := congrArg List.getLast? inner
      rw [spelled, ← List.cons_append, ← List.append_assoc, List.getLast?_concat,
        List.getLast?_concat] at last
      exact absurd last (by decide)

theorem role_startTag (h : IsTagName name) (named : List (String × List Char)) :
    role (startTag name named) = .opens name.toList := by
  unfold startTag
  simp only [List.cons_append, List.append_assoc]
  rw [role_of_name h, if_neg (not_suffix_startTag h named)]
  cases named with
  | nil => rw [attributes, List.flatMap_nil, List.nil_append, takeWhile_name h (by decide)]
  | cons first named =>
      obtain ⟨inner, spelled⟩ := attributes_cons first named
      rw [spelled, List.cons_append, takeWhile_name h (by decide)]

theorem nest_endTag (h : IsTagName name) (stack : List (List Char)) (rest : List Markup) :
    nest (name.toList :: stack) (endTag name :: rest) = nest stack rest := by
  rw [nest_cons, nestStep, role_endTag h]
  simp

theorem nest_emptyTag (h : IsTagName name) (named : List (String × List Char))
    (stack : List (List Char)) (rest : List Markup) :
    nest stack (emptyTag name named :: rest) = nest stack rest := by
  rw [nest_cons, nestStep, role_emptyTag h]
  rfl

theorem nest_startTag (h : IsTagName name) (named : List (String × List Char))
    (stack : List (List Char)) (rest : List Markup) :
    nest stack (startTag name named :: rest) = nest (name.toList :: stack) rest := by
  rw [nest_cons, nestStep, role_startTag h]
  rfl

end Written

end Stencil.Markup
