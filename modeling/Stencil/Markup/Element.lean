/-! # Markup elements

The markup of a part is a list of characters. One element is an opening angle bracket,
any characters but angle brackets, and a closing one. Angle brackets that take no part
in an element are plain characters.

Main statement: the pieces of a text, one after the other, are the text.
-/

namespace Stencil

/-- The text of a part with its tags, character by character. -/
abbrev Markup := List Char

/-- A stretch of markup. -/
inductive MarkupPiece where
  /-- One element, its angle brackets included. -/
  | element (text : Markup)
  /-- Characters outside of elements. -/
  | plain (text : Markup)
  deriving Repr, DecidableEq

namespace MarkupPiece

def text : MarkupPiece → Markup
  | element text => text
  | plain text => text

def element? : MarkupPiece → Option Markup
  | element text => some text
  | plain _ => none

/-- What a reader sees of the piece. -/
def visible : MarkupPiece → Markup
  | element _ => []
  | plain text => text

end MarkupPiece

namespace Markup

/-- Whether the character is no angle bracket. -/
def isInner (c : Char) : Bool :=
  c != '<' && c != '>'

/-- The element at the start of the text and what follows it. -/
def takeElement? : Markup → Option (Markup × Markup)
  | '<' :: rest =>
    match rest.dropWhile isInner with
    | '>' :: after => some ('<' :: rest.takeWhile isInner ++ ['>'], after)
    | _ => none
  | _ => none

/-- An element and what follows it are the text, and the element is not empty. -/
theorem append_of_takeElement? {text element after : Markup}
    (h : takeElement? text = some (element, after)) : element ++ after = text ∧ element ≠ [] := by
  unfold takeElement? at h
  split at h
  · next rest =>
    split at h
    · next tail tailIs =>
      simp only [Option.some.injEq, Prod.mk.injEq] at h
      obtain ⟨rfl, rfl⟩ := h
      refine ⟨?_, by simp⟩
      have whole := List.takeWhile_append_dropWhile (p := isInner) (l := rest)
      rw [tailIs] at whole
      simpa using whole
    · cases h
  · cases h

/-- The text cut into elements and the stretches between them. An opening angle bracket
    that begins no element stands at the head of a plain stretch. -/
def pieces : (text : Markup) → List MarkupPiece
  | [] => []
  | c :: rest =>
    match _h : takeElement? (c :: rest) with
    | some (element, after) => .element element :: pieces after
    | none => .plain (c :: rest.takeWhile (· != '<')) :: pieces (rest.dropWhile (· != '<'))
termination_by text => text.length
decreasing_by
  · obtain ⟨whole, nonempty⟩ := append_of_takeElement? _h
    have sizes := congrArg List.length whole
    have positive := List.length_pos_iff.mpr nonempty
    simp only [List.length_append] at sizes
    omega
  · have := (List.dropWhile_sublist (l := rest) (· != '<')).length_le
    simp only [List.length_cons]
    omega

def elements (text : Markup) : List Markup :=
  (pieces text).filterMap MarkupPiece.element?

/-- The text without its elements: what a reader sees. -/
def visible (text : Markup) : Markup :=
  (pieces text).flatMap MarkupPiece.visible

/-- The pieces of a text, one after the other, are the text. -/
theorem flatMap_text_pieces (text : Markup) : (pieces text).flatMap MarkupPiece.text = text := by
  fun_induction pieces text with
  | case1 => rfl
  | case2 c rest element after h ih =>
    simp [MarkupPiece.text, ih, (append_of_takeElement? h).1]
  | case3 c rest h ih =>
    simp [MarkupPiece.text, ih, List.takeWhile_append_dropWhile]

/-! ## Writing elements

Start tags, end tags and empty elements are written from a name and attributes. Values of
attributes are written as they are given.
-/

def attributeText (name : String) (value : List Char) : Markup :=
  ' ' :: name.toList ++ '=' :: '\x22' :: value ++ ['\x22']

def attributes (named : List (String × List Char)) : Markup :=
  named.flatMap fun (name, value) => attributeText name value

def startTag (name : String) (named : List (String × List Char)) : Markup :=
  '<' :: name.toList ++ attributes named ++ ['>']

def endTag (name : String) : Markup :=
  '<' :: '/' :: name.toList ++ ['>']

def emptyTag (name : String) (named : List (String × List Char)) : Markup :=
  '<' :: name.toList ++ attributes named ++ ['/', '>']

end Markup

end Stencil
