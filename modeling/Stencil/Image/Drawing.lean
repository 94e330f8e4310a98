import Stencil.Markup.Escape
import Stencil.Markup.Element

/-! # Drawings

A picture stands in a document as an inline drawing: an element beside the text of a run.
Every drawing of a document has a number of its own.
-/

namespace Stencil

namespace Drawing

/-- The units of length of a drawing to one pixel. -/
def unitsPerPixel : Nat := 9525

def greatestId : Nat := 2 ^ 32 - 1

/-- The decimal digits of a number. -/
def number (n : Nat) : List Char :=
  Nat.toDigits 10 n

def placeNamespace : List Char :=
  "http://schemas.openxmlformats.org/drawingml/2006/wordprocessingDrawing".toList

def graphicsNamespace : List Char :=
  "http://schemas.openxmlformats.org/drawingml/2006/main".toList

/-- The namespace of the elements of pictures, which also says what a graphic holds. -/
def pictureNamespace : List Char :=
  "http://schemas.openxmlformats.org/drawingml/2006/picture".toList

def referenceNamespace : List Char :=
  "http://schemas.openxmlformats.org/officeDocument/2006/relationships".toList

/-- The elements of the drawing of a picture in place of an image tag. The text element
    around the tag is closed before the drawing and opened again behind it. -/
def inlineElements (relationship : List Char) (id : Nat) (file : List Char)
    (width height : Nat) : List Markup :=
  let zero := ['0']
  let extent :=
    [("cx", number (width * unitsPerPixel)), ("cy", number (height * unitsPerPixel))]
  [Markup.endTag "w:t",
   Markup.startTag "w:drawing" [],
   Markup.startTag "wp:inline"
    [("xmlns:wp", placeNamespace), ("distT", zero), ("distB", zero), ("distL", zero),
     ("distR", zero)],
   Markup.emptyTag "wp:extent" extent,
   Markup.emptyTag "wp:effectExtent" [("l", zero), ("t", zero), ("r", zero), ("b", zero)],
   Markup.emptyTag "wp:docPr" [("id", number id), ("name", "Picture ".toList ++ number id)],
   Markup.startTag "wp:cNvGraphicFramePr" [],
   Markup.emptyTag "a:graphicFrameLocks" [("xmlns:a", graphicsNamespace), ("noChangeAspect", ['1'])],
   Markup.endTag "wp:cNvGraphicFramePr",
   Markup.startTag "a:graphic" [("xmlns:a", graphicsNamespace)],
   Markup.startTag "a:graphicData" [("uri", pictureNamespace)],
   Markup.startTag "pic:pic" [("xmlns:pic", pictureNamespace)],
   Markup.startTag "pic:nvPicPr" [],
   Markup.emptyTag "pic:cNvPr" [("id", zero), ("name", Markup.escape file)],
   Markup.emptyTag "pic:cNvPicPr" [],
   Markup.endTag "pic:nvPicPr",
   Markup.startTag "pic:blipFill" [],
   Markup.emptyTag "a:blip"
    [("xmlns:r", referenceNamespace), ("r:embed", Markup.escape relationship)],
   Markup.startTag "a:stretch" [],
   Markup.emptyTag "a:fillRect" [],
   Markup.endTag "a:stretch",
   Markup.endTag "pic:blipFill",
   Markup.startTag "pic:spPr" [],
   Markup.startTag "a:xfrm" [],
   Markup.emptyTag "a:off" [("x", zero), ("y", zero)],
   Markup.emptyTag "a:ext" extent,
   Markup.endTag "a:xfrm",
   Markup.startTag "a:prstGeom" [("prst", "rect".toList)],
   Markup.emptyTag "a:avLst" [],
   Markup.endTag "a:prstGeom",
   Markup.endTag "pic:spPr",
   Markup.endTag "pic:pic",
   Markup.endTag "a:graphicData",
   Markup.endTag "a:graphic",
   Markup.endTag "wp:inline",
   Markup.endTag "w:drawing",
   Markup.startTag "w:t" [("xml:space", "preserve".toList)]]

/-- The drawing of a picture in place of an image tag. -/
def inline (relationship : List Char) (id : Nat) (file : List Char) (width height : Nat) :
    Markup :=
  (inlineElements relationship id file width height).flatten

/-- How an element with the number of a drawing begins. -/
def elementStart : Markup :=
  "<wp:docPr".toList

/-- How the attribute with the number begins. -/
def attributeStart : Markup :=
  "id=\"".toList

/-- The quoted run of digits at the start of the text, and what follows the quote. -/
def takeQuotedDigits? (text : Markup) : Option (List Char × Markup) :=
  match text.dropWhile Text.isPatternDigit with
  | '\x22' :: after =>
    match text.takeWhile Text.isPatternDigit with
    | [] => none
    | digits => some (digits, after)
  | _ => none

/-- The number in the first attribute that names one, before the end of the element; with
    what follows it. `previous` is the character before the text: the attribute begins a
    word. -/
def takeAttribute? (previous : Char) : (text : Markup) → Option (List Char × Markup)
  | [] => none
  | c :: rest =>
    let here :=
      if Text.isWordChar previous then none
      else (Text.dropLead? attributeStart (c :: rest)).bind takeQuotedDigits?
    match here with
    | some found => some found
    | none => if c = '>' then none else takeAttribute? c rest

/-- The number of the element at the start of the text, with what follows the number. -/
def takeId? (text : Markup) : Option (List Char × Markup) :=
  match Text.dropLead? elementStart text with
  | none => none
  | some rest =>
    if rest.head?.any Text.isWordChar then none else takeAttribute? 'r' rest

theorem length_lt_of_takeQuotedDigits? {text after : Markup} {digits : List Char}
    (h : takeQuotedDigits? text = some (digits, after)) : after.length < text.length := by
  have shorter := (List.dropWhile_sublist (l := text) Text.isPatternDigit).length_le
  unfold takeQuotedDigits? at h
  split at h
  · next rest isRest =>
    rw [isRest] at shorter
    simp only [List.length_cons] at shorter
    split at h
    · cases h
    · simp only [Option.some.injEq, Prod.mk.injEq] at h
      obtain ⟨_, rfl⟩ := h
      omega
  · cases h

theorem length_lt_of_takeAttribute? {previous : Char} {text after : Markup} {digits : List Char}
    (h : takeAttribute? previous text = some (digits, after)) : after.length < text.length := by
  induction text generalizing previous with
  | nil => simp [takeAttribute?] at h
  | cons c rest ih =>
    unfold takeAttribute? at h
    simp only at h
    split at h
    · next found isFound =>
      obtain rfl : found = (digits, after) := by simpa using h
      split at isFound
      · cases isFound
      · obtain ⟨value, isLead, isQuoted⟩ := Option.bind_eq_some_iff.mp isFound
        have := Text.length_of_dropLead? isLead
        have := length_lt_of_takeQuotedDigits? isQuoted
        omega
    · split at h
      · cases h
      · have := ih h
        simp only [List.length_cons]
        omega

theorem length_lt_of_takeId? {text after : Markup} {digits : List Char}
    (h : takeId? text = some (digits, after)) : after.length < text.length := by
  unfold takeId? at h
  split at h
  · cases h
  · next rest isRest =>
    split at h
    · cases h
    · have := Text.length_of_dropLead? isRest
      have := length_lt_of_takeAttribute? h
      omega

/-- The numbers of the drawings in the markup, as they are spelled, from the left and
    without overlap. -/
def idTexts (text : Markup) : List (List Char) :=
  match _h : takeId? text with
  | some (digits, after) => digits :: idTexts after
  | none =>
    match text with
    | [] => []
    | _ :: rest => idTexts rest
termination_by text.length
decreasing_by
  · exact length_lt_of_takeId? _h
  · simp

/-- The greatest number of a drawing in the markup, zero if there is none. Numbers with
    other digits than those of ASCII and numbers that are too great are passed over. -/
def greatestIdIn (text : Markup) : Nat :=
  ((idTexts text).filterMap Text.decimal?).foldl
    (fun greatest id => if id ≤ greatestId then max greatest id else greatest) 0

end Drawing

end Stencil
