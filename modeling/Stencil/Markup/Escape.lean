import Stencil.Markup.Element
import Stencil.Text.Basic

/-! # Values as markup

A value is written into markup with the five predefined entities, without the characters
that XML 1.0 forbids, and with its line breaks as breaks of the run it stands in.
-/

namespace Stencil

namespace Markup

/-- Whether XML 1.0 allows the character in a document. -/
def isLegal (c : Char) : Bool :=
  c == '\t' || c == '\n' || c == '\r' || ('\u0020' ≤ c && c ≤ '\ud7ff') ||
    ('\ue000' ≤ c && c ≤ '\ufffd') || (0x10000 ≤ c.toNat)

/-- The characters that are written as entities, each with the name of its entity. -/
def entities : List (Char × List Char) :=
  [('&', "amp".toList), ('<', "lt".toList), ('>', "gt".toList), ('\x22', "quot".toList),
   ('\x27', "apos".toList)]

/-- A character as it is written into markup: as its entity if it has one, itself if it
    is legal, and not at all otherwise. -/
def escapeChar (c : Char) : Markup :=
  match entities.lookup c with
  | some name => '&' :: name ++ [';']
  | none => if isLegal c then [c] else []

/-- Text as it is written into the content of an element or into an attribute. -/
def escape (text : List Char) : Markup :=
  text.flatMap escapeChar

/-- Ends the text of a run, breaks the line and begins a new text in the same run. -/
def runBreak : Markup :=
  "</w:t><w:br/><w:t xml:space=\"preserve\">".toList

/-- Every carriage return that a newline follows is dropped. -/
def joinLineEnds : List Char → List Char
  | '\r' :: '\n' :: rest => '\n' :: joinLineEnds rest
  | c :: rest => c :: joinLineEnds rest
  | [] => []

/-- A value as it is written in place of a text tag. A vertical tab counts as a newline;
    with `linebreaks` each line end becomes a run break. -/
def ofValue (value : List Char) (linebreaks : Bool) : Markup :=
  let escaped := escape (Text.replaceChar '\x0b' ['\n'] value)
  if linebreaks && escaped.contains '\n' then
    Text.join runBreak (Text.splitAll '\n' (joinLineEnds escaped))
  else escaped

end Markup

end Stencil
