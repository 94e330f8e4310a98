import Stencil.Text.Basic

/-! # Placeholder tags

A template marks the places to fill with two shapes of tag:

- a text tag, two opening braces, an identifier and two closing braces;
- an image tag, an opening brace and a percent sign, an identifier, and a closing brace
  with or without a percent sign before it.

What follows the first colon is a formatter. It is kept for reports and never changes
which value the tag is bound to.
-/

namespace Stencil

/-- What a tag is replaced by. -/
inductive TagKind where
  /-- The text of the value. -/
  | text
  /-- A drawing of the picture that the value locates. -/
  | image
  deriving Repr, DecidableEq

/-- The lower-case word for a kind of tag. -/
def TagKind.name : TagKind → String
  | .text => "text"
  | .image => "image"

/-- A placeholder of a template. -/
structure Tag where
  kind : TagKind
  /-- The key of the payload that the tag asks for. -/
  identifier : String
  /-- The trimmed text after the first colon; `none` when there is no colon. -/
  formatter : Option String
  deriving Repr, DecidableEq

/-- Letters, digits and low lines, and at least one of them. -/
def isIdentifier (text : List Char) : Bool :=
  !text.isEmpty && text.all fun c => Text.isAlphanumeric c || c == '_'

namespace Tag

/-- The two characters that open a tag of the kind. -/
def opening : TagKind → List Char
  | .text => ['{', '{']
  | .image => ['{', '%']

/-- The two characters that close a tag of the kind when it is displayed. -/
def closing : TagKind → List Char
  | .text => ['}', '}']
  | .image => ['%', '}']

/-- The kind of a trimmed tag text and what stands between its delimiters. Delimiters
    are removed where they are present, and text without any is the body of a text tag. -/
def undelimited (text : List Char) : TagKind × List Char :=
  match Text.dropLead? (opening .image) text with
  | some rest => (.image, Text.dropTail ['%'] (Text.trimEnd (Text.dropTail ['}'] rest)))
  | none =>
    match Text.dropLead? (opening .text) text with
    | some rest => (.text, Text.dropTail (closing .text) rest)
    | none => (.text, text)

/-- The tag that a text stands for. Every text stands for one; whether it follows the
    grammar is told by `Tag.wellFormed`. -/
def parse (raw : List Char) : Tag :=
  let (kind, body) := undelimited (Text.trim raw)
  match Text.splitFirst? ':' body with
  | some (identifier, formatter) =>
    { kind, identifier := String.ofList (Text.trim identifier)
      formatter := some (String.ofList (Text.trim formatter)) }
  | none => { kind, identifier := String.ofList (Text.trim body), formatter := none }

/-- Whether the identifier can be a key of a payload. -/
def wellFormed (tag : Tag) : Bool :=
  isIdentifier tag.identifier.toList

/-- The text of the tag in its delimiters, with nothing around identifier and formatter. -/
def display (tag : Tag) : List Char :=
  let body := match tag.formatter with
    | some formatter => tag.identifier.toList ++ ':' :: formatter.toList
    | none => tag.identifier.toList
  opening tag.kind ++ body ++ closing tag.kind

end Tag

end Stencil
