import Stencil.Text.Basic

/-! # Names of parts

A package is a set of named parts. Names are paths with slashes; a few of them say what a
part is for.
-/

namespace Stencil

namespace PartName

/-- The part that declares the media type of every other part. -/
def contentTypes : String := "[Content_Types].xml"

/-- The part with the body of the document. -/
def mainDocument : String := "word/document.xml"

/-- Parts without which a package is no template. -/
def required : List String := [contentTypes, mainDocument]

/-- The folder of a name and the name inside of it; `none` for a name without a slash. -/
def splitFolder? (name : List Char) : Option (List Char × List Char) :=
  Text.splitLast? '/' name

/-- What stands between a leading and a closing text. -/
def between? (lead tail text : List Char) : Option (List Char) :=
  (Text.dropLead? lead text).bind (Text.dropTail? tail)

/-- Whether a part of this name carries tags: the body, the numbered headers and footers,
    and both kinds of notes. -/
def isTemplate (name : String) : Bool :=
  match between? "word/".toList ".xml".toList name.toList with
  | none => false
  | some stem =>
    stem = "document".toList || stem = "footnotes".toList || stem = "endnotes".toList ||
      ["header".toList, "footer".toList].any fun kind =>
        match Text.dropLead? kind stem with
        | some number => number.all Text.isPatternDigit
        | none => false

/-- Whether a part of this name holds markup. -/
def isMarkup (name : String) : Bool :=
  let lower := Text.lowerAscii name.toList
  (Text.dropTail? ".xml".toList lower).isSome || (Text.dropTail? ".rels".toList lower).isSome

def isFolder (name : String) : Bool :=
  name.toList.getLast?.any fun c => c == '/' || c == '\\'

/-- The last component of a name. -/
def file (name : List Char) : List Char :=
  match splitFolder? name with
  | some (_, file) => file
  | none => name

end PartName

end Stencil
