import Stencil.Image.Format
import Stencil.Markup.Element
import Stencil.Text.Basic

/-! # Content types

One part of a package declares a media type for each extension of part names.
-/

namespace Stencil

namespace ContentTypes

def rootEnd : Markup :=
  "</Types>".toList

/-- The element that declares the media type of a format of pictures. -/
def defaultElement (format : ImageFormat) : Markup :=
  "<Default Extension=\"".toList ++ format.extension.toList ++ "\" ContentType=\"".toList ++
    format.mediaType.toList ++ "\"/>".toList

/-- Whether the extension of a format is declared, in any case of its ASCII letters. -/
def declares (types : Markup) (format : ImageFormat) : Bool :=
  Text.occurs ("extension=\"".toList ++ format.extension.toList ++ ['\x22'])
    (Text.lowerAscii types)

/-- The part with a declaration of the format, which is added before the last end tag of
    the root if there is none yet. -/
def ensure (types : Markup) (format : ImageFormat) : Markup :=
  if declares types format then types
  else
    match Text.cutLast? rootEnd types with
    | some (before, after) => before ++ defaultElement format ++ rootEnd ++ after
    | none => types

end ContentTypes

end Stencil
