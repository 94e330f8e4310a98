/-! # Formats of pictures

The format of a picture is told by its first bytes.
-/

namespace Stencil

inductive ImageFormat where
  | png
  | jpeg
  | gif
  | bmp
  deriving Repr, DecidableEq

namespace ImageFormat

/-- The bytes that pictures of a format begin with; those of PNG are not looked at. -/
def signatures : List (List UInt8 × ImageFormat) :=
  [([0xFF, 0xD8, 0xFF], jpeg), ("GIF87a".toUTF8.toList, gif), ("GIF89a".toUTF8.toList, gif),
   ("BM".toUTF8.toList, bmp)]

/-- The format of a picture, PNG where nothing else is recognised. -/
def detect (picture : ByteArray) : ImageFormat :=
  let head := (picture.extract 0 6).toList
  match signatures.find? fun (signature, _) => signature.isPrefixOf head with
  | some (_, format) => format
  | none => png

def extension : ImageFormat → String
  | png => "png"
  | jpeg => "jpeg"
  | gif => "gif"
  | bmp => "bmp"

def mediaType (format : ImageFormat) : String :=
  "image/" ++ format.extension

end ImageFormat

end Stencil
