import Stencil.Zip.Bzip2
import Stencil.Zip.Deflate
import Stencil.Zip.Timestamp
import Stencil.Zip.Xz
import Stencil.Zip.Zstandard.Frame

/-! # Entries of a container

An entry is a named sequence of bytes, as it is packed in the container. Unpacking checks
the bytes against their checksum.
-/

namespace Stencil

namespace Zip

inductive Method where
  /-- As they are. -/
  | stored
  | deflated
  /-- As a deflate stream whose copies reach farther. -/
  | deflate64
  | bzip2
  | lzma
  | zstd
  | xz
  /-- In a way that is not read here. -/
  | other (code : Nat)
  deriving Repr, DecidableEq

namespace Method

/-- The methods that are read, with their numbers and the words for them. -/
def known : List (Method × Nat × String) :=
  [(stored, 0, "stored"), (deflated, 8, "deflated"), (deflate64, 9, "deflate64"),
   (bzip2, 12, "bzip2"), (lzma, 14, "lzma"), (zstd, 93, "zstd"), (xz, 95, "xz")]

/-- The number of a method in a directory. -/
def code : Method → Nat
  | other code => code
  | method => ((known.lookup method).map Prod.fst).getD 0

def ofCode (code : Nat) : Method :=
  match known.find? fun (_, known, _) => known = code with
  | some (method, _) => method
  | none => other code

def name : Method → String
  | other code => "method " ++ toString code
  | method => ((known.lookup method).map Prod.snd).getD ""

end Method

structure Entry where
  name : String
  method : Method
  encrypted : Bool
  /-- Whether no local record leads to the packed bytes. -/
  lost : Bool
  modified : Timestamp
  checksum : Nat
  /-- The number of bytes that the directory declares. -/
  size : Nat
  /-- The number of packed bytes that the directory declares. -/
  packedSize : Nat
  /-- The bytes as they are packed: fewer than declared where the container ends early. -/
  packed : ByteArray
  deriving DecidableEq

/-- Why the bytes of an entry cannot be had. -/
inductive UnpackError where
  /-- The entry needs a password. -/
  | encrypted
  /-- The entry is packed in an unknown way. -/
  | unknownMethod
  /-- No local record stands where the directory tells. -/
  | lost
  /-- The packed bytes are no stream. -/
  | corruptStream
  /-- The bytes are not those that the directory tells of. -/
  | wrongChecksum
  | tooLarge
  deriving Repr, DecidableEq

def UnpackError.message : UnpackError → String
  | encrypted => "a password is required"
  | unknownMethod => "the compression method is not supported"
  | lost => "no local file header"
  | corruptStream => "corrupt compressed stream"
  | wrongChecksum => "invalid checksum"
  | tooLarge => "too many bytes"

/-- The bytes of a deflate stream. A stream of the plain kind must be complete. -/
def unpackDeflate (kind : Deflate.Kind) (limit : Nat) (stream : ByteArray) :
    Except Ending ByteArray :=
  match kind, Deflate.inflate kind limit stream with
  | _, (content, .complete) | .enhanced, (content, .truncated) => .ok content
  | _, (_, ending) => .error ending

/-- The bytes that a stream of a method holds, if there are not many more than `limit`. -/
def Method.unpack (method : Method) (limit : Nat) (stream : ByteArray) :
    Except Ending ByteArray :=
  match method with
  | stored => .ok stream
  | deflated => unpackDeflate .plain limit stream
  | deflate64 => unpackDeflate .enhanced limit stream
  | bzip2 => Bzip2.unpack limit stream
  | lzma => if stream.size = 0 then .ok stream else .error .corrupt
  | zstd => Zstandard.unpack limit stream
  | xz => Xz.unpack limit stream
  | other _ => .error .corrupt

namespace Entry

/-- An entry with the given bytes, written anew. It is stored or deflated. -/
def create (name : String) (method : Method) (content : ByteArray) : Entry :=
  let packed := match method with
    | .deflated => Deflate.deflate content
    | _ => content
  { name, method, encrypted := false, lost := false, modified := .earliest
    checksum := (Zip.checksum content).toNat, size := content.size
    packedSize := packed.size, packed }

/-- Whether the entry is packed in a way that can be undone. -/
def isReadable (entry : Entry) : Except UnpackError Unit :=
  if entry.encrypted then .error .encrypted
  else if entry.lost then .error .lost
  else match entry.method with
    | .other _ => .error .unknownMethod
    | _ => .ok ()

/-- The bytes of an entry, at most `limit` of them. -/
def unpack (limit : Nat) (entry : Entry) : Except UnpackError ByteArray := do
  entry.isReadable
  match entry.method.unpack limit entry.packed with
  | .error .limited => throw .tooLarge
  | .error _ => throw .corruptStream
  | .ok content =>
    if limit < content.size then throw .tooLarge
    else if (Zip.checksum content).toNat = entry.checksum then return content
    else throw .wrongChecksum

end Entry

end Zip

end Stencil
