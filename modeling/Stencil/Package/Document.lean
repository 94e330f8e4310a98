import Stencil.Markup.Element
import Stencil.Package.PartName
import Stencil.Zip.Directory
import Stencil.Zip.Draft

/-! # Documents

A document is an opened package: its parts in the order of the container, beside the bytes
they were read from. Folders of the container are no parts. Parts are replaced or added by
name, and a replaced part remembers that it was.

Packing a document copies every entry of its container that no part replaces as it is
packed there. A document without any change is packed as the very bytes it was read from.
-/

namespace Stencil

/-- What is wrong with a package. -/
inductive PackageError where
  /-- The bytes are no container. -/
  | corrupt (detail : String)
  /-- A part that every template has is not there. -/
  | missingPart (part : String)
  /-- The content of a part cannot be had. -/
  | unreadablePart (part detail : String)
  /-- A part is larger than is accepted. -/
  | partTooLarge (part : String) (limit : Nat)
  /-- The parts cannot be put into a container. -/
  | unwritable (detail : String)
  /-- The file of the package cannot be read. -/
  | unreadableFile (detail : String)
  deriving Repr, DecidableEq

def PackageError.message : PackageError → String
  | corrupt detail => "Template container is not a readable archive: " ++ detail
  | missingPart part => "Template container is missing required part: " ++ part
  | unreadablePart part detail => "Part " ++ part ++ " could not be read: " ++ detail
  | partTooLarge part limit => "Part " ++ part ++ " exceeds the " ++ toString limit ++ " byte limit"
  | unwritable detail => "Rendered container could not be written: " ++ detail
  | unreadableFile detail => "IO error: " ++ detail

inductive PartContent where
  /-- Markup that tags may stand in. -/
  | markup (text : Markup)
  | binary (bytes : ByteArray)
  deriving DecidableEq

namespace PartContent

/-- The content as bytes, markup in UTF-8. -/
def bytes : PartContent → ByteArray
  | markup text => (String.ofList text).toUTF8
  | binary bytes => bytes

def markup? : PartContent → Option Markup
  | markup text => some text
  | binary _ => none

/-- The content that a part of the name has: markup if the name says so and the bytes are
    UTF-8, else the bytes. -/
def ofBytes (name : String) (bytes : ByteArray) : PartContent :=
  if PartName.isMarkup name then
    match String.fromUTF8? bytes with
    | some text => markup text.toList
    | none => binary bytes
  else binary bytes

end PartContent

/-- A named content of a document. -/
structure Part where
  name : String
  content : PartContent
  /-- Whether the container the document was read from has the part. -/
  original : Bool
  /-- Whether the content was set after the document was read. -/
  modified : Bool
  deriving DecidableEq

namespace Part

def greatestSize : Nat := 256 * 1024 * 1024

/-- The part that an entry of a container holds; a folder holds none. An entry is refused
    when it declares too many bytes, before any of them is unpacked. -/
def ofEntry (entry : Zip.Entry) : Except PackageError (Option Part) :=
  match entry.isReadable with
  | .error error => .error (.corrupt error.message)
  | .ok () =>
    if PartName.isFolder entry.name then .ok none
    else if greatestSize < entry.size then
      .error (.partTooLarge entry.name greatestSize)
    else
      match entry.unpack greatestSize with
      | .error .tooLarge => .error (.partTooLarge entry.name greatestSize)
      | .error error => .error (.unreadablePart entry.name error.message)
      | .ok bytes =>
        .ok (some
          { name := entry.name, content := PartContent.ofBytes entry.name bytes
            original := true, modified := false })

/-- The part with a content: it counts as modified once its content has changed. -/
def withContent (part : Part) (content : PartContent) : Part :=
  if part.content = content then part else { part with content, modified := true }

/-- The entry that a modified part is packed as. -/
def toEntry (part : Part) : Zip.Entry :=
  Zip.Entry.create part.name .deflated part.content.bytes

end Part

/-- An opened package. -/
structure Document where
  /-- The bytes of the container. -/
  source : ByteArray
  /-- The entries of the container, folders included. -/
  entries : List Zip.Entry
  parts : List Part

namespace Document

/-- Open the package that is contained in the bytes. -/
def read (source : ByteArray) : Except PackageError Document :=
  match Zip.read source with
  | .error error => .error (.corrupt error.message)
  | .ok entries => do
    let parts ← entries.mapM Part.ofEntry
    return { source, entries, parts := parts.filterMap id }

def names (document : Document) : List String :=
  document.parts.map Part.name

def part? (document : Document) (name : String) : Option Part :=
  document.parts.find? fun part => part.name = name

def contains (document : Document) (name : String) : Bool :=
  (document.part? name).isSome

def content? (document : Document) (name : String) : Option PartContent :=
  (document.part? name).map Part.content

/-- The markup of a part; `none` for a binary part and for one that is not there. -/
def markup? (document : Document) (name : String) : Option Markup :=
  (document.content? name).bind PartContent.markup?

def bytes? (document : Document) (name : String) : Option ByteArray :=
  (document.content? name).map PartContent.bytes

/-- The names of the parts that carry tags, in order. -/
def templateNames (document : Document) : List String :=
  document.names.filter PartName.isTemplate

/-- Fails for the first of the names that no part has. -/
def require (document : Document) (names : List String) : Except PackageError Unit :=
  match names.find? fun name => !document.contains name with
  | some missing => .error (.missingPart missing)
  | none => .ok ()

/-- The parts with a content for the name: that of the first part of this name, or of a
    part that is added. -/
def setIn (name : String) (content : PartContent) : List Part → List Part
  | [] => [{ name, content, original := false, modified := true }]
  | part :: rest =>
    if part.name = name then part.withContent content :: rest
    else part :: setIn name content rest

def set (document : Document) (name : String) (content : PartContent) : Document :=
  { document with parts := setIn name content document.parts }

def isModified (document : Document) : Bool :=
  document.parts.any Part.modified

/-- The entry of the packed document in place of one of the container's. -/
def repackEntry (document : Document) (entry : Zip.Entry) : Zip.Entry :=
  match document.part? entry.name with
  | some part => if part.modified then part.toEntry else entry
  | none => entry

/-- The entries of the packed document: those of the container in their places, then the
    added parts. -/
def repackedEntries (document : Document) : List Zip.Entry :=
  document.entries.map document.repackEntry ++
    (document.parts.filter fun part => !part.original).map Part.toEntry

/-- The bytes of the document as a container. -/
def pack (document : Document) : Except PackageError ByteArray :=
  if document.isModified then
    match Zip.write document.repackedEntries with
    | .ok bytes => .ok bytes
    | .error error => .error (.unwritable error.message)
  else .ok document.source

end Document

end Stencil
