import Stencil.Markup.Escape
import Stencil.Package.PartName

/-! # Relationships

A part refers to another one by the identifier of a relationship. The relationships of a
part are declared in a part of their own, in a folder beside it.
-/

namespace Stencil

namespace Relationships

def rootNamespace : List Char :=
  "http://schemas.openxmlformats.org/package/2006/relationships".toList

def imageType : List Char :=
  "http://schemas.openxmlformats.org/officeDocument/2006/relationships/image".toList

/-- The name of the part with the relationships of a part. -/
def partFor (part : String) : String :=
  String.ofList <|
    match PartName.splitFolder? part.toList with
    | some (folder, file) => folder ++ "/_rels/".toList ++ file ++ ".rels".toList
    | none => "_rels/".toList ++ part.toList ++ ".rels".toList

/-- The name of a media part as a target: relative to the folder of the part if it lies
    inside of that, else from the root. -/
def target (part media : String) : String :=
  let folder := match PartName.splitFolder? part.toList with
    | some (folder, _) => folder
    | none => []
  match Text.dropLead? (folder ++ ['/']) media.toList with
  | some inner => if folder.isEmpty then "/" ++ media else String.ofList inner
  | none => "/" ++ media

/-- The element that declares a picture. -/
def imageElement (id target : List Char) : Markup :=
  "<Relationship Id=\"".toList ++ Markup.escape id ++ "\" Type=\"".toList ++ imageType ++
    "\" Target=\"".toList ++ Markup.escape target ++ "\"/>".toList

def rootEnd : Markup :=
  "</Relationships>".toList

/-- A new part with the given elements. -/
def create (elements : Markup) : Markup :=
  "<?xml version=\"1.0\" encoding=\"UTF-8\" standalone=\"yes\"?>\n<Relationships xmlns=\"".toList ++
    rootNamespace ++ "\">".toList ++ elements ++ rootEnd

/-- The part with one more picture: before the last end tag of the root, or inside of a
    root that closes itself. A part with neither stays as it is. -/
def addImage (relationships : Option Markup) (id target : List Char) : Markup :=
  let element := imageElement id target
  match relationships with
  | none => create element
  | some markup =>
    match Text.cutLast? rootEnd markup with
    | some (before, after) => before ++ element ++ rootEnd ++ after
    | none =>
      match Text.cutLast? ['/', '>'] markup with
      | some (before, after) => before ++ '>' :: element ++ rootEnd ++ after
      | none => markup

/-- Whether an element of the part has the identifier. -/
def hasId (relationships : Markup) (id : List Char) : Bool :=
  Text.occurs ("Id=\"".toList ++ id ++ ['\x22']) relationships

end Relationships

end Stencil
