import Stencil.Text.Basic

/-! # Trees of files

A tree of folders and files, in which paths are looked up the way an operating system does.
A path is a text with slashes. Its components are walked one by one, from the root if it
begins with a slash and from the current folder otherwise: a dot stays, two dots go back, a
link goes where its text leads, and everything before the last component is a folder.
-/

namespace Stencil

/-- The names of the folders on the way from the root, and at the end the name of what is
    there. -/
abbrev Place := List String

structure StoredFile where
  bytes : ByteArray
  /-- The rights: three bits each for the owner, the group and others, to read, to write and
      to run the file as a program. -/
  mode : Nat := 0o644
  deriving DecidableEq

/-- Whether somebody may run the file as a program. -/
def StoredFile.executable (file : StoredFile) : Bool :=
  file.mode &&& 0o111 ≠ 0

/-- A file that is no store of bytes. -/
inductive Device where
  /-- Swallows all, and holds nothing. -/
  | null
  /-- Holds zeros without an end. -/
  | zero
  /-- Takes nothing, because there is no room. -/
  | full
  /-- The terminal, of which there is none. -/
  | terminal
  /-- A stream of the program that opens the device. -/
  | stream (number : Nat)
  deriving DecidableEq

inductive Node where
  | file (file : StoredFile)
  | folder
  /-- A path that is followed from the folder of the link. -/
  | link (target : String)
  /-- A program that every computer has, known by its name. -/
  | program (name : String)
  | device (device : Device)
  deriving DecidableEq

/-- Why a path leads nowhere, or nothing can be done with what is there. -/
inductive FileError where
  | notFound
  | notAFolder
  | isAFolder
  | alreadyThere
  | notPermitted
  | notEmpty
  | tooManyLinks
  | nameTooLong
  | noDevice
  | noSpace
  deriving Repr, DecidableEq

def FileError.wording : FileError → String
  | notFound => "No such file or directory"
  | notAFolder => "Not a directory"
  | isAFolder => "Is a directory"
  | alreadyThere => "File exists"
  | notPermitted => "Permission denied"
  | notEmpty => "Directory not empty"
  | tooManyLinks => "Too many levels of symbolic links"
  | nameTooLong => "File name too long"
  | noDevice => "No such device or address"
  | noSpace => "No space left on device"

def FileError.number : FileError → Nat
  | notFound => 2
  | notAFolder => 20
  | isAFolder => 21
  | alreadyThere => 17
  | notPermitted => 13
  | notEmpty => 39
  | tooManyLinks => 40
  | nameTooLong => 36
  | noDevice => 6
  | noSpace => 28

def FileError.message (error : FileError) : String :=
  error.wording ++ " (os error " ++ toString error.number ++ ")"

/-- Whether a device takes bytes that are written to it. None of them is kept at its place. -/
def Device.take : Device → (bytes : ByteArray) → Except FileError Unit
  | full, bytes => if bytes.isEmpty then .ok () else .error .noSpace
  | terminal, _ => .error .noDevice
  | null, _ | zero, _ | stream _, _ => .ok ()

/-- What is at places. Every folder on the way to a place is a folder of the tree. -/
structure FileTree where
  nodes : List (Place × Node)
  /-- The folder that paths are walked from. -/
  current : Place
  /-- The rights that new files do not get. -/
  mask : Nat := 0o022

namespace FileTree

def empty : FileTree :=
  { nodes := [], current := [] }

def node? (tree : FileTree) (place : Place) : Option Node :=
  if place.isEmpty then some .folder else tree.nodes.lookup place

def file? (tree : FileTree) (place : Place) : Option StoredFile :=
  match tree.node? place with
  | some (.file file) => some file
  | _ => none

def isFolder (tree : FileTree) (place : Place) : Bool :=
  tree.node? place = some .folder

def files (tree : FileTree) : List (Place × StoredFile) :=
  tree.nodes.filterMap fun (place, node) =>
    match node with
    | .file file => some (place, file)
    | _ => none

/-- The components of a path, empty ones left out. -/
def components (path : String) : List String :=
  ((Text.splitAll '/' path.toList).filter fun name => !name.isEmpty).map String.ofList

/-- Whether the path asks for a folder by its last slash or dot. -/
def endsAsFolder (path : String) : Bool :=
  match (Text.splitAll '/' path.toList).getLast? with
  | some last => last.isEmpty || last = ['.'] || last = ['.', '.']
  | none => false

/-- The folder that a path is walked from, if it is met in the given folder. -/
def startOf (path : String) (folder : Place) : Place :=
  if path.startsWith "/" then [] else folder

def longestName : Nat := 255

def longestPath : Nat := 4095

def mostLinks : Nat := 40

/-- Where a walk comes to without following links. -/
inductive Stop where
  /-- The place of the last component, whether or not something is there. -/
  | arrived (place : Place)
  /-- A link in a folder, and the components behind it. -/
  | link (folder : Place) (target : String) (rest : List String)

/-- Walk components from a folder up to the first link. A link that is the last component
    is the end of the walk, unless it is to be followed. -/
def walkToLink (tree : FileTree) (followsLast : Bool) (folder : Place) :
    List String → Except FileError Stop
  | [] => .ok (.arrived folder)
  | "." :: rest => walkToLink tree followsLast folder rest
  | ".." :: rest => walkToLink tree followsLast folder.dropLast rest
  | name :: rest =>
    let place := folder ++ [name]
    if longestName < name.utf8ByteSize then .error .nameTooLong
    else
      match tree.node? place with
      | some .folder => walkToLink tree followsLast place rest
      | some (.link target) =>
        if rest.isEmpty && !followsLast then .ok (.arrived place)
        else .ok (.link folder target rest)
      | some _ => if rest.isEmpty then .ok (.arrived place) else .error .notAFolder
      | none => if rest.isEmpty then .ok (.arrived place) else .error .notFound

/-- Walk components from a folder, following a number of links. -/
def walk (tree : FileTree) (followsLast : Bool) (links : Nat) (folder : Place)
    (names : List String) : Except FileError Place :=
  match tree.walkToLink followsLast folder names with
  | .error error => .error error
  | .ok (.arrived place) => .ok place
  | .ok (.link folder target rest) =>
    match links with
    | 0 => .error .tooManyLinks
    | links + 1 =>
      tree.walk followsLast links (startOf target folder) (components target ++ rest)

/-- The place that a path leads to, whether or not something is there. -/
def placeOf (tree : FileTree) (followsLast : Bool) (path : String) : Except FileError Place :=
  if path.isEmpty then .error .notFound
  else if longestPath < path.utf8ByteSize then .error .nameTooLong
  else
    let asFolder := endsAsFolder path
    match tree.walk (followsLast || asFolder) mostLinks (startOf path tree.current)
        (components path) with
    | .ok place =>
      if asFolder then
        match tree.node? place with
        | some .folder => .ok place
        | some _ => .error .notAFolder
        | none => .error .notFound
      else .ok place
    | .error error => .error error

/-- The place that a path leads to, a link at its end followed. -/
def resolve (tree : FileTree) (path : String) : Except FileError Place :=
  tree.placeOf true path

/-- The place that a path names, which may be that of a link. -/
def locate (tree : FileTree) (path : String) : Except FileError Place :=
  tree.placeOf false path

/-- What is where a path leads to. -/
def lookup (tree : FileTree) (path : String) : Except FileError (Place × Node) :=
  match tree.resolve path with
  | .error error => .error error
  | .ok place =>
    match tree.node? place with
    | some node => .ok (place, node)
    | none => .error .notFound

def find (tree : FileTree) (path : String) : Except FileError StoredFile :=
  match tree.lookup path with
  | .error error => .error error
  | .ok (_, .file file) => .ok file
  | .ok (_, .folder) => .error .isAFolder
  | .ok (_, .link _) => .error .notFound
  | .ok (_, .program name) => .ok { bytes := name.toUTF8, mode := 0o755 }
  | .ok (_, .device .null) => .ok { bytes := ByteArray.empty }
  | .ok (_, .device _) => .error .noDevice

def read (tree : FileTree) (path : String) : Except FileError ByteArray :=
  (tree.find path).map StoredFile.bytes

def namesIn (tree : FileTree) (folder : Place) : List String :=
  (tree.nodes.filterMap fun (place, _) =>
    if place.dropLast = folder then place.getLast? else none).mergeSort fun one other =>
      decide (one ≤ other)

def isEmptyFolder (tree : FileTree) (folder : Place) : Bool :=
  tree.nodes.all fun (place, _) => place.isEmpty || place.dropLast ≠ folder

/-- The tree with a node at a place, in the stead of any other node there. -/
def put (tree : FileTree) (place : Place) (node : Node) : FileTree :=
  if place.isEmpty then tree
  else if (tree.nodes.lookup place).isSome then
    { tree with nodes := tree.nodes.map fun (other, kept) =>
        if other = place then (place, node) else (other, kept) }
  else { tree with nodes := tree.nodes ++ [(place, node)] }

def putFile (tree : FileTree) (place : Place) (file : StoredFile) : FileTree :=
  tree.put place (.file file)

def putFolder (tree : FileTree) (place : Place) : FileTree :=
  if tree.isFolder place then tree else tree.put place .folder

/-- The tree without what is at a place and below it. -/
def remove (tree : FileTree) (place : Place) : FileTree :=
  { tree with nodes := tree.nodes.filter fun (other, _) => !place.isPrefixOf other }

/-- The tree with all that is at a place and below it moved to another place, where it
    replaces what was there. -/
def move (tree : FileTree) (place goal : Place) : FileTree :=
  let cleared := if goal = place then tree else tree.remove goal
  { cleared with nodes := cleared.nodes.map fun (other, node) =>
      match place.isPrefixOf? other with
      | some rest => (goal ++ rest, node)
      | none => (other, node) }

/-- The tree with what became different between two other trees. -/
def merge (tree before after : FileTree) : FileTree :=
  let gone := before.nodes.filter fun (place, _) => (after.nodes.lookup place).isNone
  let new := after.nodes.filter fun (place, node) => before.nodes.lookup place ≠ some node
  new.foldl (fun tree (place, node) => tree.put place node)
    (gone.foldl (fun tree (place, _) => tree.remove place) tree)

/-- The place of the file that is written under a path. Its folder is there already. -/
def placeToWrite (tree : FileTree) (path : String) : Except FileError Place :=
  match tree.resolve path with
  | .error .notFound => .error (if endsAsFolder path then .isAFolder else .notFound)
  | .error error => .error error
  | .ok place => if tree.isFolder place then .error .isAFolder else .ok place

/-- The rights of a new file that is to have the given ones. -/
def freshMode (tree : FileTree) (mode : Nat) : Nat :=
  mode &&& (0o777 ^^^ (tree.mask &&& 0o777))

/-- The tree with the bytes in the file at a place, which is made if it is not there. A device at the
    place stays as it is. -/
def writeAt (tree : FileTree) (place : Place) (bytes : ByteArray) : FileTree :=
  match tree.node? place with
  | some (.device _) => tree
  | _ =>
    let mode := (tree.file? place).elim (tree.freshMode 0o666) StoredFile.mode
    tree.putFile place { bytes, mode }

/-- The tree with the bytes in the file that a path leads to, unless a device takes them. -/
def write (tree : FileTree) (path : String) (bytes : ByteArray) : Except FileError FileTree :=
  match tree.placeToWrite path with
  | .error error => .error error
  | .ok place =>
    match tree.node? place with
    | some (.device device) => (device.take bytes).map fun _ => tree
    | _ => .ok (tree.writeAt place bytes)

/-- The tree with a folder at each place on the way along the components. -/
def makeFolders (tree : FileTree) (folder : Place) : List String → Except FileError FileTree
  | [] => .ok tree
  | "." :: rest => makeFolders tree folder rest
  | ".." :: rest => makeFolders tree folder.dropLast rest
  | name :: rest =>
    if longestName < name.utf8ByteSize then .error .nameTooLong
    else
      match tree.walk true mostLinks folder [name] with
      | .error error => .error error
      | .ok place =>
        match tree.node? place with
        | none | some .folder => makeFolders (tree.putFolder place) place rest
        | some _ => .error (if rest.isEmpty then .alreadyThere else .notAFolder)

/-- The tree with the folder that a path leads to, and every folder on the way. -/
def createFolders (tree : FileTree) (path : String) : Except FileError FileTree :=
  tree.makeFolders (startOf path tree.current) (components path)

/-- The tree with a node and the folders on the way to it. -/
def addNode (tree : FileTree) (place : Place) (node : Node) : FileTree :=
  ((List.range place.length).map place.take).foldl putFolder (tree.put place node)

/-- The tree with one more file and the folders on the way to it. -/
def add (tree : FileTree) (place : Place) (file : StoredFile) : FileTree :=
  tree.addNode place (.file file)

def addFolder (tree : FileTree) (place : Place) : FileTree :=
  ((List.range (place.length + 1)).map place.take).foldl putFolder tree

end FileTree

end Stencil
