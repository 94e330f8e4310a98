import Stencil.Files.Tree
import Stencil.Shell.ByteText

/-! # Utilities

The programs that scripts run to handle text and files. A utility works at a desk: it gets
what it reads and a tree of files, and it leaves what it prints, what it complains of, and
the tree as it has changed it. It ends with a status, at once if something stops it.
-/

namespace Stencil

open Shell (ByteText)

/-- What a utility works with. -/
structure Desk where
  /-- What complaints begin with. -/
  title : ByteText
  input : ByteText
  /-- Whether what is to be read is a file, whose size is known before it is read. -/
  readsFile : Bool
  /-- Whether complaints are printed among the output, because both go to one place. -/
  joined : Bool := false
  output : ByteArray := ByteArray.empty
  error : ByteArray := ByteArray.empty
  tree : FileTree
  /-- The variables that the utility gets. -/
  environment : List (ByteText × ByteText) := []
  /-- How long the work took, in milliseconds. -/
  elapsed : Nat := 0

/-- Some work, which may end early with a status. -/
abbrev Work := EStateM Nat Desk

/-- A program: the work it does with its arguments, and its status. -/
abbrev Utility := (arguments : List ByteText) → Work Nat

namespace Work

def print (text : ByteText) : Work Unit :=
  modify fun desk =>
    match desk with
    | { title, input, readsFile, joined, output, error, tree, environment, elapsed } =>
      { title, input, readsFile, joined, output := output ++ ByteText.toBytes text, error, tree
        environment, elapsed }

def printLine (text : ByteText) : Work Unit :=
  print (text ++ ['\n'])

/-- Print a text where complaints go. -/
def mutter (text : ByteText) : Work Unit :=
  modify fun desk =>
    match desk with
    | { title, input, readsFile, joined, output, error, tree, environment, elapsed } =>
      if joined then
        { title, input, readsFile, joined, output := output ++ ByteText.toBytes text, error, tree
          environment, elapsed }
      else
        { title, input, readsFile, joined, output, error := error ++ ByteText.toBytes text, tree
          environment, elapsed }

/-- Complain, with the title in front. -/
def complain (text : ByteText) : Work Unit := do
  mutter ((← get).title ++ text ++ ['\n'])

/-- Complain in words, with names among them. -/
def complainOf (texts : List ByteText) : Work Unit :=
  complain texts.flatten

/-- Complain and end with a status. -/
def stop {α : Type} (status : Nat) (texts : List ByteText) : Work α := do
  complainOf texts
  throw status

/-- The status of work that has no end. -/
def endless : Nat := 1000000

def takeInput : Work ByteText := do
  let text := (← get).input
  modify fun desk => { desk with input := [] }
  return text

def wait (milliseconds : Nat) : Work Unit :=
  modify fun desk => { desk with elapsed := desk.elapsed + milliseconds }

def setTree (tree : FileTree) : Work Unit :=
  modify fun desk => { desk with tree }

def pathOf (text : ByteText) : String :=
  ByteText.toString text

/-- How many zeros are read where there is no end of them. -/
def zerosRead : Nat := 1048576

/-- What is read from a named file, of which at most a number of bytes is needed; a dash
    stands for what is to be read. -/
def readAtMost (limit : Nat) (name : ByteText) : Work (Except FileError ByteText) := do
  if name = ['-'] then return .ok (← takeInput)
  match (← get).tree.lookup (pathOf name) with
  | .error error => return .error error
  | .ok (_, .file file) => return .ok (ByteText.ofBytes file.bytes)
  | .ok (_, .folder) => return .error .isAFolder
  | .ok (_, .device .null) => return .ok []
  | .ok (_, .device .zero) | .ok (_, .device .full) =>
    return .ok (List.replicate (min limit zerosRead) '\x00')
  | .ok (_, .device (.stream _)) => return .ok (← takeInput)
  | .ok (_, .device .terminal) => return .error .noDevice
  | .ok (_, .program name) => return .ok (ByteText.ofString ("\x7fELF" ++ name))
  | .ok (_, .link _) => return .error .notFound

def read (name : ByteText) : Work (Except FileError ByteText) :=
  readAtMost zerosRead name

/-- Write a text to a named file, behind what is in it if `appends`. -/
def write (name : ByteText) (appends : Bool) (text : ByteText) : Work (Except FileError Unit) := do
  let tree := (← get).tree
  match tree.placeToWrite (pathOf name) with
  | .error error => return .error error
  | .ok place =>
    match tree.node? place with
    | some (.device (.stream 2)) =>
      mutter text
      return .ok ()
    | some (.device (.stream _)) =>
      print text
      return .ok ()
    | some (.device device) => return device.take (ByteText.toBytes text)
    | _ =>
      let before := if appends then (tree.file? place).elim ByteArray.empty StoredFile.bytes
        else ByteArray.empty
      setTree (tree.writeAt place (before ++ ByteText.toBytes text))
      return .ok ()

def wording (error : FileError) : ByteText :=
  error.wording.toList

/-- Join the texts of files, or what is to be read if none are named; files that cannot be
    read are complained of. The status is one if there are any. -/
def readAll (names : List ByteText) (complaint : ByteText → FileError → List ByteText) :
    Work (List (ByteText × ByteText) × Nat) := do
  let names := if names.isEmpty then [['-']] else names
  let mut texts := []
  let mut status := 0
  for name in names do
    match ← read name with
    | .ok text => texts := (name, text) :: texts
    | .error error =>
      complainOf (complaint name error)
      status := 1
  return (texts.reverse, status)

/-- The usual complaint about a file that cannot be read. -/
def plainComplaint (name : ByteText) (error : FileError) : List ByteText :=
  [name, ": ".toList, wording error]

end Work

def quotedName (name : ByteText) : ByteText :=
  '\x27' :: name ++ ['\x27']

structure Arguments where
  options : List (Char × ByteText)
  operands : List ByteText

namespace Arguments

def has (arguments : Arguments) (option : Char) : Bool :=
  arguments.options.any fun given => given.1 = option

/-- The value of an option, the last one given. -/
def value? (arguments : Arguments) (option : Char) : Option ByteText :=
  arguments.options.reverse.lookup option

def values (arguments : Arguments) (option : Char) : List ByteText :=
  (arguments.options.filter fun given => given.1 = option).map Prod.snd

end Arguments

/-- What options a utility has. -/
structure UtilityOptions where
  /-- The letters of options without a value. -/
  flags : String := ""
  /-- The letters of options with a value. -/
  valued : String := ""
  long : List (String × Char) := []
  /-- Whether options may stand behind other arguments. -/
  mixes : Bool := true
  /-- The status of wrong use. -/
  failure : Nat := 1
  /-- The name of the utility in its hint. -/
  name : String

namespace UtilityOptions

def refuse {α : Type} (spec : UtilityOptions) (texts : List ByteText) : Work α := do
  Work.complainOf texts
  Work.mutter ("Try '" ++ spec.name ++ " --help' for more information.\n").toList
  throw spec.failure

/-- The options in the letters of an argument; the last one may need the next argument. -/
def readLetters (spec : UtilityOptions) :
    (letters : ByteText) → (rest : List ByteText) →
      Work (List (Char × ByteText) × List ByteText)
  | [], rest => return ([], rest)
  | letter :: letters, rest => do
    if spec.valued.toList.contains letter then
      match letters, rest with
      | [], [] =>
        spec.refuse ["option requires an argument -- ".toList, quotedName [letter]]
      | [], value :: rest => return ([(letter, value)], rest)
      | value, rest => return ([(letter, value)], rest)
    else if spec.flags.toList.contains letter then
      let (options, rest) ← readLetters spec letters rest
      return ((letter, []) :: options, rest)
    else spec.refuse ["invalid option -- ".toList, quotedName [letter]]

/-- The option of a long name, which may be cut short. -/
def readLong (spec : UtilityOptions) (text : ByteText) (rest : List ByteText) :
    Work ((Char × ByteText) × List ByteText) := do
  let (name, value?) := match Text.splitFirst? '=' text with
    | some (name, value) => (name, some value)
    | none => (text, none)
  let known := match spec.long.find? fun entry => entry.1.toList = name with
    | some entry => some entry
    | none => spec.long.find? fun entry => name.isPrefixOf entry.1.toList
  match known with
  | none => spec.refuse ["unrecognized option '--".toList, text, ['\x27']]
  | some (full, letter) =>
    if spec.valued.toList.contains letter then
      match value?, rest with
      | some value, rest => return ((letter, value), rest)
      | none, value :: rest => return ((letter, value), rest)
      | none, [] =>
        spec.refuse ["option '--".toList, full.toList, "' requires an argument".toList]
    else return ((letter, value?.getD []), rest)

def readArguments (spec : UtilityOptions) (fuel : Nat) (arguments : List ByteText) :
    Work Arguments := do
  match fuel, arguments with
  | 0, _ | _, [] => return { options := [], operands := [] }
  | fuel + 1, argument :: rest =>
    match argument with
    | ['-', '-'] => return { options := [], operands := rest }
    | '-' :: '-' :: name =>
      let (option, rest) ← spec.readLong name rest
      let others ← spec.readArguments fuel rest
      return { others with options := option :: others.options }
    | '-' :: letter :: letters =>
      let (options, rest) ← spec.readLetters (letter :: letters) rest
      let others ← spec.readArguments fuel rest
      return { others with options := options ++ others.options }
    | operand =>
      if spec.mixes then
        let others ← spec.readArguments fuel rest
        return { others with operands := operand :: others.operands }
      else return { options := [], operands := operand :: rest }

def read (spec : UtilityOptions) (arguments : List ByteText) : Work Arguments :=
  spec.readArguments (arguments.length + 1) arguments

end UtilityOptions

end Stencil
