import Stencil.Json.Printer
import Stencil.Settings.Basic
import Stencil.Yaml.Document
import Stencil.Yaml.Printer

/-! # Settings in files

Settings are written in YAML as one mapping for each group of them. Whatever a file leaves
out keeps its standard value; entries of other names are passed over. A node may be written as
an alias wherever it is read.
-/

namespace Stencil

namespace Settings

def greatest32 : Nat := 2 ^ 32 - 1

def greatest64 : Nat := 2 ^ 64 - 1

/-- A scalar, or the scalar that an alias stands for. -/
def scalar? (document : YamlDocument) (node : YamlNode) : Option Yaml.Scalar :=
  match document.resolve? node with
  | some (.scalar scalar) => some scalar
  | _ => none

/-- The values of the named entries of a mapping; `none` if a name occurs twice or a key is
    no scalar. -/
def entryValues? (document : YamlDocument) (names : List String)
    (entries : List (YamlNode × YamlNode)) : Option (List (Option YamlNode)) := do
  let keyed ← entries.mapM fun (key, value) =>
    (scalar? document key).map fun scalar => (String.ofList scalar.text, value)
  names.mapM fun name =>
    match keyed.filter fun entry => entry.1 == name with
    | [] => some none
    | [(_, value)] => some (some value)
    | _ => none

/-- The components of a group of settings: the named entries of a mapping, or none of them
    where nothing is written. -/
def components? (document : YamlDocument) (names : List String) (node : YamlNode) :
    Option (List (Option YamlNode)) :=
  match document.resolve? node with
  | some (.mapping _ entries) => entryValues? document names entries
  | some (.scalar { text := [], style := .plain, .. }) => some (names.map fun _ => none)
  | _ => none

/-- A component, or its standard value where it is left out. -/
def readOr {α : Type} (standard : α) (read : YamlNode → Option α) : Option YamlNode → Option α
  | none => some standard
  | some node => read node

/-- Whether the spelling of a scalar tells its value: that of a plain one does, and that of a
    literal one with the tag of the value's kind. -/
def isSpelled (kind : Yaml.Tag) (scalar : Yaml.Scalar) : Bool :=
  scalar.style == .plain || (scalar.style == .literal && scalar.tag == some kind)

/-- A whole number up to a greatest one. -/
def readNumber (document : YamlDocument) (greatest : Nat) (node : YamlNode) : Option Nat :=
  ((scalar? document node).filter (isSpelled .int)).bind fun scalar =>
    (Yaml.unsigned? scalar.text).filter (· ≤ greatest)

def readTruth (document : YamlDocument) (node : YamlNode) : Option Bool :=
  ((scalar? document node).filter (isSpelled .truth)).bind fun scalar =>
    Yaml.truth? scalar.text

def readText (document : YamlDocument) (node : YamlNode) : Option String :=
  (scalar? document node).map fun scalar => String.ofList scalar.text

/-- Whether nothing or null is written in plain; `none` if the tag of null stands before
    something else. A scalar of another tag is not null. -/
def isMissing? (scalar : Yaml.Scalar) : Option Bool :=
  if scalar.style ≠ .plain then some false
  else
    match scalar.tag with
    | none => some (scalar.text.isEmpty || Yaml.isNull scalar.text)
    | some tag =>
      if tag ≠ Yaml.Tag.null then some false
      else if Yaml.isNull scalar.text then some true
      else none

/-- A text, or nothing where nothing or null is written. -/
def readOptionalText (document : YamlDocument) (node : YamlNode) : Option (Option String) := do
  let scalar ← scalar? document node
  if ← isMissing? scalar then return none else return some (String.ofList scalar.text)

/-- A format by its exact name: the name is the text, or the tag before null or nothing. -/
def readFormat (document : YamlDocument) (node : YamlNode) : Option OutputFormat := do
  let scalar ← scalar? document node
  match scalar.tag.bind Yaml.Tag.localName? with
  | none => OutputFormat.ofName? (String.ofList scalar.text)
  | some name =>
    if scalar.style = .plain && (scalar.text.isEmpty || Yaml.isNull scalar.text) then
      OutputFormat.ofName? name
    else none

def readRender (document : YamlDocument) (node : YamlNode) : Option RenderOptions := do
  let standard : RenderOptions := {}
  match ← components? document
      ["image_width_px", "image_height_px", "fetch_concurrency", "linebreaks", "strict"] node with
  | [width, height, concurrency, linebreaks, strict] => return {
      imageWidth := ← readOr standard.imageWidth (readNumber document greatest32) width
      imageHeight := ← readOr standard.imageHeight (readNumber document greatest32) height
      concurrency := ← readOr standard.concurrency (readNumber document greatest64) concurrency
      linebreaks := ← readOr standard.linebreaks (readTruth document) linebreaks
      strict := ← readOr standard.strict (readTruth document) strict }
  | _ => none

def readFetch (document : YamlDocument) (node : YamlNode) : Option FetchSettings := do
  let standard : FetchSettings := {}
  match ← components? document ["timeout_secs", "max_bytes", "user_agent"] node with
  | [timeout, greatestSize, userAgent] => return {
      timeout := ← readOr standard.timeout (readNumber document greatest64) timeout
      greatestSize := ← readOr standard.greatestSize (readNumber document greatest64) greatestSize
      userAgent := ← readOr standard.userAgent (readText document) userAgent }
  | _ => none

def readConvert (document : YamlDocument) (node : YamlNode) : Option ConvertSettings := do
  let standard : ConvertSettings := {}
  match ← components? document ["soffice_binary", "timeout_secs"] node with
  | [program, timeout] => return {
      program := ← readOr standard.program (readText document) program
      timeout := ← readOr standard.timeout (readNumber document greatest64) timeout }
  | _ => none

def readOutput (document : YamlDocument) (node : YamlNode) : Option OutputSettings := do
  let standard : OutputSettings := {}
  match ← components? document ["output_dir", "public_base_url", "format"] node with
  | [folder, publicBase, format] => return {
      folder := ← readOr standard.folder (readText document) folder
      publicBase := ← readOr standard.publicBase (readOptionalText document) publicBase
      format := ← readOr standard.format (readFormat document) format }
  | _ => none

def readDocument (document : YamlDocument) : Option Settings := do
  match ← components? document ["render", "fetch", "convert", "output"] document.root with
  | [render, fetch, convert, output] => return {
      render := ← readOr {} (readRender document) render
      fetch := ← readOr {} (readFetch document) fetch
      convert := ← readOr {} (readConvert document) convert
      output := ← readOr {} (readOutput document) output }
  | _ => none

/-- The settings of a text; a blank text sets nothing. -/
def read? (text : List Char) : Option Settings :=
  if (Text.trim text).isEmpty then some {}
  else (YamlDocument.ofText? text).bind readDocument

def printValue : Json → List Char
  | .string text => Yaml.scalarLine 4 text.toList
  | value => value.compact ++ ['\n']

def printGroup (name : String) (fields : List (String × Json)) : List Char :=
  name.toList ++ ":\n".toList ++ fields.flatMap fun (name, value) =>
    "  ".toList ++ name.toList ++ ": ".toList ++ printValue value

def print (settings : Settings) : List Char :=
  match settings.toJson with
  | .object groups => groups.flatMap fun (name, group) =>
      match group with
      | .object fields => printGroup name fields
      | _ => []
  | _ => []

end Settings

end Stencil
