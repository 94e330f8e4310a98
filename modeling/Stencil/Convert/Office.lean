import Stencil.Convert.Format
import Stencil.Settings.Layers
import Stencil.Shell.Program

/-! # Conversion by an office program

A document is converted by a program of its own: the document is put into a new folder
under a fixed name, the program is told the format and a folder for its result, and the
result is read from there. The folder is removed in the end, so that all else the program
does with files is what it does outside of it.

A filled document that is wanted as it is needs no program.
-/

namespace Stencil

namespace Office

def workPlace : Place :=
  ["tmp", "reportgen-work"]

def pathOf (place : Place) : String :=
  "/" ++ "/".intercalate place

def resultPlace : Place :=
  workPlace ++ ["out"]

def documentPlace : Place :=
  workPlace ++ ["report.docx"]

def producedPath (format : OutputFormat) : String :=
  pathOf resultPlace ++ "/report." ++ format.extension

def arguments (format : OutputFormat) : List String :=
  ["-env:UserInstallation=file://" ++ pathOf (workPlace ++ ["profile"]), "--headless",
   "--norestore", "--convert-to", format.filter, "--outdir", pathOf resultPlace,
   pathOf documentPlace]

def prepare (tree : FileTree) (document : ByteArray) : FileTree :=
  (tree.add documentPlace { bytes := document }).addFolder resultPlace

def launchError (program : String) (error : Shell.LaunchError) : ConversionError :=
  match error with
  | .file .notFound | .file .notPermitted => .notAvailable (program ++ ": " ++ error.message)
  | error => .inputOutput error.message

/-- What a conversion gives, once its program has run to its end. A run that takes all the
    time it has counts as one that takes too long. -/
def outcome (settings : ConvertSettings) (format : OutputFormat) (run : Shell.ProgramRun) :
    Except ConversionError ByteArray :=
  if settings.timeout * 1000 ≤ run.elapsed then .error (.timeout settings.timeout)
  else
    let stderr := String.ofList (Text.trim (Text.decodeLossy run.error))
    match run.ending with
    | .killed _ => .error (.failed none stderr)
    | .exited 0 =>
      match run.tree.read (producedPath format) with
      | .ok bytes => .ok bytes
      | .error .notFound => .error (.outputMissing (producedPath format))
      | .error error => .error (.inputOutput error.message)
    | .exited code => .error (.failed (some code) stderr)

def convert (environment : Environment) (settings : ConvertSettings) (document : ByteArray)
    (format : OutputFormat) (tree : FileTree) : Except ConversionError ByteArray × FileTree :=
  if format.isDocument then (.ok document, tree)
  else
    match Shell.launch environment (prepare tree document) settings.program (arguments format) with
    | .error (.launch error) => (.error (launchError settings.program error), tree)
    | .error .endless => (.error (.timeout settings.timeout), tree)
    | .ok run =>
      (outcome settings format run, (Shell.Surroundings.without tree run.tree).remove workPlace)

def isAvailable (environment : Environment) (settings : ConvertSettings) (tree : FileTree) :
    Bool :=
  match Shell.launch environment tree settings.program ["--version"] with
  | .ok run => run.ending = .exited 0
  | .error _ => false

end Office

end Stencil
