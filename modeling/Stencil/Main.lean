import Stencil.Asset.Locator
import Stencil.Command.Run
import Stencil.Convert.Office

/-! # The program

The commands on a computer. Its files, its standard input and its environment are those of
the process. A converter is run over the files of its conversion alone, so that it cannot
change any other; pictures are not fetched from servers.
-/

namespace Stencil

namespace Computer

/-- The variables of the environment that commands look at. -/
def knownVariables : List String :=
  [Invocation.configVariable, Settings.publicBaseVariable, Settings.programVariable,
   Settings.fetchTimeoutVariable]

/-- The environment, as far as commands look at it. -/
def readEnvironment : IO Environment := do
  let values ← knownVariables.filterMapM fun name => do
    return (← IO.getEnv name).map fun value => (name, value)
  return fun name => values.lookup name

def attempt {α : Type} (action : IO α) : IO (Except String α) := do
  match ← action.toBaseIO with
  | .ok value => return .ok value
  | .error error => return .error (toString error)

def hexDigits (byte : UInt8) : List Char :=
  [Json.hexDigit (byte.toNat / 16), Json.hexDigit (byte.toNat % 16)]

/-- Sixteen bytes as an identifier that is unique because it was drawn at random: its
    digits in five groups, with the marks of its kind. -/
def identifierOf (bytes : List UInt8) : String :=
  let marked := bytes.mapIdx fun i byte =>
    if i = 6 then byte &&& 0x0f ||| 0x40 else if i = 8 then byte &&& 0x3f ||| 0x80 else byte
  let group (start count : Nat) : String :=
    String.ofList (((marked.drop start).take count).flatMap hexDigits)
  "-".intercalate [group 0 4, group 4 2, group 6 2, group 8 2, group 10 6]

/-- The place that a path leads to from an empty tree. -/
def placeOf (path : String) : Place :=
  (FileTree.components path).foldl (fun place name =>
    if name = "." then place else if name = ".." then place.dropLast else place ++ [name]) []

/-- The file of a converter as the only file of a tree; no file for one that is not named by
    a path, or whose file cannot be read. -/
def converterFiles (program : String) : IO FileTree := do
  if !program.toList.contains '/' then return FileTree.empty
  match ← attempt (IO.FS.readBinFile program) with
  | .ok bytes =>
    return FileTree.empty.add (placeOf program) { bytes, mode := 0o755 }
  | .error _ => return FileTree.empty

/-- The computer as a host of commands. -/
def host (environment : Environment) : Host IO where
  environment
  loadFile path := attempt (IO.FS.readBinFile path)
  readInput := do attempt (← IO.getStdin).readBinToEnd
  createFolders path := attempt (IO.FS.createDirAll path)
  saveFile path bytes := attempt (IO.FS.writeBinFile path bytes)
  freshName := return identifierOf (← IO.getRandomBytes 16).toList
  fetcher _ := return Locator.fetchOffline
  convert settings document format := do
    let files ← converterFiles settings.program
    return (Office.convert environment settings document format files).1
  isAvailable settings := do
    return Office.isAvailable environment settings (← converterFiles settings.program)
  milliseconds := IO.monoMsNow

end Computer

end Stencil

def main (args : List String) : IO UInt32 := do
  let environment ← Stencil.Computer.readEnvironment
  let result ← Stencil.Command.runProgram (Stencil.Computer.host environment) args
  IO.print result.stdout
  IO.eprint result.stderr
  return UInt32.ofNat result.exitCode
