import Stencil.Command.Run
import Stencil.Files.Tree

/-! # Machines

A machine is a host that is a value: its files are a tree, and all else that commands need
from the outside is given. A run on it takes a tree to the tree it leaves behind.
-/

namespace Stencil

/-- What a host has beside its files. -/
structure Machine where
  environment : Environment
  input : ByteArray
  /-- The name of a report whose path is not told. -/
  freshName : String
  fetcher : FetchSettings → Fetcher
  /-- The converter, which works with files, too. -/
  convert : ConvertSettings → (document : ByteArray) → OutputFormat →
    StateM FileTree (Except ConversionError ByteArray)
  isAvailable : ConvertSettings → FileTree → Bool

namespace Machine

def change (step : FileTree → Except FileError FileTree) :
    StateM FileTree (Except String Unit) := fun tree =>
  match step tree with
  | .ok changed => (.ok (), changed)
  | .error error => (.error error.message, tree)

/-- The machine as a host. Its clock stands still. -/
def host (machine : Machine) : Host (StateM FileTree) where
  environment := machine.environment
  loadFile path := fun tree => ((tree.read path).mapError FileError.message, tree)
  readInput := pure (.ok machine.input)
  createFolders path := change fun tree => tree.createFolders path
  saveFile path bytes := change fun tree => tree.write path bytes
  freshName := pure machine.freshName
  fetcher settings := pure (machine.fetcher settings)
  convert := machine.convert
  isAvailable settings := fun tree => (machine.isAvailable settings tree, tree)
  milliseconds := pure 0

/-- Run the program on the machine: what it leaves behind, and its files. -/
def run (machine : Machine) (arguments : List String) (tree : FileTree) :
    ProgramResult × FileTree :=
  Command.runProgram machine.host arguments tree

end Machine

end Stencil
