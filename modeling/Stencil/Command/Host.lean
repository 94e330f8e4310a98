import Stencil.Asset.Failure
import Stencil.Convert.Format
import Stencil.Settings.Layers

/-! # Hosts

A host is what a command needs from the outside: files, standard input, the environment,
servers and a converter. Commands run on any host, be it a computer or a tree of files.
-/

namespace Stencil

/-- What a command needs from the outside, in a monad of the host's choice. Errors of files
    are told by their wordings. -/
structure Host (m : Type → Type) where
  environment : Environment
  loadFile : (path : String) → m (Except String ByteArray)
  readInput : m (Except String ByteArray)
  createFolders : (path : String) → m (Except String Unit)
  saveFile : (path : String) → (bytes : ByteArray) → m (Except String Unit)
  /-- A name that no other report has. -/
  freshName : m String
  /-- A source of pictures for one report. -/
  fetcher : FetchSettings → m Fetcher
  /-- Turn a filled document into another format. -/
  convert : ConvertSettings → (document : ByteArray) → OutputFormat →
    m (Except ConversionError ByteArray)
  /-- Whether the converter can be run. -/
  isAvailable : ConvertSettings → m Bool
  /-- A clock that counts milliseconds. -/
  milliseconds : m Nat

end Stencil
