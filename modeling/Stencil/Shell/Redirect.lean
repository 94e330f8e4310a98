import Stencil.Shell.Expansion

/-! # Redirections

A redirection lets a stream lead to a file, to a text, or where another stream leads. The
words of all redirections of a command are expanded before the first of them is made.
-/

namespace Stencil.Shell

/-- A redirection with its word expanded. -/
structure Redirecting where
  stream : Nat
  mode : RedirectionMode
  target : ByteText

namespace Redirect

/-- Why a file cannot be opened, in the words of the shell. -/
def openWording : FileError → String
  | .notFound | .notAFolder => "No such file"
  | error => error.wording

/-- Why a file cannot be made, in the words of the shell. -/
def createWording : FileError → String
  | .notFound | .notAFolder => "Directory nonexistent"
  | error => error.wording

def openDevice (device : Device) : Action (Except FileError Channel) := do
  match device with
  | .terminal => return .error .noDevice
  | .stream number =>
    match ← Action.channel? number with
    | some channel => return .ok channel
    | none => return .error .notFound
  | device => return .ok (.device device)

def openToRead (path : ByteText) : Action (Except FileError Channel) := do
  match (← Action.tree).lookup (ByteText.toString path) with
  | .error error => return .error error
  | .ok (_, .device device) => openDevice device
  | .ok (_, .file file) =>
    return .ok (.source (← Action.openSource (ByteText.ofBytes file.bytes) true))
  | .ok _ => return .ok (.source (← Action.openSource [] true))

/-- Open a file for writing, which is made if it is not there. What was in it is kept if
    `keeps`. -/
def openToWrite (path : ByteText) (appends keeps : Bool) : Action (Except FileError Channel) := do
  let tree ← Action.tree
  match tree.placeToWrite (ByteText.toString path) with
  | .error error => return .error error
  | .ok place =>
    match tree.node? place with
    | some (.device (.stream number)) =>
      match ← Action.channel? number with
      | some (.store index) =>
        match (← Action.world).stores[index]? with
        | some store =>
          if !keeps then Action.setTree (tree.writeAt store.place ByteArray.empty)
          return .ok (.store (← Action.openStore { place := store.place, offset := 0, appends }))
        | none => return .error .notFound
      | some channel => return .ok channel
      | none => return .error .notFound
    | some (.device device) => openDevice device
    | node =>
      let isThere := node.isSome
      if !(keeps && isThere) then Action.setTree (tree.writeAt place ByteArray.empty)
      return .ok (.store (← Action.openStore { place, offset := 0, appends }))

/-- Make a redirection. Whether that went well. -/
def apply (redirecting : Redirecting) : Action Bool := do
  let { stream, mode, target } := redirecting
  let refuse (verb : String) (wording : String) : Action Bool := do
    Action.warn ["cannot ".toList, verb.toList, [' '], target, ": ".toList, wording.toList]
    return false
  match mode with
  | .input =>
    match ← openToRead target with
    | .ok channel =>
      Action.setChannel stream (some channel)
      return true
    | .error error => refuse "open" (openWording error)
  | .output | .append =>
    match ← openToWrite target (mode = .append) (mode = .append) with
    | .ok channel =>
      Action.setChannel stream (some channel)
      return true
    | .error error => refuse "create" (createWording error)
  | .both =>
    match ← openToWrite target false true with
    | .ok (.store store) =>
      match ← openToRead target with
      | .ok (.source source) => Action.setChannel stream (some (.both source store))
      | _ => Action.setChannel stream (some (.store store))
      return true
    | .ok channel =>
      Action.setChannel stream (some channel)
      return true
    | .error error => refuse "create" (createWording error)
  | .duplicate =>
    if target = ['-'] then
      Action.setChannel stream none
      return true
    let number := (Text.decimal? target).getD 0
    match ← Action.channel? number with
    | some channel =>
      Action.setChannel stream (some channel)
      return true
    | none =>
      Action.warn [target, ": Bad file descriptor".toList]
      return false
  | .here =>
    Action.setChannel stream (some (.source (← Action.openSource target false)))
    return true

def expand (run : Runner) : (redirections : List Redirection) → Action (List Redirecting)
  | [] => return []
  | .to stream mode word :: rest => do
    let target ← Expansion.text run word
    if mode = .duplicate && target ≠ ['-'] && !(target.length = 1 && target.all Char.isDigit) then
      -- By now the shell has read on to the next line.
      Action.changeOwn fun own => { own with line := own.line + 1 }
      Action.fail ["Syntax error: Bad fd number".toList]
    return { stream, mode, target } :: (← expand run rest)

/-- Make redirections one by one, up to the first one that fails. Whether all went well. -/
def applyAll : (redirectings : List Redirecting) → Action Bool
  | [] => return true
  | first :: rest => do
    if ← apply first then applyAll rest else return false

/-- Do something, and let the streams lead where they led before. -/
def keepingStreams {α : Type} (body : Action α) : Action α := do
  let streams := (← Action.own).streams
  let restore : Action Unit := Action.changeOwn fun own => { own with streams }
  let result ← try
      body
    catch interruption =>
      restore
      throw interruption
  restore
  return result

end Redirect

end Stencil.Shell
