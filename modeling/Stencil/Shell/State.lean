import Stencil.Files.Tree
import Stencil.Shell.Script

/-! # The state of a shell

A shell works in a world of files, streams and a clock, which all processes share, and it
has a setting of its own: variables, functions, options, and where its streams lead. What it
does is an action, which may be interrupted.
-/

namespace Stencil.Shell

/-- Where the bytes of a stream come from or go to. -/
inductive Channel where
  /-- A text that is read up to its end. -/
  | source (index : Nat)
  /-- What is printed and collected. -/
  | sink (index : Nat)
  /-- A file that is written. -/
  | store (index : Nat)
  /-- A file that is read and written. -/
  | both (source store : Nat)
  | device (device : Device)
  deriving DecidableEq

/-- What is left of a text to be read. -/
structure Source where
  rest : ByteText
  /-- Whether it is the text of a file, whose size is known. -/
  isFile : Bool

structure Store where
  place : Place
  /-- How many bytes are in front of what is written next. -/
  offset : Nat
  /-- Whether all that is written goes to the end of the file. -/
  appends : Bool

/-- A process that is not waited for. -/
structure Job where
  process : Nat
  status : Nat
  time : Nat
  /-- The sinks that it holds until it ends. -/
  holds : List Nat
  /-- Whether a signal ended it, and nobody has been told. -/
  wasKilled : Bool := false
  /-- The files before it and behind it, until what it changes is seen by others. -/
  change : Option (FileTree × FileTree) := none

/-- What a job prints at some time. -/
structure Print where
  time : Nat
  process : Nat
  sink : Nat
  bytes : ByteArray

/-- A signal that a process gets at some time. -/
structure Alarm where
  time : Nat
  process : Nat
  signal : Nat
  /-- The job that sends it. -/
  sender : Nat
  /-- Whether all processes get it that the process waits for. -/
  reachesAll : Bool := false

/-- What all processes share. -/
structure World where
  tree : FileTree
  sinks : Array ByteArray := #[]
  sources : Array Source := #[]
  stores : Array Store := #[]
  /-- The milliseconds since the start. -/
  elapsed : Nat := 0
  jobs : List Job := []
  alarms : List Alarm := []
  /-- What jobs print later, in the order in which it was found out. -/
  prints : List Print := []
  budget : Nat
  /-- The number of the newest process. -/
  processes : Nat := 1

structure Variable where
  value : Option ByteText
  exported : Bool := false
  readonly : Bool := false

/-- What a shell has of its own. -/
structure Setting where
  /-- The number of the process, which its copies share. -/
  process : Nat
  /-- The processes that wait for this one. -/
  ancestors : List Nat := []
  name : ByteText
  arguments : List ByteText
  status : Nat := 0
  /-- The status of the last command in a word. -/
  substituted : Nat := 0
  streams : List (Nat × Channel)
  /-- The variables that came with the process and were not changed. -/
  inherited : ByteText → Option ByteText
  bindings : List (ByteText × Variable) := []
  functions : List (ByteText × Command) := []
  /-- The letters of the options that are on. -/
  options : List Char := []
  /-- What is done at the end, which has the number zero, and for signals. -/
  traps : List (Nat × ByteText) := []
  line : Nat := 0
  /-- The name of the builtin command at work. -/
  title : Option ByteText := none
  /-- Whether the failure of a command is looked at, and no reason to end. -/
  tested : Bool := false
  loops : Nat := 0
  calls : Nat := 0
  /-- What local variables were before, for each function at work. -/
  frames : List (List (ByteText × Option Variable)) := []
  /-- The jobs that may be waited for, the newest first. -/
  children : List Nat := []
  newest : Option Nat := none
  /-- How many programs were launched by each other up to this one. -/
  launches : Nat := 0
  isCopy : Bool := false
  /-- The job that the shell is, if it is one. -/
  job : Nat := 0
  /-- How many sinks are shared with those that do not wait for the job. -/
  shared : Nat := 0
  /-- The status from before the trap at work. -/
  kept : Option Nat := none
  /-- How many letters of the present argument were read as options. -/
  letters : Nat := 0
  /-- The path of the present folder, the way it was reached. -/
  folder : Option ByteText := none
  /-- Other names of commands, which are shown but not used. -/
  aliases : List (ByteText × ByteText) := []

/-- A shell in its world. -/
structure Session where
  world : World
  own : Setting

/-- Why an action does not come to its end. -/
inductive Interruption where
  /-- A number of loops end. -/
  | breaking (levels : Nat)
  /-- All but one of a number of loops end, and that one goes on. -/
  | continuing (levels : Nat)
  /-- A function or a file of commands ends. -/
  | returning
  | exiting
  /-- The shell ends because of a fault that it has complained of. -/
  | faulty
  /-- A process is ended by a signal. -/
  | killed (process signal : Nat)
  | endless
  deriving Repr, DecidableEq

abbrev Action := EStateM Interruption Session

namespace Action

def own : Action Setting := do
  return (← get).own

/-- What all processes share. -/
def world : Action World := do
  return (← get).world

def changeOwn (change : Setting → Setting) : Action Unit :=
  modify fun shell =>
    match shell with
    | { world, own } => { world, own := change own }

def changeWorld (change : World → World) : Action Unit :=
  modify fun shell =>
    match shell with
    | { world, own } => { world := change world, own }

def tree : Action FileTree := do
  return (← world).tree

def setTree (tree : FileTree) : Action Unit :=
  changeWorld fun world => { world with tree }

def spend (steps : Nat) : Action Unit := do
  if (← get).world.budget < steps then throw .endless
  changeWorld fun world => { world with budget := world.budget - steps }

def setStatus (status : Nat) : Action Unit :=
  changeOwn fun own => { own with status }

def hasOption (letter : Char) : Action Bool := do
  return (← own).options.contains letter

/-! ## Streams -/

/-- Where a stream leads. -/
def channel? (stream : Nat) : Action (Option Channel) := do
  return (← own).streams.lookup stream

/-- Let a stream lead somewhere, or nowhere. -/
def setChannel (stream : Nat) (channel : Option Channel) : Action Unit :=
  changeOwn fun own =>
    let others := own.streams.filter fun entry => entry.1 ≠ stream
    { own with streams := match channel with
        | some channel => (stream, channel) :: others
        | none => others }

def openSource (text : ByteText) (isFile : Bool) : Action Nat := do
  let index := (← get).world.sources.size
  changeWorld fun world => { world with sources := world.sources.push { rest := text, isFile } }
  return index

def openSink : Action Nat := do
  let index := (← get).world.sinks.size
  changeWorld fun world => { world with sinks := world.sinks.push ByteArray.empty }
  return index

/-- What came into a sink, which is closed like all newer ones. -/
def closeSink (index : Nat) : Action ByteText := do
  let bytes := (← get).world.sinks[index]?.getD ByteArray.empty
  changeWorld fun world => { world with sinks := world.sinks.take index }
  return ByteText.ofBytes bytes

def openStore (store : Store) : Action Nat := do
  let index := (← get).world.stores.size
  changeWorld fun world => { world with stores := world.stores.push store }
  return index

/-- The bytes of a file with other bytes written over it from an offset on. -/
def overwrite (before : ByteArray) (offset : Nat) (bytes : ByteArray) : ByteArray :=
  if offset = before.size then before ++ bytes
  else
    let start := before.extract 0 offset
    let gap := ByteArray.mk (Array.replicate (offset - start.size) 0)
    start ++ gap ++ bytes ++ before.extract (offset + bytes.size) before.size

/-- Write to a store. What is written to a file that was removed is lost. -/
def writeStore (index : Nat) (bytes : ByteArray) : Action Unit := do
  let world ← world
  match world.stores[index]? with
  | none => return
  | some store =>
    match world.tree.file? store.place with
    | none => return
    | some file =>
      let offset := if store.appends then file.bytes.size else store.offset
      setTree (world.tree.writeAt store.place (overwrite file.bytes offset bytes))
      changeWorld fun world =>
        { world with stores := world.stores.set! index { store with offset := offset + bytes.size } }

/-- Write bytes where a channel leads; what goes wrong is told. -/
def writeTo (channel : Option Channel) (bytes : ByteArray) : Action (Option String) := do
  spend (bytes.size / 64)
  match channel with
  | some (.sink index) =>
    let own ← own
    if index < own.shared then
      changeWorld fun world =>
        let print : Print := { time := world.elapsed, process := own.job, sink := index, bytes }
        { world with prints := world.prints ++ [print] }
      return none
    changeWorld fun world =>
      match world with
      | { tree, sinks, sources, stores, elapsed, jobs, alarms, prints, budget, processes } =>
        { tree, sinks := sinks.modify index (· ++ bytes), sources, stores, elapsed, jobs, alarms
          prints, budget, processes }
    return none
  | some (.store index) | some (.both _ index) =>
    writeStore index bytes
    return none
  | some (.device .full) =>
    return if bytes.isEmpty then none else some "No space left on device"
  | some (.device _) => return none
  | some (.source _) | none => return if bytes.isEmpty then none else some "Bad file descriptor"

/-- Write a text to a stream; whether that went well. -/
def printTo (stream : Nat) (text : ByteText) : Action Bool := do
  return (← writeTo (← channel? stream) (ByteText.toBytes text)).isNone

/-- What is left to be read from a stream. -/
def sourceOf (stream : Nat) : Action (Option Source) := do
  match ← channel? stream with
  | some (.source index) | some (.both index _) => return (← world).sources[index]?
  | some (.device .null) | some (.device .terminal) => return some { rest := [], isFile := false }
  | some (.device (.stream _)) => return some { rest := [], isFile := false }
  | some (.device .zero) | some (.device .full) =>
    return some { rest := List.replicate 1048576 '\x00', isFile := false }
  | some (.sink _) | some (.store _) | none => return none

/-- What is left in a stream after reading. -/
def setRest (stream : Nat) (rest : ByteText) : Action Unit := do
  match ← channel? stream with
  | some (.source index) | some (.both index _) =>
    changeWorld fun world =>
      { world with sources := world.sources.modify index fun source => { source with rest } }
  | _ => return

/-! ## Complaints -/

/-- Complain, in the name of the shell, of something in the line at work. -/
def warn (texts : List ByteText) : Action Unit := do
  let own ← own
  let title := own.title.elim [] fun title => title ++ ": ".toList
  let _ ← printTo 2 (own.name ++ ": ".toList ++ ByteText.ofNat own.line ++ ": ".toList ++ title ++
    texts.flatten ++ ['\n'])

/-- Complain, with a status for the shell if it ends. -/
def failWith {α : Type} (status : Nat) (texts : List ByteText) : Action α := do
  warn texts
  setStatus status
  throw .faulty

/-- Complain of a fault. -/
def fail {α : Type} (texts : List ByteText) : Action α :=
  failWith 2 texts

/-! ## Variables -/

def variableOf? (own : Setting) (name : ByteText) : Option Variable :=
  match own.bindings.lookup name with
  | some found => some found
  | none => (own.inherited name).map fun value => { value := some value, exported := true }

def valueOf? (name : ByteText) : Action (Option ByteText) := do
  return (variableOf? (← own) name).bind Variable.value

/-- The value of a variable that is known by its name, or nothing. -/
def valueOf (name : String) : Action ByteText := do
  return (← valueOf? name.toList).getD []

/-- Put a variable in the stead of what had its name. -/
def putVariable (name : ByteText) (changed : Variable) : Action Unit :=
  changeOwn fun own =>
    if (own.bindings.lookup name).isSome then
      { own with bindings := own.bindings.map fun entry =>
          if entry.1 = name then (name, changed) else entry }
    else { own with bindings := (name, changed) :: own.bindings }

def assign (name value : ByteText) : Action Unit := do
  let own ← own
  let before := (variableOf? own name).getD { value := none }
  if before.readonly then fail [name, ": is read only".toList]
  putVariable name
    { value := some value, exported := before.exported || own.options.contains 'a'
      readonly := false }
  if name = "OPTIND".toList then changeOwn fun own => { own with letters := 0 }

def unset (name : ByteText) : Action Unit := do
  match variableOf? (← own) name with
  | none => return
  | some before =>
    if before.readonly then fail [name, ": is read only".toList]
    putVariable name { value := none }

end Action

end Stencil.Shell
