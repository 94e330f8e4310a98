import Stencil.Shell.Builtin
import Stencil.Utility.Catalog

/-! # Launching programs

A program is found by its path. A file that begins with a mark is run by the program that
the first line names; a file without the mark is no program, though shells run it all the
same. Besides the utilities there are programs that run others, and the shell itself.
-/

namespace Stencil.Shell

inductive Ending where
  | exited (status : Nat)
  | killed (signal : Nat)
  deriving Repr, DecidableEq

/-- Why a program cannot be launched. -/
inductive LaunchError where
  /-- Its file cannot be reached or run. -/
  | file (error : FileError)
  /-- Its name has a character that no name has. -/
  | faultyName
  /-- Its file is no program. -/
  | noProgram
  deriving Repr, DecidableEq

namespace LaunchError

def wording : LaunchError → String
  | file error => error.wording
  | faultyName => "nul byte found in provided data"
  | noProgram => "Exec format error"

def message : LaunchError → String
  | file error => error.message
  | faultyName => "nul byte found in provided data"
  | noProgram => "Exec format error (os error 8)"

/-- The status of a command whose program cannot be launched. -/
def status : LaunchError → Nat
  | file .notFound | file .notAFolder | file .tooManyLinks | file .nameTooLong => 127
  | _ => 126

def shellWording : LaunchError → String
  | file .notFound | file .notAFolder => "not found"
  | error => error.wording

end LaunchError

/-- A program that is called by its name, with the words it is called with; the first of
    them is what it calls itself. -/
structure Call where
  program : String
  words : List ByteText

/-- What runs commands and programs inside of others. -/
structure Engine where
  run : Runner
  perform : Call → Action Ending

namespace Launch

open Shell.Action

/-- How many bytes of a first line count. -/
def longestFirstLine : Nat := 255

/-- The interpreter that a first line names, and the one argument it may give to it. -/
def interpreter? (text : ByteText) : Option (ByteText × Option ByteText) :=
  match text with
  | '#' :: '!' :: rest =>
    let line := (rest.take longestFirstLine).takeWhile (· ≠ '\n')
    let line := (line.reverse.dropWhile ByteText.isGap).reverse.dropWhile ByteText.isGap
    let name := line.takeWhile fun c => !ByteText.isGap c && c ≠ '\x00'
    let argument := (line.drop name.length).dropWhile ByteText.isGap
    if name.isEmpty then none
    else some (name, if argument.isEmpty then none else some argument)
  | _ => none

/-- How many interpreters may be interpreted in turn. -/
def mostInterpreters : Nat := 4

/-- The program behind a path, and the words it is called with. -/
def callAt (tree : FileTree) (interpreters : Nat) (path : ByteText) (words : List ByteText) :
    Except LaunchError Call :=
  match tree.lookup (ByteText.toString path) with
  | .error error => .error (.file error)
  | .ok (_, .program name) => .ok { program := name, words }
  | .ok (_, .file file) =>
    if !file.executable then .error (.file .notPermitted)
    else
      match interpreter? (ByteText.ofBytes (file.bytes.extract 0 (longestFirstLine + 2))) with
      | none => .error .noProgram
      | some (name, argument) =>
        match interpreters with
        | 0 => .error (.file .tooManyLinks)
        | interpreters + 1 => callAt tree interpreters name (name :: argument.toList ++ path :: words.drop 1)
  | .ok _ => .error (.file .notPermitted)

def programFolders (path : ByteText) : List ByteText :=
  (Text.splitAll ':' path).map fun folder => if folder.isEmpty then ['.'] else folder

/-- The folders that are looked through if none are told. -/
def usualFolders : String :=
  "/usr/local/sbin:/usr/local/bin:/usr/sbin:/usr/bin:/sbin:/bin"

/-- The program of a name in the first of some folders that has it. A program that may not
    be run is passed over, unless there is no other. -/
def callIn (tree : FileTree) (words : List ByteText) (name : ByteText)
    (found : LaunchError) : (folders : List ByteText) → Except LaunchError Call
  | [] => .error found
  | folder :: rest =>
    match callAt tree mostInterpreters (Utility.joinPath folder name) words with
    | .ok call => .ok call
    | .error (.file .notFound) | .error (.file .notAFolder) => callIn tree words name found rest
    | .error (.file .notPermitted) => callIn tree words name (.file .notPermitted) rest
    | .error error => .error error

/-- The program that the first of some words names. -/
def callOf (tree : FileTree) (path : ByteText) (words : List ByteText) : Except LaunchError Call :=
  let name := words.headD []
  if name.contains '\x00' then .error .faultyName
  else if name.isEmpty then .error (.file .notFound)
  else if name.contains '/' then callAt tree mostInterpreters name words
  else if FileTree.longestName < name.length then .error (.file .nameTooLong)
  else callIn tree words name (.file .notFound) (programFolders path)

/-- A call of the shell for a file that is no program. -/
def shellCall (path : ByteText) (words : List ByteText) : Call :=
  { program := "sh", words := "/bin/sh".toList :: path :: words.drop 1 }

/-- The folders in which the shell looks for programs. -/
def shellPath : Action ByteText := do
  return (← valueOf? "PATH".toList).getD usualFolders.toList

/-! ## Utilities -/

/-- Names of variables that a process may have got from outside. -/
def usualVariables : List String :=
  ["PATH", "HOME", "PWD", "LANG", "LC_ALL", "USER", "TMPDIR"]

def exportedVariables (own : Setting) : List (ByteText × ByteText) :=
  let changed := own.bindings.filterMap fun (name, found) =>
    if found.exported then found.value.map fun value => (name, value) else none
  let kept := usualVariables.filterMap fun name =>
    if (own.bindings.lookup name.toList).isSome then none
    else (own.inherited name.toList).map fun value => (name.toList, value)
  kept ++ changed.reverse

/-- Let a utility work at the streams of the shell; the first one is left alone unless the
    utility `reads`. The result is the status, and whether all was printed. -/
def atDesk (title : ByteText) (isLate reads : Bool) (work : Work Nat) : Action (Nat × Bool) := do
  let nothing : Source := { rest := [], isFile := false }
  let source ← if reads then do pure ((← sourceOf 0).getD nothing) else pure nothing
  let own ← own
  let output := own.streams.lookup 1
  let joined := !isLate && output.isSome && output = own.streams.lookup 2
  let desk : Desk :=
    { title, input := source.rest, readsFile := source.isFile, joined, tree := (← tree)
      environment := exportedVariables own }
  spend (4 + source.rest.length / 256)
  let (status, desk) := match work desk with
    | .ok status desk => (status, desk)
    | .error status desk => (status, desk)
  setTree desk.tree
  if reads then setRest 0 desk.input
  wait desk.elapsed
  let _ ← writeTo (own.streams.lookup 2) desk.error
  let wrong? ← writeTo output desk.output
  if status = Work.endless then throw .endless
  match wrong? with
  | none => return (status, true)
  | some _ => return (status, false)

def utility (name : String) (title : ByteText) (arguments : List ByteText) : Action Ending := do
  match Utility.find? name arguments with
  | none => return .exited 0
  | some work =>
    let (status, isWritten) ← atDesk (title ++ ": ".toList) (Utility.isLate name) true
      (work arguments)
    if isWritten then return .exited status
    let wording := if (← channel? 1).isSome then "write error: No space left on device"
      else if name = "cat" then "standard output: Bad file descriptor"
      else "write error: Bad file descriptor"
    let _ ← printTo 2 (title ++ ": ".toList ++ wording.toList ++ ['\n'])
    return .exited 1

/-! ## Programs that run others -/

def complain (words : List ByteText) (texts : List ByteText) : Action Unit := do
  let _ ← printTo 2 (words.headD [] ++ ": ".toList ++ texts.flatten ++ ['\n'])

def refuse (name : String) (words : List ByteText) (status : Nat) (texts : List ByteText) :
    Action Ending := do
  if !texts.isEmpty then complain words texts
  let _ ← printTo 2 ("Try '" ++ name ++ " --help' for more information.\n").toList
  return .exited status

/-- Run what the words name. If that cannot be run, the error is told to the caller. -/
def runWords (engine : Engine) (words : List ByteText) : Action (Except LaunchError Ending) := do
  spend 8
  match callOf (← tree) (← shellPath) words with
  | .ok call => return .ok (← engine.perform call)
  | .error .noProgram => return .ok (← engine.perform (shellCall (words.headD []) words))
  | .error error => return .error error

/-- Run what the words name, or complain with its name in the middle. -/
def runOther (engine : Engine) (caller : List ByteText) (before : String) (words : List ByteText) :
    Action Ending := do
  match ← runWords engine words with
  | .ok ending => return ending
  | .error error =>
    complain caller [before.toList, quotedName (words.headD []), ": ".toList, error.wording.toList]
    return .exited error.status

/-- Words behind options, some of which have values. -/
def dropOptions (valued : String) : (words : List ByteText) → List ByteText
  | ['-', '-'] :: rest => rest
  | ('-' :: letter :: letters) :: rest =>
    if valued.toList.contains letter && letters.isEmpty then
      match rest with
      | _ :: rest => dropOptions valued rest
      | [] => []
    else dropOptions valued rest
  | words => words

/-- What `env` is told: variables to set or to take away, and what to run. -/
structure Surroundings where
  clear : Bool := false
  bindings : List (ByteText × Option ByteText) := []
  words : List ByteText := []

def readSurroundings (fuel : Nat) (given : Surroundings) (arguments : List ByteText) :
    Except ByteText Surroundings :=
  match fuel, arguments with
  | 0, _ | _, [] => .ok given
  | fuel + 1, argument :: rest =>
    let drop (name : ByteText) (rest : List ByteText) :=
      readSurroundings fuel { given with bindings := given.bindings ++ [(name, none)] } rest
    match argument with
    | ['-'] | ['-', 'i'] => readSurroundings fuel { given with clear := true } rest
    | ['-', 'u'] => drop (rest.headD []) (rest.drop 1)
    | '-' :: 'u' :: name => drop name rest
    | ['-', 'S'] => readSurroundings fuel given (ByteText.words (rest.headD []) ++ rest.drop 1)
    | '-' :: 'S' :: text => readSurroundings fuel given (ByteText.words text ++ rest)
    | ['-', '-'] => behind given rest
    | '-' :: letter :: _ =>
      if "0v".toList.contains letter then readSurroundings fuel given rest
      else .error (if letter = '-' then "unrecognized option ".toList ++ quotedName argument
        else "invalid option -- ".toList ++ quotedName [letter])
    | _ => behind given arguments
where
  /-- Take assignments up to the first other word. -/
  behind (given : Surroundings) : List ByteText → Except ByteText Surroundings
    | [] => .ok given
    | argument :: rest =>
      match Text.splitFirst? '=' argument with
      | some (name, value) =>
        behind { given with bindings := given.bindings ++ [(name, some value)] } rest
      | none => .ok { given with words := argument :: rest }

/-- Run something with other variables, or print the variables. -/
def runEnv (engine : Engine) (words : List ByteText) : Action Ending := do
  let bound := (words.map fun word => word.length + 2).foldl (· + ·) 2
  match readSurroundings bound {} (words.drop 1) with
  | .error wording => refuse "env" words 125 [wording]
  | .ok given =>
    let before ← own
    let cleared := if given.clear then { before with inherited := fun _ => none, bindings := [] }
      else before
    let setting := given.bindings.foldl (fun own (name, value) =>
      { own with bindings :=
          (name, { value, exported := value.isSome }) ::
            own.bindings.filter fun entry => entry.1 ≠ name }) cleared
    let print : Action Ending := do
      for (name, value) in exportedVariables setting do
        let _ ← printTo 1 (name ++ '=' :: value ++ ['\n'])
      return .exited 0
    if given.words.isEmpty then print
    else
      changeOwn fun _ => setting
      let ending ← runOther engine words "" given.words
      if (given.words.headD []).any ByteText.isGap && ending = .exited 127 then
        complain words ["use -[v]S to pass options in shebang lines".toList]
      return ending

/-- What `xargs` is told. -/
structure Gathering where
  /-- How many arguments one command gets. -/
  most : Option Nat := none
  /-- The text that each line stands in the place of. -/
  mark : Option ByteText := none
  separator : Option Char := none
  /-- Whether nothing is run for no arguments. -/
  skipsNone : Bool := false
  words : List ByteText := []

def readGathering (fuel : Nat) (given : Gathering) (arguments : List ByteText) : Gathering :=
  match fuel, arguments with
  | 0, _ | _, [] => given
  | fuel + 1, argument :: rest =>
    match argument with
    | ['-', '0'] | ['-', '-', 'n', 'u', 'l', 'l'] =>
      readGathering fuel { given with separator := some '\x00' } rest
    | ['-', 'r'] => readGathering fuel { given with skipsNone := true } rest
    | ['-', 't'] => readGathering fuel given rest
    | ['-', '-'] => { given with words := rest }
    | '-' :: letter :: value =>
      let (value, rest) := if value.isEmpty then (rest.headD [], rest.drop 1) else (value, rest)
      let given := match letter with
        | 'n' | 'L' => { given with most := Text.decimal? value }
        | 'I' => { given with mark := some value, separator := some '\n' }
        | 'd' => { given with separator := ((Utility.unescape (value.length + 1) value).1).head? }
        | _ => given
      readGathering fuel given rest
    | _ => { given with words := arguments }

/-- Split a text into arguments at white space, with quotes and reverse solidi. -/
def splitArguments (fuel : Nat) (present : Option ByteText) (text : ByteText) : List ByteText :=
  match fuel with
  | 0 => []
  | fuel + 1 =>
    let more (piece : ByteText) := some (present.getD [] ++ piece)
    match text with
    | [] => present.toList
    | '\\' :: c :: rest => splitArguments fuel (more [c]) rest
    | c :: rest =>
      if c = '\x27' || c = '\x22' then
        let inner := rest.takeWhile (· ≠ c)
        splitArguments fuel (more inner) (rest.drop (inner.length + 1))
      else if ByteText.isSpace c then present.toList ++ splitArguments fuel none rest
      else splitArguments fuel (more [c]) rest

/-- A text with another one in the place of each occurrence of a third. -/
def replaceAll (fuel : Nat) (needle value text : ByteText) : ByteText :=
  match fuel with
  | 0 => text
  | fuel + 1 =>
    match if needle.isEmpty then none else Text.cutFirst? needle text with
    | some (before, after) => before ++ value ++ replaceAll fuel needle value after
    | none => text

/-- Lists of at most so many members. -/
def portions {α : Type} (size : Nat) (fuel : Nat) (items : List α) : List (List α) :=
  match fuel, items with
  | 0, _ | _, [] => []
  | fuel + 1, items => items.take size :: portions size fuel (items.drop size)

def runGathered (engine : Engine) (words : List ByteText) : Action Ending := do
  let given := readGathering (words.length + 1) {} (words.drop 1)
  let text := ((← sourceOf 0).map Source.rest).getD []
  setRest 0 []
  setChannel 0 (some (.device .null))
  let arguments := match given.separator with
    | some c =>
      let pieces := Text.splitAll c text
      let pieces := if pieces.getLast? = some [] then pieces.dropLast else pieces
      if given.mark.isSome then
        (pieces.map fun (piece : ByteText) => piece.dropWhile ByteText.isGap).filter
          fun (piece : ByteText) => !piece.isEmpty
      else pieces
    | none => splitArguments (text.length + 1) none text
  let command := if given.words.isEmpty then ["echo".toList] else given.words
  let commands := match given.mark with
    | some mark => arguments.map fun argument =>
        command.map fun (word : ByteText) => replaceAll (word.length + 1) mark argument word
    | none =>
      if arguments.isEmpty then if given.skipsNone then [] else [command]
      else
        let size := max 1 (given.most.getD 5000)
        (portions size (arguments.length + 1) arguments).map (command ++ ·)
  let mut status := 0
  for command in commands do
    match ← runWords engine command with
    | .error error =>
      complain words [command.headD [], ": ".toList, error.wording.toList]
      return .exited error.status
    | .ok (.exited 255) =>
      complain words [command.headD [], ": exited with status 255; aborting".toList]
      return .exited 124
    | .ok (.exited code) => if code ≠ 0 then status := 123
    | .ok (.killed signal) =>
      complain words [command.headD [], ": terminated by signal ".toList, ByteText.ofNat signal]
      return .exited 125
  return .exited status

/-- What `timeout` is told. -/
structure Limit where
  signal : Nat := 15
  keepsStatus : Bool := false
  words : List ByteText := []

def readLimit (fuel : Nat) (given : Limit) (arguments : List ByteText) : Limit :=
  match fuel, arguments with
  | 0, _ | _, [] => given
  | fuel + 1, argument :: rest =>
    match argument with
    | ['-', '-'] => { given with words := rest }
    | ['-', 's'] =>
      readLimit fuel { given with signal := (signalNumber? (rest.headD [])).getD 15 } (rest.drop 1)
    | ['-', 'k'] => readLimit fuel given (rest.drop 1)
    | '-' :: 's' :: name =>
      readLimit fuel { given with signal := (signalNumber? name).getD 15 } rest
    | '-' :: _ =>
      let keeps := argument = "--preserve-status".toList
      readLimit fuel { given with keepsStatus := given.keepsStatus || keeps } rest
    | _ => { given with words := arguments }

/-- Run something that is ended if it takes too long. -/
def runLimited (engine : Engine) (words : List ByteText) : Action Ending := do
  let given := readLimit (words.length + 1) {} (words.drop 1)
  match given.words with
  | [] | [_] => refuse "timeout" words 125 []
  | duration :: command =>
    match Utility.duration? duration with
    | none => refuse "timeout" words 125 ["invalid time interval ".toList, quotedName duration]
    | some limit =>
      let start := (← world).elapsed
      let budget := (← world).budget
      let own ← own
      let sender ← newProcess
      let alarm : Alarm :=
        { time := start + limit, process := own.process, signal := given.signal, sender
          reachesAll := true }
      if limit ≠ 0 then
        changeWorld fun world => { world with alarms := alarm :: world.alarms, budget := budget / 2 }
      let stopped : Action Ending := do
        if given.signal = 9 then return .killed 9
        return .exited (if given.keepsStatus then signalStatus given.signal else 124)
      let ending ← try
          runOther engine words "failed to run command " command
        catch interruption =>
          match interruption with
          | .killed process signal =>
            if process = own.process && (← world).elapsed = start + limit then stopped
            else throw (.killed process signal)
          | .endless =>
            if limit = 0 then throw .endless
            changeWorld fun world => { world with elapsed := max world.elapsed (start + limit) }
            stopped
          | other => throw other
      changeWorld fun world =>
        { world with
          alarms := world.alarms.filter fun other => other.sender ≠ sender
          budget := world.budget + (budget - budget / 2) }
      let late := limit ≠ 0 && start + limit ≤ (← world).elapsed
      return match ending with
        | .killed signal => if late && signal = given.signal && signal ≠ 9 then .exited 124 else ending
        | .exited _ => if late && !given.keepsStatus then .exited 124 else ending

def runFind (engine : Engine) (words : List ByteText) : Action Ending := do
  let arguments := words.drop 1
  let source := (← sourceOf 0).getD { rest := [], isFile := false }
  let desk : Desk :=
    { title := words.headD [] ++ ": ".toList, input := source.rest, readsFile := false
      tree := (← tree) }
  let ((status, commands), desk) := match Utility.findFiles arguments desk with
    | .ok found desk => (found, desk)
    | .error status desk => ((status, []), desk)
  setTree desk.tree
  let _ ← writeTo (← channel? 2) desk.error
  let _ ← writeTo (← channel? 1) desk.output
  let mut status := status
  for command in commands do
    let _ ← runOther engine words "" command
  return .exited status

def pathOf? (name : ByteText) : Action (Option ByteText) := do
  let tree ← tree
  let isProgram (path : ByteText) : Bool :=
    match tree.lookup (ByteText.toString path) with
    | .ok (_, .program _) => true
    | .ok (_, .file file) => file.executable
    | _ => false
  if name.contains '/' then return if isProgram name then some name else none
  let paths := (programFolders (← shellPath)).map fun folder => Utility.joinPath folder name
  return paths.find? isProgram

/-- Look for programs, and complain of those that are not found. -/
def hash : Builtin := fun arguments => do
  let mut status := 0
  for name in arguments do
    if name.head? ≠ some '-' && (← pathOf? name).isNone then
      warn [name, ": not found".toList]
      status := 1
  return status

def runWhich (words : List ByteText) : Action Ending := do
  let names := words.drop 1
  let mut status := if names.isEmpty then 1 else 0
  for name in names do
    match ← pathOf? name with
    | some path =>
      let _ ← printTo 1 (path ++ ['\n'])
    | none => status := 1
  return .exited status

def runPrintVariables (words : List ByteText) : Action Ending := do
  let bindings := exportedVariables (← own)
  let names := words.drop 1
  if names.isEmpty then
    for (name, value) in bindings do
      let _ ← printTo 1 (name ++ '=' :: value ++ ['\n'])
    return .exited 0
  let mut status := 0
  for name in names do
    match bindings.lookup name with
    | some value =>
      let _ ← printTo 1 (value ++ ['\n'])
    | none =>
      match (← own).inherited name with
      | some value =>
        let _ ← printTo 1 (value ++ ['\n'])
      | none => status := 1
  return .exited status

/-! ## The shell as a program -/

/-- Read the options of a shell: whether a text is given, whether commands are to be read,
    and the other arguments. -/
def readShellOptions (fuel : Nat) (hasText : Bool) (arguments : List ByteText) :
    Action (Bool × List ByteText) := do
  match fuel, arguments with
  | 0, _ | _, [] => return (hasText, [])
  | fuel + 1, argument :: rest =>
    match argument with
    | ['-'] | ['-', '-'] => return (hasText, rest)
    | [sign, 'o'] =>
      if (sign = '-' || sign = '+') && !rest.isEmpty then
        Builtin.setNamedOption (rest.headD []) (sign = '-')
        readShellOptions fuel hasText (rest.drop 1)
      else return (hasText, arguments)
    | sign :: letter :: letters =>
      if sign = '-' || sign = '+' then
        let next := if letters.isEmpty then rest else (sign :: letters) :: rest
        if letter = 'c' then readShellOptions fuel true next
        else if letter = 'o' then readShellOptions fuel hasText ([sign, 'o'] :: next)
        else
          if (Builtin.optionNames.lookup letter).isNone then
            fail ["Illegal option ".toList, [sign], [letter]]
          Builtin.setOption letter (sign = '-')
          readShellOptions fuel hasText next
      else return (hasText, arguments)
    | _ => return (hasText, arguments)

/-- What a shell does as a program. -/
def shellBody (engine : Engine) (arguments : List ByteText) : Action Unit := do
  let bound := (arguments.map fun argument => 2 * argument.length + 2).foldl (· + ·) 2
  let (hasText, rest) ← readShellOptions bound false arguments
  let text ← if hasText then
      match rest with
      | [] => fail ["-c requires an argument".toList]
      | text :: rest =>
        match rest with
        | [] => pure ()
        | name :: rest => changeOwn fun own => { own with name, arguments := rest }
        pure text
    else if rest.isEmpty || (← hasOption 's') then do
      changeOwn fun own => { own with arguments := rest }
      let text := ((← sourceOf 0).map Source.rest).getD []
      setRest 0 []
      pure text
    else do
      let path := rest.headD []
      match (← tree).lookup (ByteText.toString path) with
      | .ok (_, .file file) =>
        changeOwn fun own => { own with name := path, arguments := rest.drop 1 }
        pure (ByteText.ofBytes file.bytes)
      | .ok _ => pure []
      | .error error =>
        fail ["cannot open ".toList, path, ": ".toList, (Redirect.openWording error).toList]
  runText engine.run text

/-- The setting of a program that a shell runs. -/
def programSetting (own : Setting) (process : Nat) (name : ByteText) : Setting :=
  { process, ancestors := own.ancestors, name, arguments := [], streams := own.streams
    inherited := own.inherited
    bindings := (own.bindings.filter fun entry => entry.2.exported || entry.2.value.isNone).map
      fun entry => (entry.1, { entry.2 with readonly := false })
    traps := own.traps.filter fun entry => entry.2.isEmpty && entry.1 ≠ 0
    launches := own.launches + 1, folder := own.folder }

def runShell (engine : Engine) (words : List ByteText) : Action Ending := do
  let name := words.headD []
  let process := (← own).process
  changeOwn fun own => programSetting own process name
  let path ← Builtin.folderPath
  putVariable "PWD".toList { value := some path, exported := ((← valueOf? "PWD".toList)).isSome }
  putVariable "OPTIND".toList { value := some ['1'] }
  putVariable "PPID".toList { value := some ['1'] }
  putVariable "IFS".toList { value := some " \t\n".toList }
  putVariable "PS1".toList { value := some "# ".toList }
  putVariable "PS2".toList { value := some "> ".toList }
  putVariable "PS4".toList { value := some "+ ".toList }
  untilEnd engine.run (shellBody engine (words.drop 1))
  return .exited ((← own).status % 256)

/-- The programs that run others. -/
def carriers : List (String × (Engine → List ByteText → Action Ending)) :=
  let passing (valued before : String) (engine : Engine) (words : List ByteText) : Action Ending :=
    runOther engine words before (dropOptions valued (words.drop 1))
  [("bash", runShell), ("chrt", passing "p" ""), ("dash", runShell), ("env", runEnv),
   ("find", runFind), ("ionice", passing "cnp" ""), ("nice", passing "n" ""),
   ("nohup", passing "" "failed to run command "),
   ("printenv", fun _ words => runPrintVariables words), ("setsid", passing "" ""),
   ("sh", runShell), ("stdbuf", passing "ioe" ""), ("timeout", runLimited),
   ("which", fun _ words => runWhich words), ("xargs", runGathered)]

/-- Run a program in the present process, which ends with it. -/
def perform (engine : Engine) (call : Call) : Action Ending := do
  spend 8
  match carriers.lookup call.program with
  | some carrier => carrier engine call.words
  | none => utility call.program (call.words.headD []) (call.words.drop 1)

/-- Run a program in a process of its own. -/
def inProcess (process : Nat) (body : Action Ending) : Action Ending := do
  let before ← own
  let { current, mask, .. } ← tree
  changeOwn fun own =>
    { own with
      process, ancestors := own.process :: own.ancestors, isCopy := false
      traps := own.traps.filter fun entry => entry.2.isEmpty }
  let restore : Action Unit := do
    changeOwn fun _ => before
    changeWorld fun world => { world with tree := { world.tree with current, mask } }
  let ending ← try
      body
    catch interruption =>
      restore
      match interruption with
      | .killed target signal =>
        if target = process then pure (.killed signal) else throw interruption
      | .endless => throw interruption
      | _ => pure (.exited 2)
  restore
  return ending

end Launch

end Stencil.Shell
