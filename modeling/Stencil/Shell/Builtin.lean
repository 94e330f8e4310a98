import Stencil.Shell.Redirect

/-! # Builtin commands

The commands that a shell has itself because they look at its setting or change it. Their
result is a status; what is wrong with their arguments is a fault.
-/

namespace Stencil.Shell

/-- A builtin command: what it does with its arguments, and its status. -/
abbrev Builtin := (arguments : List ByteText) → Action Nat

namespace Builtin

open Shell.Action

/-! ## Arguments -/

def number (argument : ByteText) : Action Nat := do
  match wholeNumber? (takeDigits? 10) argument with
  | some value =>
    if 0 ≤ value && value < 2147483648 then return value.toNat
    fail ["Illegal number: ".toList, argument]
  | none => fail ["Illegal number: ".toList, argument]

/-- Read options. Letters with a value are told apart. The result is the options and the
    other arguments. -/
def options (flags valued : String) (fuel : Nat) (arguments : List ByteText) :
    Action (List (Char × ByteText) × List ByteText) := do
  match fuel, arguments with
  | 0, _ | _, [] => return ([], arguments)
  | fuel + 1, argument :: rest =>
    match argument with
    | ['-', '-'] => return ([], rest)
    | '-' :: letter :: letters =>
      if valued.toList.contains letter then
        match letters, rest with
        | [], [] => fail ["No arg for -".toList, [letter], " option".toList]
        | [], value :: rest =>
          let (others, rest) ← options flags valued fuel rest
          return ((letter, value) :: others, rest)
        | value, rest =>
          let (others, rest) ← options flags valued fuel rest
          return ((letter, value) :: others, rest)
      else if flags.toList.contains letter then
        let next := if letters.isEmpty then rest else ('-' :: letters) :: rest
        let (others, rest) ← options flags valued fuel next
        return ((letter, []) :: others, rest)
      else fail ["Illegal option -".toList, [letter]]
    | _ => return ([], arguments)

/-- Read options that all go without values. -/
def flags (known : String) (arguments : List ByteText) : Action (List Char × List ByteText) := do
  let bound := (arguments.map fun argument => argument.length + 1).foldl (· + ·) 1
  let (given, rest) ← options known "" bound arguments
  return (given.map Prod.fst, rest)

def print (text : ByteText) : Action Unit := do
  let _ ← printTo 1 text

def printLine (texts : List ByteText) : Action Unit :=
  print (texts.flatten ++ ['\n'])

/-- A text in single quotes; single quotes in it are in double quotes. -/
def quote (text : ByteText) : ByteText :=
  let rec go (fuel : Nat) (text : ByteText) : ByteText :=
    match fuel with
    | 0 => []
    | fuel + 1 =>
      let plain := text.takeWhile (· ≠ '\x27')
      let rest := text.drop plain.length
      let marks := rest.takeWhile (· = '\x27')
      let after := rest.drop marks.length
      '\x27' :: plain ++ ['\x27'] ++
        (if marks.isEmpty then [] else '\x22' :: marks ++ ['\x22']) ++
        (if after.isEmpty then [] else go fuel after)
  go (text.length + 1) text

/-! ## Loops and ends -/

/-- The number of loops that an argument asks for, of those that there are. -/
def levels (arguments : List ByteText) : Action Nat := do
  let wanted ← match arguments with
    | [] => pure 1
    | argument :: _ =>
      let wanted ← number argument
      if wanted = 0 then fail ["Illegal number: ".toList, argument]
      pure wanted
  return min wanted (← own).loops

def breakLoops : Builtin := fun arguments => do
  let levels ← levels arguments
  if levels = 0 then return 0
  setStatus 0
  throw (.breaking levels)

def continueLoop : Builtin := fun arguments => do
  let levels ← levels arguments
  if levels = 0 then return 0
  setStatus 0
  throw (.continuing levels)

def exit : Builtin := fun arguments => do
  match arguments with
  | argument :: _ => setStatus ((← number argument) % 256)
  | [] =>
    match (← own).kept with
    | some status => setStatus status
    | none => pure ()
  throw .exiting

def returnFrom : Builtin := fun arguments => do
  match arguments with
  | argument :: _ => setStatus (← number argument)
  | [] => pure ()
  throw .returning

/-! ## Variables -/

/-- The name and the value that an argument assigns, if it does. -/
def splitAssignment (argument : ByteText) : ByteText × Option ByteText :=
  match Text.splitFirst? '=' argument with
  | some (name, value) => (name, some value)
  | none => (argument, none)

def demandName (name : ByteText) : Action Unit := do
  if !isName name then fail [name, ": bad variable name".toList]

/-- The names of variables that are shown, in order. -/
def shownNames (shows : Variable → Bool) : Action (List (ByteText × Variable)) := do
  let shown := (← own).bindings.filter fun entry => shows entry.2
  return shown.mergeSort fun one other => ByteText.isAtMost one.1 other.1

/-- Print variables as commands that set them. -/
def printVariables (before : String) (shows : Variable → Bool) : Action Unit := do
  for (name, found) in ← shownNames shows do
    let value := found.value.elim [] fun value => '=' :: quote value
    printLine [before.toList, name, value]

def mark (word : String) (shows : Variable → Bool) (change : Variable → Variable) :
    Builtin := fun arguments => do
  let (given, names) ← flags "p" arguments
  if names.isEmpty || given.contains 'p' then
    printVariables (word ++ " ") shows
    return 0
  for argument in names do
    let (name, value) := splitAssignment argument
    demandName name
    match value with
    | some value => assign name value
    | none => pure ()
    let before := (variableOf? (← own) name).getD { value := none }
    putVariable name (change before)
  return 0

def exportVariables : Builtin :=
  mark "export" Variable.exported fun before => { before with exported := true }

def fixVariables : Builtin :=
  mark "readonly" Variable.readonly fun before => { before with readonly := true }

def declareLocal : Builtin := fun arguments => do
  let (_, names) ← flags "" arguments
  for argument in names do
    let state ← own
    match state.frames with
    | [] => fail ["not in a function".toList]
    | frame :: frames =>
      let (name, value) := splitAssignment argument
      if argument ≠ ['-'] then
        demandName name
        if (frame.lookup name).isNone then
          let before := state.bindings.lookup name
          changeOwn fun own => { own with frames := ((name, before) :: frame) :: frames }
        match value with
        | some value => assign name value
        | none => pure ()
  if (← own).frames.isEmpty then fail ["not in a function".toList]
  return 0

def unsetNames : Builtin := fun arguments => do
  let (given, names) ← flags "vf" arguments
  for name in names do
    if given.getLast? = some 'f' then
      changeOwn fun own =>
        { own with functions := own.functions.filter fun entry => entry.1 ≠ name }
    else
      demandName name
      unset name
  return 0

def shift : Builtin := fun arguments => do
  let count ← match arguments with
    | argument :: _ => number argument
    | [] => pure 1
  if (← own).arguments.length < count then fail ["can't shift that many".toList]
  changeOwn fun own => { own with arguments := own.arguments.drop count, letters := 0 }
  return 0

/-! ## Options -/

/-- The options of a shell, each with its letter and its name. -/
def optionNames : List (Char × String) :=
  [('e', "errexit"), ('f', "noglob"), ('I', "ignoreeof"), ('i', "interactive"),
   ('m', "monitor"), ('n', "noexec"), ('s', "stdin"), ('x', "xtrace"), ('v', "verbose"),
   ('V', "vi"), ('E', "emacs"), ('C', "noclobber"), ('a', "allexport"), ('b', "notify"),
   ('u', "nounset")]

def setOption (letter : Char) (isOn : Bool) : Action Unit :=
  changeOwn fun own =>
    let wanted (other : Char) : Bool :=
      if other = letter then isOn else own.options.contains other
    { own with options := ((optionNames.map Prod.fst).filter wanted).reverse }

def printOptions (asCommands : Bool) : Action Unit := do
  if !asCommands then printLine ["Current option settings".toList]
  for (letter, name) in optionNames do
    let isOn ← hasOption letter
    let text := if asCommands then "set " ++ (if isOn then "-o " else "+o ") ++ name
      else (name ++ "".pushn ' ' (16 - name.length)) ++ if isOn then "on" else "off"
    printLine [text.toList]

def setNamedOption (name : ByteText) (isOn : Bool) : Action Unit := do
  match optionNames.find? fun entry => entry.2.toList = name with
  | some (letter, _) => setOption letter isOn
  | none =>
    if name ≠ "nolog".toList && name ≠ "debug".toList then
      fail ["Illegal option ".toList, if isOn then "-o ".toList else "+o ".toList, name]

/-- Read the options of a shell. The result is the arguments behind them, if there are any
    or if they are announced by two dashes. -/
def shellOptions (fuel : Nat) (arguments : List ByteText) :
    Action (Option (List ByteText)) := do
  match fuel, arguments with
  | 0, _ | _, [] => return none
  | fuel + 1, argument :: rest =>
    match argument with
    | ['-', '-'] => return some rest
    | ['-'] =>
      setOption 'x' false
      setOption 'v' false
      return if rest.isEmpty then none else some rest
    | [sign, 'o'] =>
      if sign = '-' || sign = '+' then
        match rest with
        | [] =>
          printOptions (sign = '+')
          return none
        | name :: rest =>
          setNamedOption name (sign = '-')
          shellOptions fuel rest
      else return some arguments
    | sign :: letter :: letters =>
      if sign = '-' || sign = '+' then
        if letter = 'o' then
          shellOptions fuel ([sign, 'o'] :: (if letters.isEmpty then rest else (sign :: letters) :: rest))
        else
          if (optionNames.lookup letter).isNone then
            fail ["Illegal option ".toList, [sign], [letter]]
          setOption letter (sign = '-')
          shellOptions fuel (if letters.isEmpty then rest else (sign :: letters) :: rest)
      else return some arguments
    | _ => return some arguments

def set : Builtin := fun arguments => do
  if arguments.isEmpty then
    printVariables "" fun found => found.value.isSome
    return 0
  let bound := (arguments.map fun argument => 2 * argument.length + 1).foldl (· + ·) 1
  match ← shellOptions bound arguments with
  | some arguments => changeOwn fun own => { own with arguments, letters := 0 }
  | none => pure ()
  return 0

/-! ## Traps and signals -/

def signalName (signal : Nat) : ByteText :=
  match signalNames[signal]? with
  | some (name, _) => name.toList
  | none => ByteText.ofNat signal

def trap : Builtin := fun arguments => do
  let arguments := match arguments with
    | ['-', '-'] :: rest => rest
    | rest => rest
  match arguments with
  | [] =>
    for (signal, action) in (← own).traps.mergeSort fun one other => decide (one.1 ≤ other.1) do
      printLine ["trap -- ".toList, quote action, [' '], signalName signal]
    return 0
  | first :: others =>
    let isNumber := first.all Char.isDigit && !first.isEmpty
    let (action, names) := if others.isEmpty || isNumber then (none, arguments)
      else (if first = ['-'] then none else some first, others)
    for name in names do
      match signalNumber? name with
      | some signal =>
        changeOwn fun own =>
          let kept := own.traps.filter fun entry => entry.1 ≠ signal
          { own with traps := match action with
              | some action => (signal, action) :: kept
              | none => kept }
      | none =>
        let _ ← printTo 2 ("trap: ".toList ++ name ++ ": bad trap\n".toList)
        return 1
    return 0

/-- How signals are sent. -/
def killUsage : String :=
  "Usage: kill [-s sigspec | -signum | -sigspec] [pid | job]... or\nkill -l [exitstatus]"

def listSignals (arguments : List ByteText) : Action Nat := do
  match arguments with
  | [] =>
    printLine [['0']]
    for signal in List.range 64 do
      printLine [signalName (signal + 1)]
    return 0
  | argument :: _ =>
    let status ← number argument
    printLine [signalName (if 128 < status then status - 128 else status)]
    return 0

def sendSignal (signal : Nat) (target : ByteText) : Action Nat := do
  let state ← own
  let jobs := state.children
  let process? ← match target with
    | '%' :: name =>
      let index := (Text.decimal? name).getD jobs.length
      pure (jobs.reverse[index - 1]?)
    | '-' :: digits => do pure (some ((← number digits) - 4096))
    | digits => do pure (some ((← number digits) - 4096))
  match process? with
  | none => fail ["No such process".toList]
  | some process =>
    if process = state.process || target = ['0'] then
      if signal ≠ 0 then signalSelf signal
      return 0
    match (← world).jobs.find? fun job => job.process = process with
    | some job =>
      if job.time ≤ (← world).elapsed && !jobs.contains process then
        warn ["No such process\n".toList]
        return 1
      if signal ≠ 0 then signalJob process signal
      return 0
    | none =>
      warn ["No such process\n".toList]
      return 1

def kill : Builtin := fun arguments => do
  let known (text : ByteText) : Action Nat := do
    match signalNumber? text with
    | some signal => return signal
    | none => fail ["invalid signal number or name: ".toList, text]
  let (signal, targets) ← match arguments with
    | ['-', 'l'] :: rest => return ← listSignals rest
    | ['-', 's'] :: [] => fail ["No arg for -s option".toList]
    | ['-', 's'] :: name :: rest => do pure (← known name, rest)
    | ['-', '-'] :: rest => pure (15, rest)
    | ('-' :: name) :: rest => do
      match signalNumber? name with
      | some signal => pure (signal, rest)
      | none =>
        match name with
        | 's' :: name => do pure (← known name, rest)
        | letter :: _ => fail ["Illegal option -".toList, [letter]]
        | [] => fail ["Illegal number: -".toList]
    | rest => pure (15, rest)
  let targets := match targets with
    | ['-', '-'] :: rest => rest
    | rest => rest
  if targets.isEmpty then fail [killUsage.toList]
  let mut status := 0
  for target in targets do
    let result ← sendSignal signal target
    if result ≠ 0 then status := result
  return status

def waitForJobs : Builtin := fun arguments => do
  let state ← own
  let waitFor (process : Nat) : Action Nat := do
    match (← world).jobs.find? fun job => job.process = process && state.children.contains process with
    | some job =>
      waitUntil job.time
      if !arguments.isEmpty && 128 < job.status && job.wasKilled then reportSignal (job.status - 128)
      changeWorld fun world =>
        { world with jobs := world.jobs.map fun other =>
            if other.process = process then { other with wasKilled := false } else other }
      return job.status
    | none => return 127
  match arguments with
  | [] =>
    for process in state.children do
      let _ ← waitFor process
    changeOwn fun own => { own with children := [] }
    return 0
  | targets =>
    let mut status := 0
    for target in targets do
      match target with
      | '%' :: name =>
        match state.children.reverse[(Text.decimal? name).getD 1 - 1]? with
        | some process => status ← waitFor process
        | none => fail ["No such job: ".toList, target]
      | digits => status ← waitFor ((← number digits) - 4096)
    return status

/-! ## Folders -/

/-- A path without dots, folders that are left again, and slashes that say nothing. -/
def tidyPath (path : ByteText) : ByteText :=
  let step (done : List ByteText) (name : ByteText) : List ByteText :=
    if name.isEmpty || name = ['.'] then done
    else if name = ['.', '.'] then done.drop 1
    else name :: done
  let names := ((Text.splitAll '/' path).foldl step []).reverse
  '/' :: Text.join ['/'] names

/-- The path of the present folder, the way it was reached. -/
def folderPath : Action ByteText := do
  let place := (← tree).current
  return (← own).folder.getD ('/' :: ByteText.ofString ("/".intercalate place))

def changeFolder : Builtin := fun arguments => do
  let (given, operands) ← flags "LP" arguments
  let before ← folderPath
  let target? : Option ByteText ← match operands with
    | [] => valueOf? "HOME".toList
    | ['-'] :: _ => do pure (some ((← valueOf? "OLDPWD".toList).getD before))
    | target :: _ => pure (some target)
  match target? with
  | none => return 0
  | some target =>
    if target.isEmpty then return 0
    let path := tidyPath (if target.head? = some '/' then target else before ++ '/' :: target)
    let files ← tree
    match files.lookup (ByteText.toString (if given.contains 'P' then target else path)) with
    | .ok (place, .folder) =>
      let path := if given.contains 'P' then '/' :: ByteText.ofString ("/".intercalate place)
        else path
      setTree { files with current := place }
      changeOwn fun own => { own with folder := some path }
      assign "OLDPWD".toList before
      assign "PWD".toList path
      if operands.head? = some ['-'] then printLine [path]
      return 0
    | _ => fail ["can't cd to ".toList, target]

def printFolder : Builtin := fun arguments => do
  let (given, _) ← flags "LP" arguments
  if given.getLast? = some 'P' then
    printLine ['/' :: ByteText.ofString ("/".intercalate (← tree).current)]
  else printLine [← folderPath]
  return 0

/-! ## Reading lines -/

/-- A line of a text, with the characters behind reverse solidi quoted, what follows it, and
    whether it had an end. What was read of the line before is given in reverse. -/
def takeLine (raw : Bool) (done : List Glyph) : (text : ByteText) → List Glyph × ByteText × Bool
  | [] => (done.reverse, [], false)
  | '\n' :: rest => (done.reverse, rest, true)
  | '\x00' :: rest => takeLine raw done rest
  | '\\' :: '\n' :: rest =>
    if raw then ((⟨'\\', false⟩ :: done).reverse, rest, true) else takeLine raw done rest
  | '\\' :: c :: rest =>
    if raw then takeLine raw (⟨'\\', false⟩ :: done) (c :: rest)
    else takeLine raw (⟨c, true⟩ :: done) rest
  | c :: rest => takeLine raw (⟨c, false⟩ :: done) rest

/-- A field at the start of a line, and what follows the separator behind it. -/
def takeField (separators : ByteText) (line : List Glyph) : List Glyph × List Glyph :=
  let separates (glyph : Glyph) : Bool := !glyph.quoted && separators.contains glyph.char
  let isBlank (glyph : Glyph) : Bool := separates glyph && ByteText.isSpace glyph.char
  let field := line.takeWhile fun glyph => !separates glyph
  let rest := (line.drop field.length).dropWhile isBlank
  match rest with
  | glyph :: after => (field, if separates glyph then after.dropWhile isBlank else rest)
  | [] => (field, [])

/-- The values for a number of variables in a line. The last one gets all that is left. -/
def lineFields (separators : ByteText) : (count : Nat) → (line : List Glyph) → List ByteText
  | 0, _ => []
  | 1, line =>
    let isBlank (glyph : Glyph) : Bool :=
      !glyph.quoted && separators.contains glyph.char && ByteText.isSpace glyph.char
    let (field, rest) := takeField separators line
    if rest.isEmpty then [glyphText field]
    else [glyphText (line.reverse.dropWhile isBlank).reverse]
  | count + 1, line =>
    let (field, rest) := takeField separators line
    glyphText field :: lineFields separators count rest

def read : Builtin := fun arguments => do
  let (given, names) ← options "r" "p" (arguments.length + 1) arguments
  if names.isEmpty then fail ["arg count".toList]
  let text := ((← sourceOf 0).map Source.rest).getD []
  let raw := given.any fun option => option.1 = 'r'
  let (line, rest, hasEnd) := takeLine raw [] text
  spend (line.length / 16)
  setRest 0 rest
  let separators ← Expansion.separators
  let isBlank (glyph : Glyph) : Bool :=
    !glyph.quoted && separators.contains glyph.char && ByteText.isSpace glyph.char
  let values := lineFields separators names.length (line.dropWhile isBlank)
  for (name, value) in names.zip values do
    demandName name
    assign name value
  return if hasEnd then 0 else 1

/-! ## Options of scripts -/

/-- Looks for the next option among arguments. -/
def nextOption : Builtin := fun arguments => do
  match arguments with
  | spec :: name :: given =>
    demandName name
    let state ← own
    let words := if given.isEmpty then state.arguments else given
    let index := ((← valueOf? "OPTIND".toList).bind (wholeNumber? (takeDigits? 10))).getD 1
    let index := (max 1 index).toNat
    let quiet := spec.head? = some ':'
    let finish (letter : Char) (next letters : Nat) (status : Nat) : Action Nat := do
      assign "OPTIND".toList (ByteText.ofNat next)
      changeOwn fun own => { own with letters }
      assign name [letter]
      return status
    -- The index is already behind a word whose letters are not all read.
    let index := if state.letters = 0 then index else index - 1
    match words[index - 1]? with
    | some ('-' :: letter :: more) =>
      let word := letter :: more
      if word = ['-'] then return ← finish '?' (index + 1) 0 1
      let offset := if state.letters < word.length then state.letters else 0
      let letter := (word[offset]?).getD '?'
      let isLast := offset + 1 = word.length
      let (next, letters) := (index + 1, if isLast then 0 else offset + 1)
      let behind := ((Text.splitFirst? letter spec).map Prod.snd).filter fun _ => letter ≠ ':'
      match behind with
      | none =>
        if quiet then assign "OPTARG".toList [letter]
        else
          let _ ← printTo 2 ("Illegal option -".toList ++ [letter, '\n'])
          unset "OPTARG".toList
        finish '?' next letters 0
      | some behind =>
        if behind.head? = some ':' then
          if !isLast then
            assign "OPTARG".toList (word.drop (offset + 1))
            finish letter (index + 1) 0 0
          else
            match words[index]? with
            | some value =>
              assign "OPTARG".toList value
              finish letter (index + 2) 0 0
            | none =>
              if quiet then
                assign "OPTARG".toList [letter]
                finish ':' next 0 0
              else
                let _ ← printTo 2 ("No arg for -".toList ++ letter :: " option\n".toList)
                unset "OPTARG".toList
                finish '?' next 0 0
        else
          assign "OPTARG".toList []
          finish letter next letters 0
    | _ => finish '?' index 0 1
  | _ => fail ["Usage: getopts optstring var [arg...]".toList]

/-! ## The rest -/

def rightsText (kept : Nat) : ByteText :=
  [(4, 'r'), (2, 'w'), (1, 'x')].filterMap fun (bit, letter) =>
    if kept / bit % 2 = 1 then some letter else none

def mask : Builtin := fun arguments => do
  let (given, operands) ← flags "S" arguments
  let present := (← tree).mask
  match operands with
  | [] =>
    let kept (part : Nat) : ByteText := rightsText (7 - present / part % 8)
    if given.contains 'S' then
      printLine ["u=".toList, kept 64, ",g=".toList, kept 8, ",o=".toList, kept 1]
    else
      let digit (part : Nat) : Char := Char.ofNat ('0'.toNat + present / part % 8)
      printLine [['0', digit 64, digit 8, digit 1]]
    return 0
  | operand :: _ =>
    if operand.all Char.isDigit then
      match takeDigits? 8 operand with
      | some (value, []) =>
        if value < 512 then
          setTree { (← tree) with mask := value }
          return 0
        fail ["Illegal number: ".toList, operand]
      | _ => fail ["Illegal number: ".toList, operand]
    else if operand.all fun c => "ugoa=+-rwxX,".toList.contains c then return 0
    else fail ["Illegal mode: ".toList, operand]

def times : Builtin := fun _ => do
  print "0m0.000000s 0m0.000000s\n0m0.000000s 0m0.000000s\n".toList
  return 0

/-- Prints that there is no limit. -/
def limit : Builtin := fun arguments => do
  if arguments.length ≤ 1 then printLine ["unlimited".toList]
  return 0

def noJob : Builtin := fun _ =>
  fail ["No current job".toList]

def setAlias : Builtin := fun arguments => do
  let print (entry : ByteText × ByteText) : Action Unit :=
    printLine [entry.1, ['='], quote entry.2]
  if arguments.isEmpty then
    for entry in (← own).aliases do
      print entry
  let mut status := 0
  for argument in arguments do
    match Text.splitFirst? '=' argument with
    | some (name, value) =>
      changeOwn fun own =>
        { own with aliases := (own.aliases.filter fun entry => entry.1 ≠ name) ++ [(name, value)] }
    | none =>
      match (← own).aliases.lookup argument with
      | some value => print (argument, value)
      | none =>
        let _ ← printTo 2 ("alias: ".toList ++ argument ++ " not found\n".toList)
        status := 1
  return status

def unalias : Builtin := fun arguments => do
  let (given, names) ← flags "a" arguments
  if !given.isEmpty then changeOwn fun own => { own with aliases := [] }
  let mut status := 0
  for name in names do
    if ((← own).aliases.lookup name).isNone then
      let _ ← printTo 2 ("unalias: ".toList ++ name ++ " not found\n".toList)
      status := 1
    changeOwn fun own =>
      { own with aliases := own.aliases.filter fun entry => entry.1 ≠ name }
  return status

def nothing : Builtin := fun _ => return 0

/-- The special commands, whose faults end the shell. -/
def special : List (String × Builtin) :=
  [(":", nothing), ("break", breakLoops), ("continue", continueLoop), ("exit", exit),
   ("export", exportVariables), ("local", declareLocal), ("readonly", fixVariables),
   ("return", returnFrom), ("set", set), ("shift", shift), ("times", times), ("trap", trap),
   ("unset", unsetNames)]

def regular : List (String × Builtin) :=
  [("alias", setAlias), ("bg", noJob), ("cd", changeFolder), ("chdir", changeFolder),
   ("fg", noJob), ("getopts", nextOption), ("jobs", nothing),
   ("kill", kill), ("pwd", printFolder), ("read", read), ("ulimit", limit), ("umask", mask),
   ("unalias", unalias), ("wait", waitForJobs)]

end Builtin

end Stencil.Shell
