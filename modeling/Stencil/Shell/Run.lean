import Stencil.Shell.Launch

/-! # Running commands

A command runs by its parts: words are expanded, streams are redirected, and the first field
tells what is run: a builtin command, a function, or a program. What runs inside of a command
is run by the engine that is given, one level further down.
-/

namespace Stencil.Shell

namespace Run

open Shell.Action

/-! ## Tests and ends -/

/-- Do something whose failure is looked at. -/
def asTest (body : Action Unit) : Action Unit := do
  let before := (← own).tested
  changeOwn fun own => { own with tested := true }
  try
    body
  catch interruption =>
    changeOwn fun own => { own with tested := before }
    throw interruption
  changeOwn fun own => { own with tested := before }

/-- End the shell if a command failed and failures are to end it. -/
def checkStatus : Action Unit := do
  let own ← own
  if own.status ≠ 0 && !own.tested && own.options.contains 'e' then throw .exiting

def succeeded : Action Bool := do
  return (← own).status = 0

/-! ## What a name stands for -/

/-- What the first field of a command stands for. -/
inductive Meaning where
  | special (builtin : Builtin)
  | function (body : Command)
  | regular (builtin : Builtin)
  /-- A utility that the shell has itself. -/
  | utility (work : Utility)
  /-- Commands that run others. -/
  | eval | dot | exec | command | type
  | program

/-- The utilities that a shell has itself. -/
def utilities : List (String × Utility) :=
  [("[", Utility.bracketTest), ("echo", Utility.echo), ("false", Utility.fail),
   ("printf", Utility.printf), ("test", Utility.test), ("true", Utility.succeed)]

/-- The builtin commands that are not special. -/
def regular : List (String × Builtin) :=
  ("hash", Launch.hash) :: Builtin.regular

def meaningOf (own : Setting) (name : ByteText) (skipsFunctions : Bool) : Meaning :=
  let text := String.ofList name
  match text with
  | "eval" => .eval
  | "." => .dot
  | "exec" => .exec
  | _ =>
    match Builtin.special.lookup text with
    | some builtin => .special builtin
    | none =>
      match if skipsFunctions then none else own.functions.lookup name with
      | some body => .function body
      | none =>
        match text with
        | "command" => .command
        | "type" => .type
        | _ =>
          match regular.lookup text, utilities.lookup text with
          | some builtin, _ => .regular builtin
          | none, some work => .utility work
          | none, none => .program

/-- Whether faults of a command end the shell. -/
def Meaning.isSpecial : Meaning → Bool
  | .special _ | .eval | .dot | .exec => true
  | _ => false

def keywords : List String :=
  ["!", "\x7b", "\x7d", "case", "do", "done", "elif", "else", "esac", "fi", "for", "if", "in",
   "then", "until", "while"]

/-- Tell what a name stands for, in full or just so that it can be run. -/
def describe (full : Bool) (name : ByteText) : Action Nat := do
  let own ← own
  let say (short long : ByteText) : Action Nat := do
    Builtin.printLine [if full then name ++ long else short]
    return 0
  if keywords.contains (String.ofList name) then
    return ← say name " is a shell keyword".toList
  match meaningOf own name false with
  | .special _ | .eval | .dot | .exec => say name " is a special shell builtin".toList
  | .function _ => say name " is a shell function".toList
  | .regular _ | .utility _ | .command | .type => say name " is a shell builtin".toList
  | .program =>
    match ← Launch.pathOf? name with
    | some path => say path (" is ".toList ++ path)
    | none =>
      if full then Builtin.printLine [name, ": not found".toList]
      return 127

/-! ## Calls -/

def restoreVariables (kept : List (ByteText × Option Variable)) : Action Unit :=
  changeOwn fun own =>
    { own with bindings := kept.foldl (fun bindings (name, before) =>
        let others := bindings.filter fun entry => entry.1 ≠ name
        match before with
        | some before => (name, before) :: others
        | none => others) own.bindings }

/-- How many functions may be at work. -/
def mostCalls : Nat := 1000

def callFunction (engine : Engine) (body : Command) (arguments : List ByteText) :
    Action Unit := do
  let before ← own
  if mostCalls ≤ before.calls then
    fail ["Maximum function recursion depth (1000) reached".toList]
  changeOwn fun own =>
    { own with arguments, loops := 0, letters := 0, calls := own.calls + 1, frames := [] :: own.frames }
  let restore : Action Unit := do
    restoreVariables ((← own).frames.headD [])
    changeOwn fun own =>
      { own with
        arguments := before.arguments, loops := before.loops, letters := before.letters
        calls := before.calls, frames := before.frames, tested := before.tested }
  try
    engine.run [body]
  catch interruption =>
    restore
    match interruption with
    | .returning => return
    | _ => throw interruption
  restore

/-- Do something under the name of a builtin command. A fault ends only the command, unless
    it is special. -/
def asBuiltin (title : ByteText) (isSpecial : Bool) (body : Action Nat) : Action Unit := do
  let before := (← own).title
  changeOwn fun own => { own with title := some title }
  let restore : Action Unit := changeOwn fun own => { own with title := before }
  try
    setStatus (← body)
  catch interruption =>
    restore
    match interruption with
    | .faulty => if isSpecial then throw .faulty
    | _ => throw interruption
  restore

def runUtility (title : ByteText) (work : Work Nat) : Action Nat := do
  let own ← own
  let before := own.name ++ ": ".toList ++ ByteText.ofNat own.line ++ ": ".toList ++ title ++
    ": ".toList
  let (status, isWritten) ← Launch.atDesk before true false work
  if isWritten then return status
  warn [title, ": I/O error".toList]
  return max 1 status

def runProgram (engine : Engine) (words : List ByteText) : Action Unit := do
  let name := words.headD []
  let perform (call : Call) : Action Unit := do
    let process ← newProcess
    match ← Launch.inProcess process (engine.perform call) with
    | .exited status => setStatus (status % 256)
    | .killed signal =>
      reportSignal signal
      setStatus (signalStatus signal)
  match Launch.callOf (← tree) (← Launch.shellPath) words with
  | .ok call => perform call
  | .error .noProgram =>
    perform (Launch.shellCall ((← Launch.pathOf? name).getD name) words)
  | .error error =>
    let wording := if name.isEmpty then "Permission denied" else error.shellWording
    warn [name, ": ".toList, wording.toList]
    let isNamed := !name.contains '/'
    setStatus (if isNamed then 127 else error.status)

/-- Run a program in the place of the shell. -/
def replaceShell (engine : Engine) (words : List ByteText) : Action Unit := do
  let call ← match Launch.callOf (← tree) (← Launch.shellPath) words with
    | .ok call => pure call
    | .error .noProgram => pure (Launch.shellCall (words.headD []) words)
    | .error error =>
      failWith error.status [words.headD [], ": ".toList, error.shellWording.toList]
  let process := (← own).process
  changeOwn fun own =>
    { own with title := none, traps := own.traps.filter fun entry => entry.2.isEmpty }
  match ← engine.perform call with
  | .exited status =>
    setStatus status
    changeOwn fun own => { own with traps := [] }
    throw .exiting
  | .killed signal => throw (.killed process signal)

/-- The file of commands that a name stands for. -/
def dotFile (name : ByteText) : Action (ByteText × ByteText) := do
  let tree ← tree
  let read (path : ByteText) : Option ByteText :=
    match tree.find (ByteText.toString path) with
    | .ok file => some (ByteText.ofBytes file.bytes)
    | .error _ => none
  if name.contains '/' then
    match tree.find (ByteText.toString name) with
    | .ok file => return (name, ByteText.ofBytes file.bytes)
    | .error error =>
      fail ["cannot open ".toList, name, ": ".toList, (Redirect.openWording error).toList]
  let paths := (Launch.programFolders (← Launch.shellPath)).map fun folder => Utility.joinPath folder name
  match paths.findSome? fun path => (read path).map fun text => (path, text) with
  | some found => return found
  | none => fail [name, ": not found".toList]

def runDot (engine : Engine) (arguments : List ByteText) : Action Nat := do
  match arguments with
  | [] => fail ["filename argument required".toList]
  | name :: _ =>
    let (path, text) ← dotFile name
    changeOwn fun own => { own with title := some path }
    setStatus 0
    try
      runText engine.run text
    catch interruption =>
      match interruption with
      | .returning => pure ()
      | _ => throw interruption
    return (← own).status

/-- Run a text that is put together from arguments. -/
def runEval (engine : Engine) (arguments : List ByteText) : Action Nat := do
  setStatus 0
  runText engine.run (Text.join [' '] arguments)
  return (← own).status

def runType (arguments : List ByteText) : Action Nat := do
  let mut status := 0
  for name in arguments do
    let result ← describe true name
    if result ≠ 0 then status := result
  return status

/-- The options of the command that skips functions, and its other arguments; none if the
    options are faulty. -/
def commandOptions (name : ByteText) (arguments : List ByteText) :
    Action (Option (List Char × List ByteText)) := do
  let before := (← own).title
  changeOwn fun own => { own with title := some name }
  let found ← try
      pure (some (← Builtin.flags "pvV" arguments))
    catch interruption =>
      if interruption = .faulty then pure none else throw interruption
  changeOwn fun own => { own with title := before }
  return found

/-- Run what fields stand for. -/
def call (engine : Engine) (fuel : Nat) (meaning : Meaning) (fields : List ByteText) :
    Action Unit := do
  let name := fields.headD []
  let arguments := fields.drop 1
  match fuel with
  | 0 => setStatus 127
  | fuel + 1 =>
    match meaning with
    | .special builtin => asBuiltin name true (builtin arguments)
    | .function body => callFunction engine body arguments
    | .regular builtin => asBuiltin name false (builtin arguments)
    | .utility work => asBuiltin name false (runUtility name (work arguments))
    | .eval => asBuiltin name true (runEval engine arguments)
    | .dot => asBuiltin name true (runDot engine arguments)
    | .type => asBuiltin name false (runType arguments)
    | .exec =>
      match arguments with
      | [] => setStatus 0
      | words =>
        asBuiltin name true do
          replaceShell engine (if words.head? = some ['-', '-'] then words.tail else words)
          return 0
    | .command =>
      let (given, words) ← match ← commandOptions name arguments with
        | some found => pure found
        | none => return
      if given.contains 'v' || given.contains 'V' then
        match words with
        | [] => setStatus 0
        | wanted :: _ => asBuiltin name false (describe (given.contains 'V') wanted)
      else
        match words with
        | [] => setStatus 0
        | inner :: _ =>
          let meaning := meaningOf (← own) inner true
          -- A special command that is called this way ends the shell only if it says so.
          match meaning with
          | .special builtin => asBuiltin inner false (builtin (words.drop 1))
          | .eval => asBuiltin inner false (runEval engine (words.drop 1))
          | .dot => asBuiltin inner false (runDot engine (words.drop 1))
          | meaning => call engine fuel meaning words
    | .program => runProgram engine fields

/-! ## Simple commands -/

/-- The commands whose arguments may be assignments. -/
def declarations : List String :=
  ["export", "local", "readonly"]

/-- Whether the next word of a command may be an assignment, given the fields before it. -/
def mayAssign (fields : List ByteText) : Bool :=
  let fields := fields.dropWhile fun field => field = "command".toList
  fields.head?.any fun field => declarations.contains (String.ofList field)

/-- The fields of the words of a command, behind those that are given. -/
def expandFields (engine : Engine) (fields : List ByteText) : (words : List Word) → Action (List ByteText)
  | [] => return fields
  | word :: rest => do
    let assignment? := if mayAssign fields then Reading.Grammar.assignment? word else none
    match assignment? with
    | some (name, value) =>
      let value ← Expansion.value engine.run value
      expandFields engine (fields ++ [name ++ '=' :: value]) rest
    | none => expandFields engine (fields ++ (← Expansion.word engine.run word)) rest

/-- Assign values one by one. The result is what is shown of them. -/
def assignAll (engine : Engine) (change : ByteText → ByteText → Action Unit) :
    (assignments : List (ByteText × Word)) → Action (List ByteText)
  | [] => return []
  | (name, word) :: rest => do
    let value ← Expansion.value engine.run word
    change name value
    return (name ++ '=' :: value) :: (← assignAll engine change rest)

/-- Assign a value for the time of one command. -/
def assignForCall (name value : ByteText) : Action Unit := do
  assign name value
  match variableOf? (← own) name with
  | some found => putVariable name { found with exported := true }
  | none => return

/-- Show a command before it runs. -/
def trace (channel : Option Channel) (texts : List ByteText) : Action Unit := do
  if ← hasOption 'x' then
    let line := (← valueOf "PS4") ++ Text.join [' '] texts ++ ['\n']
    let _ ← writeTo channel (ByteText.toBytes line)

def simple (engine : Engine) (line : Nat) (assignments : List (ByteText × Word))
    (words : List Word) (redirections : List Redirection) : Action Unit := do
  changeOwn fun own => { own with line, substituted := 0 }
  let fields ← expandFields engine [] words
  let redirectings ← Redirect.expand engine.run redirections
  let state ← own
  let meaning := if fields.isEmpty then .program else meaningOf state (fields.headD []) false
  let traced := state.streams.lookup 2
  let body : Action Unit := do
    if !(← Redirect.applyAll redirectings) then
      setStatus 2
      if !fields.isEmpty && meaning.isSpecial then throw .faulty
      return
    if fields.isEmpty then
      let shown ← assignAll engine assign assignments
      if !shown.isEmpty then trace traced shown
      setStatus (← own).substituted
    else if assignments.isEmpty then
      trace traced fields
      call engine 16 meaning fields
    else if meaning.isSpecial then
      let shown ← assignAll engine assign assignments
      trace traced (shown ++ fields)
      call engine 16 meaning fields
    else
      let kept := assignments.map fun (name, _) => (name, state.bindings.lookup name)
      try
        let shown ← assignAll engine assignForCall assignments
        trace traced (shown ++ fields)
        call engine 16 meaning fields
      catch interruption =>
        restoreVariables kept
        throw interruption
      restoreVariables kept
  let isExec := match meaning with
    | .exec => fields.length = 1
    | _ => false
  if redirectings.isEmpty || isExec then body else Redirect.keepingStreams body

/-! ## Pipelines -/

/-- Run the stages of a pipeline, which begin at one time. The source that the first of them
    reads is given, with a mark if what comes in has no end. The result is the time at which
    all have ended. -/
def stages (engine : Engine) (start latest : Nat) (input : Option Nat) (endless : Bool) :
    (commands : List Command) → Action Nat
  | [] => return latest
  | command :: rest => do
    let begin : Action Unit := do
      changeWorld fun world => { world with elapsed := start }
      match input with
      | some source => setChannel 0 (some (.source source))
      | none => pure ()
    let checkInput : Action Unit := do
      if endless then
        let sources := (← get).world.sources
        let left := input.bind fun source => sources[source]?
        if left.all fun source => source.rest.isEmpty then throw .endless
    if rest.isEmpty then
      let status ← Redirect.keepingStreams do
        begin
        inCopy engine.run (engine.run [command])
      checkInput
      setStatus status
      return max latest (← world).elapsed
    else
      let budget := (← world).budget
      let given := if endless then budget else budget / 2
      changeWorld fun world => { world with budget := given }
      let sink ← openSink
      let isEndless ← try
          Redirect.keepingStreams do
            begin
            setChannel 1 (some (.sink sink))
            let _ ← inCopy engine.run (engine.run [command])
          waitForHolders sink
          pure false
        catch interruption =>
          match interruption with
          | .endless => pure true
          | other => throw other
      changeWorld fun world => { world with budget := world.budget + (budget - given) }
      checkInput
      let now := (← world).elapsed
      let latest := if isEndless then latest else max latest now
      let source ← openSource (← closeSink sink) false
      stages engine start latest (some source) isEndless rest

def pipeline (engine : Engine) (commands : List Command) : Action Unit := do
  let start := (← world).elapsed
  let time ← stages engine start start none false commands
  changeWorld fun world => { world with elapsed := start }
  waitUntil time

/-! ## Compound commands -/

/-- Run the body of a loop once; whether the loop goes on. -/
def round (levels : Nat) (tested : Bool) (body : Action Bool) : Action Bool := do
  try
    body
  catch interruption =>
    let settle (isOwn : Bool) : Action Unit :=
      changeOwn fun own => { own with loops := if isOwn then levels else levels - 1, tested }
    match interruption with
    | .breaking count =>
      settle (count ≤ 1)
      if count ≤ 1 then return false
      throw (.breaking (count - 1))
    | .continuing count =>
      settle (count ≤ 1)
      if count ≤ 1 then return true
      throw (.continuing (count - 1))
    | other => throw other

/-- More rounds than any loop makes. -/
def mostRounds : Nat := 1000000000

/-- Do something inside of one more loop. -/
def inLoop (body : (levels : Nat) → (tested : Bool) → Action Unit) : Action Unit := do
  let before ← own
  changeOwn fun own => { own with loops := before.loops + 1 }
  body (before.loops + 1) before.tested
  changeOwn fun own => { own with loops := before.loops }

/-- Run the body of a loop as long as a test has the given success. -/
def again (engine : Engine) (success : Bool) (test body : List Command) : Action Unit :=
  inLoop fun levels tested => do
    let mut goesOn := true
    let mut status := 0
    for _ in [0:mostRounds] do
      spend 1
      goesOn ← round levels tested do
        asTest (engine.run test)
        return (← succeeded) = success
      if !goesOn then break
      goesOn ← round levels tested do
        engine.run body
        return true
      status := (← own).status
      if !goesOn then break
    setStatus status

def each (engine : Engine) (name : ByteText) (fields : List ByteText) (body : List Command) :
    Action Unit :=
  inLoop fun levels tested => do
    let mut status := 0
    for field in fields do
      assign name field
      let goesOn ← round levels tested do
        engine.run body
        return true
      status := (← own).status
      if !goesOn then break
    setStatus status

def branch (engine : Engine) (subject : ByteText) :
    (branches : List (List Word × List Command)) → Action Unit
  | [] => setStatus 0
  | (patterns, body) :: rest => do
    let mut isMatch := false
    for pattern in patterns do
      if !isMatch then
        isMatch := (← Expansion.pattern engine.run pattern).admits subject
    if isMatch then
      if body.isEmpty then setStatus 0 else engine.run body
    else branch engine subject rest

/-- Run a command beside the shell. Its redirections come first, so that it does not hold
    what it does not use. -/
def background (engine : Engine) (inner : Command) : Action Unit := do
  let prepare (redirections : List Redirection) : Action Unit := do
    if !(← Redirect.applyAll (← Redirect.expand engine.run redirections)) then
      setStatus 2
      throw .exiting
  match inner with
  | .redirected _ body redirections => beside engine.run (prepare redirections) (engine.run [body])
  | .simple line assignments words redirections =>
    beside engine.run (prepare redirections) (engine.run [.simple line assignments words []])
  | inner => beside engine.run (pure ()) (engine.run [inner])

def command (engine : Engine) (command : Command) : Action Unit := do
  spend 1
  runTraps engine.run
  match command with
  | .simple line assignments words redirections =>
    simple engine line assignments words redirections
    runTraps engine.run
    checkStatus
  | .redirected line inner redirections =>
    changeOwn fun own => { own with line }
    let redirectings ← Redirect.expand engine.run redirections
    Redirect.keepingStreams do
      if ← Redirect.applyAll redirectings then engine.run [inner] else setStatus 2
  | .pipeline commands =>
    pipeline engine commands
    runTraps engine.run
    checkStatus
  | .negated inner =>
    asTest (engine.run [inner])
    setStatus (if ← succeeded then 1 else 0)
  | .both first second =>
    asTest (engine.run [first])
    if ← succeeded then engine.run [second]
  | .either first second =>
    asTest (engine.run [first])
    if !(← succeeded) then engine.run [second]
  | .background inner =>
    background engine inner
    setStatus 0
  | .group body => engine.run body
  | .apart body =>
    setStatus (← inCopy engine.run (engine.run body))
    runTraps engine.run
    checkStatus
  | .each line name words body =>
    changeOwn fun own => { own with line }
    let fields ← match words with
      | some words => Expansion.words engine.run words
      | none => pure (← own).arguments
    each engine name fields body
  | .choice test body otherwise =>
    asTest (engine.run test)
    if ← succeeded then engine.run body
    else if otherwise.isEmpty then setStatus 0
    else engine.run otherwise
  | .again success test body => again engine success test body
  | .cases line subject branches =>
    changeOwn fun own => { own with line }
    branch engine (← Expansion.text engine.run subject) branches
  | .function name body =>
    changeOwn fun own =>
      { own with functions :=
          (name, body) :: own.functions.filter fun entry => entry.1 ≠ name }
    setStatus 0

def list (engine : Engine) : List Command → Action Unit
  | [] => return
  | first :: rest => do
    command engine first
    list engine rest

/-- How many programs may launch each other before that counts as endless. -/
def mostLaunches : Nat := 100

/-- The end of a process whose commands are nested too deep. -/
def tooDeep {α : Type} : Action α := do
  let own ← own
  if mostLaunches < own.launches then throw .endless
  throw (.killed own.process 11)

/-- The engine for commands that are nested up to some depth. -/
def engine : (depth : Nat) → Engine
  | 0 => { run := fun _ => tooDeep, perform := fun _ => tooDeep }
  | depth + 1 =>
    let inner := engine depth
    { run := list inner, perform := Launch.perform inner }

end Run

end Stencil.Shell
