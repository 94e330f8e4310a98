import Stencil.Shell.Reader
import Stencil.Shell.State

/-! # Processes

Commands may run in a copy of the shell, so that what they set is lost, with their output
collected, or beside the shell. Processes run one after the other here; the clock is set back
for those that run at the same time. Signals end a process, unless it has a trap for them.
-/

namespace Stencil.Shell

/-- How a list of commands is run. -/
abbrev Runner := List Command → Action Unit

/-- The names of the signals, in the order of their numbers, and what is said of a process
    that they end. -/
def signalNames : List (String × String) :=
  [("EXIT", ""), ("HUP", "Hangup"), ("INT", "Interrupt"), ("QUIT", "Quit"),
   ("ILL", "Illegal instruction"), ("TRAP", "Trace/breakpoint trap"), ("ABRT", "Aborted"),
   ("BUS", "Bus error"), ("FPE", "Floating point exception"), ("KILL", "Killed"),
   ("USR1", "User defined signal 1"), ("SEGV", "Segmentation fault"),
   ("USR2", "User defined signal 2"), ("PIPE", "Broken pipe"), ("ALRM", "Alarm clock"),
   ("TERM", "Terminated"), ("STKFLT", "Stack fault"), ("CHLD", "Child exited"),
   ("CONT", "Continued"), ("STOP", "Stopped (signal)"), ("TSTP", "Stopped"),
   ("TTIN", "Stopped (tty input)"), ("TTOU", "Stopped (tty output)"),
   ("URG", "Urgent I/O condition"), ("XCPU", "CPU time limit exceeded"),
   ("XFSZ", "File size limit exceeded"), ("VTALRM", "Virtual timer expired"),
   ("PROF", "Profiling timer expired"), ("WINCH", "Window changed"), ("POLL", "I/O possible"),
   ("PWR", "Power failure"), ("SYS", "Bad system call")]

/-- The number of a signal that a text names by its number or by its name. -/
def signalNumber? (text : ByteText) : Option Nat :=
  if !text.isEmpty && text.all Char.isDigit then
    (Text.decimal? text).bind fun number => if number ≤ 64 then some number else none
  else
    let name := text.map Char.toUpper
    signalNames.findIdx? fun entry => entry.1.toList = name

/-- Signals that are not noticed. -/
def quietSignals : List Nat := [0, 17, 18, 23, 28]

/-- Signals that stop a process, so that it does not end. -/
def stoppingSignals : List Nat := [19, 20, 21, 22]

/-- What is said of a process that a signal ended. -/
def signalWording (signal : Nat) : String :=
  (signalNames[signal]?.map Prod.snd).getD ("Unknown signal " ++ toString signal)

namespace Action

/-- What a signal does to the process of the shell, which is not a copy. A trap is run by
    the given action. -/
def receive (signal : Nat) (runTrap : ByteText → Action Unit) : Action Unit := do
  let own ← own
  match if signal = 9 || signal = 19 then none else own.traps.lookup signal with
  | some [] => return
  | some action => runTrap action
  | none =>
    if quietSignals.contains signal then return
    else if stoppingSignals.contains signal then throw .endless
    else throw (.killed own.process signal)

/-- Send a signal to the process of the shell. A copy leaves it to the shell, and a trap is
    left until the command at work is done. -/
def signalSelf (signal : Nat) : Action Unit := do
  let own ← own
  let alarm : Alarm :=
    { time := (← world).elapsed, process := own.process, signal, sender := 0 }
  let leave : Action Unit :=
    changeWorld fun world => { world with alarms := world.alarms ++ [alarm] }
  if own.isCopy then leave else receive signal fun _ => leave

/-- Let others see what jobs have done by now. -/
def settle : Action Unit := do
  let { jobs, prints, .. } := (← get).world
  if jobs.isEmpty then return
  let now := (← get).world.elapsed
  let shared := (← own).shared
  let (due, later) := prints.partition fun print => print.time ≤ now && shared ≤ print.sink
  for print in due.mergeSort fun one other => decide (one.time ≤ other.time) do
    changeWorld fun world =>
      { world with sinks := world.sinks.modify print.sink (· ++ print.bytes) }
  let ended := (jobs.filter fun job => job.time ≤ now && job.change.isSome).mergeSort
    fun one other => decide (one.time ≤ other.time)
  for job in ended do
    match job.change with
    | some (before, after) => setTree ((← tree).merge before after)
    | none => return
  changeWorld fun world =>
    { world with
      prints := later
      jobs := world.jobs.map fun job => if job.time ≤ now then { job with change := none } else job }

/-- Let time pass up to a point; a signal may come before that. -/
def waitUntil (time : Nat) : Action Unit := do
  let own ← own
  let world ← world
  let reaches (alarm : Alarm) : Bool :=
    (alarm.process = own.process && !own.isCopy) ||
      (alarm.reachesAll && (alarm.process = own.process || own.ancestors.contains alarm.process))
  let due := world.alarms.filter fun alarm => reaches alarm && alarm.time ≤ time
  let pass (time : Nat) : Action Unit := do
    changeWorld fun world => { world with elapsed := max world.elapsed time }
    settle
  match due.mergeSort fun one other => decide (one.time ≤ other.time) with
  | [] => pass time
  | alarm :: _ =>
    if own.traps.lookup alarm.signal = some [] then pass time
    else
      pass alarm.time
      if (own.traps.lookup alarm.signal).isNone then receive alarm.signal fun _ => return

def wait (milliseconds : Nat) : Action Unit := do
  if milliseconds ≠ 0 then waitUntil ((← world).elapsed + milliseconds)

/-- Wait for the jobs that hold a sink. -/
def waitForHolders (sink : Nat) : Action Unit := do
  let times := ((← world).jobs.filter fun job => job.holds.contains sink).map Job.time
  match times.max? with
  | some time => waitUntil time
  | none => return

def runText (run : Runner) (text : ByteText) : Action Unit := do
  spend (1 + text.length / 16)
  let script := readScript text
  run script.commands
  match script.fault with
  | none => return
  | some (line, wording) =>
    changeOwn fun own => { own with line }
    fail [wording]

/-- Run a trap. The status is what it was before, unless the shell ends with another one. -/
def runTrap (run : Runner) (text : ByteText) : Action Unit := do
  let before ← own
  changeOwn fun own => { own with kept := some own.status, title := none }
  try
    runText run text
  catch interruption =>
    changeOwn fun own => { own with kept := before.kept, title := before.title }
    throw interruption
  changeOwn fun own =>
    { own with status := before.status, kept := before.kept, title := before.title }

/-- Receive the signals that have come. -/
def runTraps (run : Runner) : Action Unit := do
  if (← get).world.alarms.isEmpty then return
  let own ← own
  if own.isCopy then return
  let now := (← world).elapsed
  let (mine, others) := (← world).alarms.partition fun alarm =>
    alarm.process = own.process && alarm.time ≤ now
  changeWorld fun world => { world with alarms := others }
  for alarm in mine.mergeSort fun one other => decide (one.time ≤ other.time) do
    receive alarm.signal (runTrap run)

def runLastTrap (run : Runner) : Action Unit := do
  match (← own).traps.lookup 0 with
  | none => return
  | some action =>
    changeOwn fun own => { own with traps := own.traps.filter fun entry => entry.1 ≠ 0 }
    try
      runTrap run action
    catch interruption =>
      match interruption with
      | .killed _ _ | .endless => throw interruption
      | _ => return

/-- Run something up to the end of the shell, and the trap of the end behind it. -/
def untilEnd (run : Runner) (body : Action Unit) : Action Unit := do
  try
    body
    runTraps run
  catch interruption =>
    match interruption with
    | .killed _ _ | .endless => throw interruption
    | _ => pure ()
  runLastTrap run

/-- The setting of a copy of the shell. Traps do not hold in it, but what is ignored stays
    ignored. -/
def copyOf (own : Setting) : Setting :=
  { own with
    isCopy := true
    traps := own.traps.filter fun entry => entry.2.isEmpty && entry.1 ≠ 0
    children := [] }

/-- Do something in another setting, and come back to the present setting and folder. The
    result is the status. -/
def within (setting : Setting) (body : Action Unit) : Action Nat := do
  let before ← own
  let { current, mask, .. } ← tree
  changeOwn fun _ => setting
  let restore : Action Unit := do
    changeOwn fun _ => before
    changeWorld fun world => { world with tree := { world.tree with current, mask } }
  try
    body
  catch interruption =>
    restore
    throw interruption
  let status := (← get).own.status
  restore
  return status

/-- Run something in a copy of the shell. The result is its status. -/
def inCopy (run : Runner) (body : Action Unit) : Action Nat := do
  spend 4
  within (copyOf (← own)) (untilEnd run body)

/-- What something prints that runs in a copy of the shell, and its status. -/
def collect (run : Runner) (body : Action Unit) : Action (ByteText × Nat) := do
  let sink ← openSink
  let copy := copyOf (← own)
  let streams := copy.streams.filter fun entry => entry.1 ≠ 1
  spend 4
  let status ← within { copy with streams := (1, .sink sink) :: streams } (untilEnd run body)
  waitForHolders sink
  return (← closeSink sink, status)

def signalStatus (signal : Nat) : Nat :=
  128 + signal

/-- Say what signal ended a process, if it is worth saying. -/
def reportSignal (signal : Nat) : Action Unit := do
  if signal ≠ 2 && signal ≠ 13 then
    let _ ← printTo 2 ((signalWording signal).toList ++ ['\n'])

def newProcess : Action Nat := do
  let process := (← world).processes + 1
  changeWorld fun world => { world with processes := process }
  return process

/-- The time of what never comes. -/
def never : Nat := 1000000000000

/-- The sinks that streams lead to. -/
def sinksOf (own : Setting) : List Nat :=
  own.streams.filterMap fun entry =>
    match entry.2 with
    | .sink index => some index
    | _ => none

def changeJob (process : Nat) (change : Job → Job) : Action Unit :=
  changeWorld fun world =>
    { world with jobs := world.jobs.map fun job =>
        if job.process = process then change job else job }

/-- Run something beside the shell, once its streams are prepared. What it prints and what
    it changes after some time is seen by others at that time only. -/
def beside (run : Runner) (prepare body : Action Unit) : Action Unit := do
  let process ← newProcess
  let { elapsed := start, budget, sinks, .. } ← world
  let before ← tree
  let own ← own
  let input ← openSource [] false
  let streams := own.streams.filter fun entry => entry.1 ≠ 0
  let copy :=
    { copyOf own with
      streams := (0, .source input) :: streams, tested := false, job := process
      shared := sinks.size }
  changeWorld fun world =>
    { world with
      budget := budget / 4
      jobs := { process, status := 0, time := start, holds := sinksOf own } :: world.jobs }
  let inside : Action Unit := do
    prepare
    let holds := sinksOf (← Action.own)
    changeJob process fun job => { job with holds }
    body
  let (status, time) ← try
      let status ← within copy (untilEnd run inside)
      pure (status, (← world).elapsed)
    catch interruption =>
      match interruption with
      | .endless => pure (0, never)
      | other => throw other
  let after ← tree
  let change := if time = start then none else some (before, after)
  if change.isSome then setTree before
  changeJob process fun job => { job with status, time, change }
  changeWorld fun world =>
    { world with
      elapsed := start
      budget := world.budget + (budget - budget / 4)
      -- What the job has sent comes later to others.
      alarms := world.alarms.map fun alarm =>
        if alarm.sender = 0 && start < alarm.time then { alarm with sender := process } else alarm }
  changeOwn fun own => { own with children := process :: own.children, newest := some process }
  settle

/-- Send a signal to a job that has not ended yet. -/
def signalJob (process signal : Nat) : Action Unit := do
  if quietSignals.contains signal then return
  changeWorld fun world =>
    { world with
      jobs := world.jobs.map fun job =>
        if job.process = process && world.elapsed < job.time then
          { job with
            status := signalStatus signal, time := world.elapsed, wasKilled := true, change := none }
        else job
      prints := world.prints.filter fun print => print.process ≠ process
      alarms := world.alarms.filter fun alarm => alarm.sender ≠ process }

/-- Wait for the jobs that hold one of the first sinks. -/
def waitForAll (sinks : Nat) : Action Unit := do
  let times := ((← world).jobs.filter fun job => job.holds.any (· < sinks)).map Job.time
  changeWorld fun world => { world with elapsed := times.foldl max world.elapsed }
  settle

end Action

end Stencil.Shell
