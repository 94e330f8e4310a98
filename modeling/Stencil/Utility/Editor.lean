import Stencil.Utility.Edit

/-! # The stream editor

The editor takes its lines one by one. All commands of its script are run on a line, which
is printed in the end unless a command or an option says otherwise; a second line is held
beside it.
-/

namespace Stencil.Edit

open Shell (ByteText)

structure Editor where
  commands : Array Command
  /-- Whether lines are printed only when a command says so. -/
  quiet : Bool
  /-- The lines ahead, and whether each has an end. -/
  ahead : List (ByteText × Bool)
  line : ByteText := []
  hasEnd : Bool := true
  held : ByteText := []
  number : Nat := 0
  substituted : Bool := false
  /-- What is printed once the line is. -/
  queue : List ByteText := []
  lastRegex : Option (Regex × Bool) := none
  /-- The ranges that have begun, by the numbers of their commands, with their last lines if
      these are known. -/
  active : List (Nat × Option Nat) := []
  /-- Whether the last line that was printed lacks its end. -/
  lacksEnd : Bool := false

/-- What becomes of the line. -/
inductive Outcome where
  | finished
  | deleted
  /-- The commands are run again without another line. -/
  | again
  | quit (prints : Bool) (status : Nat)

abbrev Editing := StateT Editor Work

namespace Editing

def put (text : ByteText) (hasEnd : Bool) : Editing Unit := do
  let missing := (← get).lacksEnd
  Work.print ((if missing then ['\n'] else []) ++ text ++ if hasEnd then ['\n'] else [])
  modify fun editor => { editor with lacksEnd := !hasEnd }

def putLine : Editing Unit := do
  let editor ← get
  put editor.line editor.hasEnd

/-- Print what is to be printed behind the line. -/
def flush : Editing Unit := do
  for text in (← get).queue.reverse do
    if !text.isEmpty then
      let missing := (← get).lacksEnd
      Work.print ((if missing then ['\n'] else []) ++ text)
      modify fun editor => { editor with lacksEnd := false }
  modify fun editor => { editor with queue := [] }

def nextLine? : Editing (Option ByteText) := do
  match (← get).ahead with
  | [] => return none
  | (text, hasEnd) :: rest =>
    modify fun editor => { editor with ahead := rest, hasEnd, number := editor.number + 1 }
    return some text

/-- Whether an expression matches the line; it is remembered. -/
def matchesLine (regex? : Option Regex) (ignoresCase : Bool) : Editing Bool := do
  let editor ← get
  match (regex?.map fun regex => (regex, ignoresCase)) <|> editor.lastRegex with
  | none => Work.stop 1 ["-e expression #1, char 0: no previous regular expression".toList]
  | some (regex, ignoresCase) =>
    set { editor with lastRegex := some (regex, ignoresCase) }
    return regex.occursIn ignoresCase editor.line

/-- Whether an address is that of the line. -/
def isAt (address : Address) : Editing Bool := do
  let editor ← get
  match address with
  | .line number => return editor.number = number
  | .last => return editor.ahead.isEmpty
  | .pattern regex ignoresCase => matchesLine regex ignoresCase
  | .every first step =>
    return if step = 0 then editor.number = first
      else first ≤ editor.number && (editor.number - first) % step = 0
  | .behind _ | .multiple _ => return false

def beginRange (index : Nat) (last : Option Nat) : Editing Unit :=
  modify fun editor => { editor with active := (index, last) :: editor.active }

def endRange (index : Nat) : Editing Unit :=
  modify fun editor => { editor with active := editor.active.filter fun entry => entry.1 ≠ index }

def isInRange (index : Nat) (first second : Address) : Editing Bool := do
  let editor ← get
  match editor.active.lookup index with
  | some (some last) =>
    if last ≤ editor.number then endRange index
    return editor.number ≤ last
  | some none =>
    if ← isAt second then endRange index
    return true
  | none =>
    let begins ← match first with
      | .line 0 => pure (editor.number == 1)
      | first => isAt first
    if !begins then return false
    match second with
    | .line last => if editor.number < last then beginRange index (some last)
    | .behind count => if count ≠ 0 then beginRange index (some (editor.number + count))
    | .multiple step =>
      if step ≠ 0 && editor.number % step ≠ 0 then
        beginRange index (some ((editor.number / step + 1) * step))
    | .last => if !editor.ahead.isEmpty then beginRange index none
    | second =>
      -- A range from before the first line may end there.
      match first with
      | .line 0 => if !(← isAt second) then beginRange index none
      | _ => beginRange index none
    return true

def applies (index : Nat) (command : Command) : Editing Bool := do
  let chosen ← match command.first, command.second with
    | none, _ => pure true
    | some first, none => isAt first
    | some first, some second => isInRange index first second
  return chosen != command.negated

def replacementText (view : Regex.View) (found : Regex.Match) (parts : List ReplacementPart) :
    ByteText :=
  let step (state : ByteText × Option Char × Option Char) (part : ReplacementPart) :
      ByteText × Option Char × Option Char :=
    let (done, lasting, once) := state
    let add (text : ByteText) : ByteText × Option Char × Option Char :=
      let text := match lasting with
        | some 'U' => text.map Regex.upper
        | some 'L' => text.map Regex.lower
        | _ => text
      match once, text with
      | some 'u', c :: rest => (done ++ Regex.upper c :: rest, lasting, none)
      | some 'l', c :: rest => (done ++ Regex.lower c :: rest, lasting, none)
      | once, text => (done ++ text, lasting, once)
    match part with
    | .text text => add text
    | .group number => add ((found.group? view.text number).getD [])
    | .letters 'E' => (done, none, none)
    | .letters kind =>
      if kind = 'U' || kind = 'L' then (done, some kind, once) else (done, lasting, some kind)
  (parts.foldl step ([], none, none)).1

/-- Append a text to a file, or print it where the file is a stream. -/
def appendTo (name text : ByteText) : Editing Unit := do
  match ← Work.write name true text with
  | .ok () => pure ()
  | .error error =>
    Work.stop 4 ["couldn't open file ".toList, name, ": ".toList, Work.wording error]

def substitute (substitution : Substitution) : Editing Unit := do
  let editor ← get
  match (substitution.regex.map fun regex => (regex, substitution.ignoresCase)) <|> editor.lastRegex with
  | none => Work.stop 1 ["-e expression #1, char 0: no previous regular expression".toList]
  | some (regex, ignoresCase) =>
    set { editor with lastRegex := some (regex, ignoresCase) }
    let view : Regex.View := { text := editor.line.toArray, ignoresCase }
    let found := if substitution.everywhere || substitution.number ≠ 1 then regex.allMatches view
      else (regex.search? view 0).toList
    let wanted := found.drop (substitution.number - 1)
    let wanted := if substitution.everywhere then wanted else wanted.take 1
    if wanted.isEmpty then return
    let (done, place) := wanted.foldl
      (fun (state : List ByteText × Nat) found =>
        let between := (view.text.extract state.2 found.first).toList
        (replacementText view found substitution.replacement :: between :: state.1, found.last))
      ([], 0)
    let rest := (view.text.extract place view.text.size).toList
    let line := (rest :: done).reverse.flatten
    modify fun editor => { editor with line, substituted := true }
    if substitution.prints then putLine
    match substitution.file with
    | some name => appendTo name (line ++ ['\n'])
    | none => pure ()

/-- A text as `l` shows it, in pieces that fit a line. -/
def shownPieces (text : ByteText) : List ByteText :=
  let octal (c : Char) : ByteText :=
    let digits := Nat.toDigits 8 c.toNat
    '\\' :: List.replicate (3 - digits.length) '0' ++ digits
  text.map fun c =>
    match c with
    | '\\' => "\\\\".toList
    | '\x07' => "\\a".toList
    | '\x08' => "\\b".toList
    | '\x0c' => "\\f".toList
    | '\n' => "\\n".toList
    | '\r' => "\\r".toList
    | '\t' => "\\t".toList
    | '\x0b' => "\\v".toList
    | c => if ' ' ≤ c && c ≤ '~' then [c] else octal c

/-- Pieces laid out in lines of at most the given width. -/
def layPieces (width : Nat) (pieces : List ByteText) : ByteText :=
  let step (state : ByteText × Nat) (piece : ByteText) : ByteText × Nat :=
    if width ≤ state.2 + piece.length then (state.1 ++ "\\\n".toList ++ piece, piece.length)
    else (state.1 ++ piece, state.2 + piece.length)
  (pieces.foldl step ([], 0)).1 ++ ['$']

/-- The number of the command behind a label; the end if there is no label. -/
def targetOf (commands : Array Command) (label : ByteText) : Nat :=
  if label.isEmpty then commands.size
  else
    match commands.findIdx? fun command =>
      match command.action with
      | .jump ':' other => other = label
      | _ => false with
    | some index => index + 1
    | none => commands.size

/-- Where the commands go on behind one of them. -/
inductive Move where
  | next
  | jump (index : Nat)
  | leave (outcome : Outcome)

/-- Take another line, once what waits behind this one is printed. -/
def takeLine (join : ByteText → ByteText → ByteText) : Editing Move := do
  flush
  let next := (← nextLine?).getD []
  modify fun editor => { editor with line := join editor.line next }
  return .next

/-- Take the next line in place of this one. -/
def replaceLine : Editing Move := do
  let editor ← get
  if editor.ahead.isEmpty then return .leave (.quit true 0)
  if !editor.quiet then putLine
  takeLine fun _ next => next

/-- Take the next line behind this one. -/
def appendLine : Editing Move := do
  if (← get).ahead.isEmpty then return .leave (.quit true 0)
  takeLine fun line next => line ++ '\n' :: next

/-- Drop the line up to its first break; all of it if it has none. -/
def dropFirst : Editing Move := do
  match Text.splitFirst? '\n' (← get).line with
  | none => return .leave .deleted
  | some (_, rest) =>
    modify fun editor => { editor with line := rest }
    return .leave .again

/-- The commands that only print what the editor knows. -/
def showPlain (letter : Char) : Editing Unit := do
  let editor ← get
  match letter with
  | 'p' => putLine
  | 'P' => put (editor.line.takeWhile (· != '\n')) true
  | '=' => put (ByteText.ofNat editor.number) true
  | 'l' => put (layPieces 69 (shownPieces editor.line)) true
  | 'F' => put ['-'] true
  | _ => pure ()

/-- The commands that move text between the line and the line beside it. -/
def exchange (letter : Char) (editor : Editor) : Editor :=
  match letter with
  | 'g' => { editor with line := editor.held }
  | 'G' => { editor with line := editor.line ++ '\n' :: editor.held }
  | 'h' => { editor with held := editor.line }
  | 'H' => { editor with held := editor.held ++ '\n' :: editor.line }
  | 'x' => { editor with line := editor.held, held := editor.line }
  | 'z' => { editor with line := [] }
  | _ => editor

def runPlain (letter : Char) : Editing Move := do
  match letter with
  | 'd' => return .leave .deleted
  | 'D' => dropFirst
  | 'n' => replaceLine
  | 'N' => appendLine
  | letter =>
    showPlain letter
    modify (exchange letter)
    return .next

def transliterate (sources targets : ByteText) (text : ByteText) : ByteText :=
  text.map fun c =>
    match sources.idxOf? c with
    | some i => (targets[i]?).getD c
    | none => c

/-- Put a text in place of the lines that a command chooses, at the last of them. -/
def change (index : Nat) (command : Command) (text : ByteText) : Editing Move := do
  let inRange := (← get).active.any fun entry => entry.1 = index
  if command.second.isNone || command.negated || !inRange then put text.dropLast true
  return .leave .deleted

/-- The commands that come with a text, or with the name of a file. -/
def runTexted (letter : Char) (text : ByteText) : Editing Unit := do
  let enqueue (text : ByteText) : Editing Unit :=
    modify fun editor => { editor with queue := text :: editor.queue }
  match letter with
  | 'a' => enqueue text
  | 'i' => put text.dropLast true
  | 'r' =>
    match ← Work.read text with
    | .ok text => enqueue text
    | .error _ => pure ()
  | 'w' => appendTo text ((← get).line ++ ['\n'])
  | 'W' => appendTo text ((← get).line.takeWhile (· != '\n') ++ ['\n'])
  | _ => pure ()

/-- Whether a jump is made. One that asks for a substitution forgets it. -/
def jumps (letter : Char) : Editing Bool := do
  let substituted := (← get).substituted
  if letter = 't' || letter = 'T' then modify fun editor => { editor with substituted := false }
  return match letter with
    | 'b' => true
    | 't' => substituted
    | 'T' => !substituted
    | _ => false

def runCommand (index : Nat) (command : Command) : Editing Move := do
  match command.action with
  | .opening _ | .closing => return .next
  | .substitute substitution =>
    substitute substitution
    return .next
  | .transliterate sources targets =>
    modify fun editor => { editor with line := transliterate sources targets editor.line }
    return .next
  | .texted 'c' text => change index command text
  | .texted letter text =>
    runTexted letter text
    return .next
  | .jump letter label =>
    if ← jumps letter then return .jump (targetOf (← get).commands label)
    return .next
  | .quit letter status => return .leave (.quit (letter = 'q') status)
  | .plain letter => runPlain letter

/-- A command that does not apply to the line is passed over, with all it encloses. -/
def passOver (command : Command) : Move :=
  match command.action with
  | .opening last => .jump (last + 1)
  | _ => .next

/-- Run the commands from a number on. -/
def runFrom (fuel index : Nat) : Editing Outcome := do
  match fuel with
  | 0 => return .quit false Work.endless
  | fuel + 1 =>
    match (← get).commands[index]? with
    | none => return .finished
    | some command =>
      let move ← if ← applies index command then runCommand index command
        else pure (passOver command)
      match move with
      | .next => runFrom fuel (index + 1)
      | .jump target => runFrom fuel target
      | .leave outcome => return outcome

/-- How many commands are run for one line at most. -/
def mostSteps : Nat := 200000

/-- Take lines until there are none, or until a command ends the work; the status. -/
def runLines (fuel : Nat) (keepsLine : Bool) : Editing Nat := do
  match fuel with
  | 0 => return 0
  | fuel + 1 =>
    if !keepsLine then
      match ← nextLine? with
      | none => return 0
      | some line => modify fun editor => { editor with line, substituted := false }
    match ← runFrom mostSteps 0 with
    | .finished =>
      if !(← get).quiet then putLine
      flush
      runLines fuel false
    | .deleted =>
      flush
      runLines fuel false
    | .again =>
      flush
      runLines fuel true
    | .quit prints status =>
      if prints && !(← get).quiet then putLine
      if prints then flush
      return status

end Editing

def writtenFiles (commands : List Command) : List ByteText :=
  commands.filterMap fun command =>
    match command.action with
    | .substitute substitution => substitution.file
    | .texted 'w' name | .texted 'W' name => some name
    | _ => none

/-- Lines with a mark for those that have an end. -/
def markedLines (text : ByteText) : List (ByteText × Bool) :=
  let lines := ByteText.lines text
  let complete := text.getLast? = some '\n'
  lines.mapIdx fun i line => (line, complete || i + 1 < lines.length)

/-- Whether an argument asks for files to be changed in their places. An ending may follow at
    once. -/
def isInPlace (word : ByteText) : Bool :=
  match word with
  | '-' :: 'i' :: _ => true
  | _ => (Text.dropLead? "--in-place".toList word).isSome

def options : UtilityOptions :=
  { flags := "nErsuz", valued := "ef"
    long := [("quiet", 'n'), ("silent", 'n'), ("regexp-extended", 'E'), ("expression", 'e'),
      ("file", 'f'), ("separate", 's'), ("in-place", 'i')]
    name := "sed" }

/-- The script, and the names of the files to edit. -/
def script (given : Arguments) : Work (ByteText × List ByteText) := do
  let fromFiles ← (given.values 'f').mapM fun name => do
    match ← Work.read name with
    | .ok text => pure (if text.getLast? = some '\n' then text.dropLast else text)
    | .error error => Work.stop 1 ["couldn't open file ".toList, name, ": ".toList, Work.wording error]
  if given.has 'e' || given.has 'f' then
    return (Text.join ['\n'] (given.values 'e' ++ fromFiles), given.operands)
  match given.operands with
  | script :: names => return (script, names)
  | [] =>
    Work.mutter "Usage: sed [OPTION]... \x7bscript-only-if-no-other-script\x7d [input-file]...\n".toList
    throw 1

def complaint (name : ByteText) (error : FileError) : List ByteText :=
  match error with
  | .isAFolder => ["couldn't edit ".toList, name, ": not a regular file".toList]
  | _ => ["can't read ".toList, name, ": ".toList, Work.wording error]

section Lines

-- How lines are edited: the status, and the lines that were not taken.
variable (edit : List (ByteText × Bool) → Work (Nat × List (ByteText × Bool)))

/-- Edit each file and leave in it what is printed. -/
def editInPlace (names : List ByteText) : Work Nat := do
  let mut status := 0
  for name in names do
    match ← Work.read name with
    | .error error =>
      Work.complainOf (complaint name error)
      status := 4
    | .ok text =>
      let kept := (← get).output
      modify fun desk => { desk with output := ByteArray.empty }
      let (code, _) ← edit (markedLines text)
      let edited := (← get).output
      modify fun desk => { desk with output := kept }
      let _ ← Work.write name false (ByteText.ofBytes edited)
      if code ≠ 0 then status := code
  return status

/-- Edit the lines of all files as one text. -/
def editThrough (names : List ByteText) : Work Nat := do
  let (texts, failed) ← Work.readAll names complaint
  -- Only the last line of all may lack its end.
  let lines := texts.flatMap fun (_, text) => markedLines text
  let count := lines.length
  let lines := lines.mapIdx fun i (line, hasEnd) => (line, hasEnd || i + 1 < count)
  let (status, rest) ← edit lines
  if names.isEmpty then
    modify fun desk => { desk with input := ByteText.unlines (rest.map Prod.fst) }
  return if failed ≠ 0 then 2 else status

end Lines

end Stencil.Edit

namespace Stencil.Utility

open Shell (ByteText)

def sed : Utility := fun arguments => do
  let inPlace := arguments.any Edit.isInPlace
  let given ← Edit.options.read
    (arguments.map fun word => if Edit.isInPlace word then ['-', 's'] else word)
  let style : Regex.Style := if given.has 'E' || given.has 'r' then .extended else .basic
  let (script, names) ← Edit.script given
  let commands ← match Edit.read style script with
    | .ok commands => pure commands
    | .error wording => Work.stop 1 [wording.toList]
  for name in Edit.writtenFiles commands do
    let _ ← Work.write name false []
  let quiet := given.has 'n' || "#n\n".toList.isPrefixOf script || script = "#n".toList
  let edit (lines : List (ByteText × Bool)) : Work (Nat × List (ByteText × Bool)) := do
    let start : Edit.Editor := { commands := commands.toArray, quiet, ahead := lines }
    let (status, editor) ← (Edit.Editing.runLines (2 * lines.length + 100000) false).run start
    return (status, editor.ahead)
  if inPlace then Edit.editInPlace edit names else Edit.editThrough edit names

end Stencil.Utility
