import Stencil.Regex.Reader
import Stencil.Utility.Lines

/-! # Scripts of the stream editor

A script of the stream editor is a list of commands, each of which applies to the lines that
its addresses choose. Blocks of commands are laid out in a row: the opening knows where its
block ends. A text that is no script is faulty at one of its characters.
-/

namespace Stencil.Edit

open Shell (ByteText)

/-- Which line an address is. -/
inductive Address where
  | line (number : Nat)
  | last
  /-- Lines that the expression matches; none stands for the one used last. -/
  | pattern (regex : Option Regex) (ignoresCase : Bool)
  /-- Lines from a first one in steps. -/
  | every (first step : Nat)
  /-- A number of lines behind the first address. -/
  | behind (count : Nat)
  /-- The next line with a multiple as its number. -/
  | multiple (step : Nat)

inductive ReplacementPart where
  | text (text : ByteText)
  /-- What a group matched; the number zero is for all of the match. -/
  | group (number : Nat)
  /-- A change of letters: `U` and `L` up to `E`, `u` and `l` for one character. -/
  | letters (kind : Char)

/-- How a text is substituted. -/
structure Substitution where
  regex : Option Regex
  replacement : List ReplacementPart
  everywhere : Bool := false
  /-- The number of the first match that is replaced. -/
  number : Nat := 1
  prints : Bool := false
  ignoresCase : Bool := false
  file : Option ByteText := none

/-- What a command does. -/
inductive Action where
  /-- Begin a block that ends at the given command. -/
  | opening (last : Nat)
  | closing
  | substitute (substitution : Substitution)
  | transliterate (sources targets : ByteText)
  /-- A command with a text or a file name. -/
  | texted (letter : Char) (text : ByteText)
  /-- A command with a label or without one. -/
  | jump (letter : Char) (label : ByteText)
  /-- A command with a status. -/
  | quit (letter : Char) (status : Nat)
  | plain (letter : Char)

structure Command where
  first : Option Address
  second : Option Address
  negated : Bool
  action : Action

/-- A text that was read up to a point: what is ahead, and how many characters were read. -/
structure Progress where
  rest : ByteText
  count : Nat
  style : Regex.Style

/-- Something that is read; a fault knows the number of its character. -/
abbrev Reading := EStateM (Nat × String) Progress

/-- The text is faulty here. -/
def fault {α : Type} (wording : String) : Reading α := do
  throw ((← get).count, wording)

def peek? : Reading (Option Char) := do
  return (← get).rest.head?

def skip (count : Nat) : Reading Unit :=
  modify fun progress =>
    { progress with rest := progress.rest.drop count, count := progress.count + min count progress.rest.length }

/-- The next character; the end counts as one. -/
def next? : Reading (Option Char) := do
  let c ← peek?
  if c.isSome then skip 1
  else modify fun progress => { progress with count := progress.count + 1 }
  return c

/-- Pass over the characters of one kind. -/
def takeWhile (holds : Char → Bool) : Reading ByteText := do
  let taken := (← get).rest.takeWhile holds
  skip taken.length
  return taken

def number : Reading Nat := do
  let digits ← takeWhile Char.isDigit
  return (Text.decimal? digits).getD 0

/-- A text up to a mark. A mark behind a reverse solidus is part of it, and stands without
    the solidus. In an expression, a mark in brackets is part of it, too. -/
def delimited (fuel : Nat) (mark : Char) (isRegex : Bool) : Reading (Option ByteText) := do
  match fuel with
  | 0 => return none
  | fuel + 1 =>
    match ← peek? with
    | none => return none
    | some c =>
      skip 1
      if c = mark then return some []
      else if c = '\\' then
        match ← peek? with
        | none => return none
        | some e =>
          skip 1
          let piece : ByteText :=
            if e = mark then
              if isRegex && ".*[]^$+?(){}|".toList.contains mark then ['\\', e] else [e]
            else if e = 'n' && isRegex then ['\\', 'n']
            else ['\\', e]
          return (← delimited fuel mark isRegex).map (piece ++ ·)
      else if c = '\n' && isRegex then return none
      else if c = '[' && isRegex then
        let rest := (← get).rest
        let start := match rest with
          | '^' :: ']' :: _ => 2
          | '^' :: _ => 1
          | ']' :: _ => 1
          | _ => 0
        let inner := (rest.drop start).takeWhile (· != ']')
        if start + inner.length < rest.length && !(inner.contains '\n') then
          let set := rest.take (start + inner.length + 1)
          skip set.length
          return (← delimited fuel mark isRegex).map (c :: set ++ ·)
        else return (← delimited fuel mark isRegex).map (c :: ·)
      else return (← delimited fuel mark isRegex).map (c :: ·)

/-- The expression of a text; an empty one stands for the one used last. -/
def regexOf (text : ByteText) : Reading (Option Regex) := do
  if text.isEmpty then return none
  match Regex.read (← get).style text with
  | .ok regex => return some regex
  | .error error => fault error.message

def address? : Reading (Option Address) := do
  match ← peek? with
  | some '$' =>
    skip 1
    return some .last
  | some '/' =>
    skip 1
    pattern '/'
  | some '\\' =>
    skip 1
    match ← next? with
    | some mark => pattern mark
    | none => fault "unexpected \x60,'"
  | some c =>
    if c.isDigit then
      let first ← number
      if (← peek?) = some '~' then
        skip 1
        return some (.every first (← number))
      return some (.line first)
    return none
  | none => return none
where
  /-- The pattern of an address, from behind its first mark. -/
  pattern (mark : Char) : Reading (Option Address) := do
    match ← delimited (← get).rest.length.succ mark true with
    | none => fault "unterminated address regex"
    | some text =>
      let regex ← regexOf text
      let ignoresCase := (← peek?) = some 'I'
      if ignoresCase then skip 1
      return some (.pattern regex ignoresCase)

def secondAddress? : Reading (Option Address) := do
  match ← peek? with
  | some '+' =>
    skip 1
    return some (.behind (← number))
  | some '~' =>
    skip 1
    return some (.multiple (← number))
  | _ => address?

def replacementParts (fuel : Nat) (text : ByteText) : List ReplacementPart :=
  match fuel, text with
  | 0, _ | _, [] => []
  | fuel + 1, '&' :: rest => .group 0 :: replacementParts fuel rest
  | fuel + 1, '\\' :: c :: rest =>
    let part : ReplacementPart :=
      if c.isDigit then .group (c.toNat - '0'.toNat)
      else if "ULEul".toList.contains c then .letters c
      else match c with
        | 'n' => .text ['\n']
        | 't' => .text ['\t']
        | 'r' => .text ['\r']
        | 'a' => .text ['\x07']
        | 'f' => .text ['\x0c']
        | 'v' => .text ['\x0b']
        | c => .text [c]
    part :: replacementParts fuel rest
  | fuel + 1, c :: rest =>
    let plain := rest.takeWhile fun c => c != '&' && c != '\\'
    .text (c :: plain) :: replacementParts fuel (rest.drop plain.length)

def flags (fuel : Nat) (substitution : Substitution) : Reading Substitution := do
  match fuel with
  | 0 => return substitution
  | fuel + 1 =>
    match ← peek? with
    | some 'g' =>
      skip 1
      if substitution.everywhere then fault "multiple \x60g' options to \x60s' command"
      flags fuel { substitution with everywhere := true }
    | some 'p' =>
      skip 1
      if substitution.prints then fault "multiple \x60p' options to \x60s' command"
      flags fuel { substitution with prints := true }
    | some 'i' | some 'I' =>
      skip 1
      flags fuel { substitution with ignoresCase := true }
    | some 'm' | some 'M' | some 'e' =>
      skip 1
      flags fuel substitution
    | some 'w' =>
      skip 1
      let _ ← takeWhile ByteText.isGap
      let name ← takeWhile (· != '\n')
      if name.isEmpty then fault "missing filename in r/R/w/W commands"
      return { substitution with file := some name }
    | some c =>
      if c.isDigit then
        let number ← number
        if number = 0 then fault "number option to \x60s' command may not be zero"
        flags fuel { substitution with number }
      else if c = '\n' || c = ';' then
        skip 1
        return substitution
      else if c = '\x7d' || c = '#' then return substitution
      else if ByteText.isGap c || c = '\r' then
        skip 1
        flags fuel substitution
      else
        skip 1
        fault "unknown option to \x60s'"
    | none => return substitution

def substitution : Reading Action := do
  let unterminated := "unterminated \x60s' command"
  match ← next? with
  | none => fault unterminated
  | some mark =>
    if mark = '\n' || mark = '\\' then fault unterminated
    let fuel := (← get).rest.length + 1
    match ← delimited fuel mark true with
    | none => fault unterminated
    | some pattern =>
      match ← delimited fuel mark false with
      | none => fault unterminated
      | some replacement =>
        let parts := replacementParts (replacement.length + 1) replacement
        let start : Substitution := { regex := none, replacement := parts }
        let flagged ← flags fuel start
        let regex ← regexOf pattern
        let groups := Text.occurs (if (← get).style = .extended then ['('] else "\\(".toList) pattern
        let refersToNone := !groups && parts.any fun part =>
          match part with
          | .group number => number ≠ 0
          | _ => false
        if refersToNone then
          let number := (parts.findSome? fun part =>
            match part with
            | .group number => if number = 0 then none else some number
            | _ => none).getD 1
          fault ("invalid reference \\" ++ toString number ++ " on \x60s' command's RHS")
        return .substitute { flagged with regex }

/-- The text of a transliteration with its escapes replaced. -/
def plainCharacters : ByteText → ByteText
  | '\\' :: '\\' :: rest => '\\' :: plainCharacters rest
  | '\\' :: 'n' :: rest => '\n' :: plainCharacters rest
  | '\\' :: 't' :: rest => '\t' :: plainCharacters rest
  | c :: rest => c :: plainCharacters rest
  | [] => []

def transliteration : Reading Action := do
  let unterminated := "unterminated \x60y' command"
  match ← next? with
  | none => fault unterminated
  | some mark =>
    let fuel := (← get).rest.length + 1
    match ← delimited fuel mark false with
    | none => fault unterminated
    | some sources =>
      match ← delimited fuel mark false with
      | none => fault unterminated
      | some targets =>
        let (sources, targets) := (plainCharacters sources, plainCharacters targets)
        if sources.length ≠ targets.length then
          fault "strings for \x60y' command are different lengths"
        return .transliterate sources targets

/-- The lines of a text behind a command; a line goes on behind a reverse solidus. -/
def textLines (fuel : Nat) : Reading ByteText := do
  match fuel with
  | 0 => return []
  | fuel + 1 =>
    match ← next? with
    | none => return ['\n']
    | some '\n' => return ['\n']
    | some '\\' =>
      match ← next? with
      | none => return ['\n']
      | some c => return c :: (← textLines fuel)
    | some c => return c :: (← textLines fuel)

def addedText : Reading ByteText := do
  let _ ← takeWhile ByteText.isGap
  match ← peek? with
  | none => fault "expected \\ after \x60a', \x60c' or \x60i'"
  | some '\\' =>
    skip 1
    let _ ← takeWhile ByteText.isGap
    if (← peek?) = some '\n' then skip 1
    if (← peek?).isNone then fault "expected \\ after \x60a', \x60c' or \x60i'"
    textLines (← get).rest.length.succ
  | some _ => textLines (← get).rest.length.succ

/-- Pass over what may stand behind a command: blanks, and a semicolon or the end of its
    line. -/
def commandEnd : Reading Unit := do
  let _ ← takeWhile ByteText.isGap
  match ← peek? with
  | none => return
  | some c =>
    if c = ';' || c = '\n' then skip 1
    else if c = '\x7d' || c = '#' then return
    else
      skip 1
      fault "extra characters after command"

/-- What a command does, from its letter on; an opening does not know its end yet. -/
def action : Reading Action := do
  match ← next? with
  | none => fault "missing command"
  | some c =>
    match c with
    | '\x7b' => return .opening 0
    | '\x7d' =>
      commandEnd
      return .closing
    | 's' => substitution
    | 'y' =>
      let action ← transliteration
      commandEnd
      return action
    | 'a' | 'i' | 'c' => return .texted c (← addedText)
    | 'r' | 'w' | 'R' | 'W' =>
      let _ ← takeWhile ByteText.isGap
      let name ← takeWhile (· != '\n')
      if name.isEmpty then fault "missing filename in r/R/w/W commands"
      return .texted c name
    | 'b' | 't' | 'T' =>
      let _ ← takeWhile ByteText.isGap
      let label ← takeWhile fun c => c != '\n' && c != ';' && c != '\x7d'
      let label := (label.reverse.dropWhile ByteText.isSpace).reverse
      commandEnd
      return .jump c label
    | ':' =>
      let _ ← takeWhile ByteText.isGap
      let label ← takeWhile fun c => c != '\n' && c != ';'
      let label := (label.reverse.dropWhile ByteText.isSpace).reverse
      if label.isEmpty then fault "\":\" lacks a label"
      return .jump c label
    | 'q' | 'Q' =>
      let _ ← takeWhile ByteText.isGap
      let status ← number
      commandEnd
      return .quit c status
    | 'l' | 'L' =>
      let _ ← takeWhile ByteText.isGap
      let _ ← takeWhile Char.isDigit
      commandEnd
      return .plain c
    | '=' | 'd' | 'D' | 'g' | 'G' | 'h' | 'H' | 'n' | 'N' | 'p' | 'P' | 'x' | 'z' | 'F' =>
      commandEnd
      return .plain c
    | _ => fault ("unknown command: \x60" ++ String.ofList [c] ++ "'")

/-- Whether an action takes no address. -/
def takesNone (action : Action) : Bool :=
  match action with
  | .closing => true
  | .jump ':' _ => true
  | _ => false

def commands (fuel : Nat) : Reading (List Command) := do
  match fuel with
  | 0 => return []
  | fuel + 1 =>
    let _ ← takeWhile fun c => ByteText.isSpace c || c == ';'
    match ← peek? with
    | none => return []
    | some '#' =>
      let _ ← takeWhile (· != '\n')
      commands fuel
    | some _ =>
      let first ← address?
      let _ ← takeWhile ByteText.isGap
      let second ← do
        if (← peek?) = some ',' && first.isSome then
          skip 1
          let _ ← takeWhile ByteText.isGap
          match ← secondAddress? with
          | some second => pure (some second)
          | none => fault "unexpected \x60,'"
        else pure none
      let _ ← takeWhile ByteText.isGap
      let marks ← takeWhile fun c => c == '!' || ByteText.isGap c
      let action ← action
      if takesNone action && first.isSome then
        match action with
        | .closing => fault "\x7d doesn't want any addresses"
        | _ => fault ": doesn't want any addresses"
      return { first, second, negated := !marks.isEmpty, action } :: (← commands fuel)

/-- The number of the command that closes the block that is open before the given ones. -/
def closingOf? (depth number : Nat) : List Command → Option Nat
  | [] => none
  | command :: rest =>
    match command.action with
    | .opening _ => closingOf? (depth + 1) (number + 1) rest
    | .closing => if depth = 0 then some number else closingOf? (depth - 1) (number + 1) rest
    | _ => closingOf? depth (number + 1) rest

/-- The commands with openings that know where their blocks end; a fault if there is none. -/
def closeBlocks (depth number : Nat) : List Command → Except String (List Command)
  | [] => .ok []
  | command :: rest =>
    match command.action with
    | .opening _ =>
      match closingOf? 0 (number + 1) rest with
      | none => .error "unmatched \x60\x7b'"
      | some last => do
        return { command with action := .opening last } :: (← closeBlocks (depth + 1) (number + 1) rest)
    | .closing =>
      if depth = 0 then .error "unexpected \x60\x7d'"
      else do return command :: (← closeBlocks (depth - 1) (number + 1) rest)
    | _ => do return command :: (← closeBlocks depth (number + 1) rest)

/-- The label of a jump that leads nowhere. -/
def lostLabel? (commands : List Command) : Option ByteText :=
  let labels := commands.filterMap fun command =>
    match command.action with
    | .jump ':' label => some label
    | _ => none
  commands.findSome? fun command =>
    match command.action with
    | .jump letter label =>
      if letter ≠ ':' && !label.isEmpty && !labels.contains label then some label else none
    | _ => none

/-- Read a text as a script, or tell what is wrong with it. -/
def read (style : Regex.Style) (text : ByteText) : Except String (List Command) :=
  let place (count : Nat) (wording : String) : String :=
    "-e expression #1, char " ++ toString count ++ ": " ++ wording
  match commands (text.length + 1) { rest := text, count := 0, style } with
  | .error (count, wording) _ => .error (place count wording)
  | .ok commands progress =>
    match closeBlocks 0 0 commands with
    | .error wording =>
      .error (place (if wording.startsWith "unmatched" then 0 else progress.count) wording)
    | .ok commands =>
      match lostLabel? commands with
      | some label => .error ("can't find label for jump to \x60" ++ String.ofList label ++ "'")
      | none => .ok commands

end Stencil.Edit
