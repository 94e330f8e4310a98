import Stencil.Shell.Token

/-! # Reading scripts

A list of commands is read token by token, with one token of looking ahead. Lists stand in
compound commands and in words; each function is given the one that reads lists inside of
it, so that the depth of lists bounds the reading. A script is read line by line: what
precedes a faulty line are commands all the same.
-/

namespace Stencil.Shell

/-- How the lists in a command are read; an empty list is a fault unless it is allowed. -/
abbrev ListReading := (mayBeEmpty : Bool) → Reading (List Command)

namespace Reading

/-- What the readers of commands have in common: a bound of their steps, how lists inside
    of them are read, and how commands in words are read. -/
structure Grammar where
  fuel : Nat
  list : ListReading
  nested : Nested

namespace Grammar

def token (grammar : Grammar) : Reading Token :=
  Reading.token grammar.fuel grammar.nested

def peek (grammar : Grammar) : Reading Token :=
  peekToken grammar.fuel grammar.nested

def skipLines (grammar : Grammar) : Reading Unit :=
  skipNewlines grammar.fuel grammar.nested

/-- Pass over a word of the grammar. -/
def expect (grammar : Grammar) (wanted : String) : Reading Unit := do
  let token ← grammar.token
  if token.keyword? ≠ some wanted then expected token wanted

def expectClosing (grammar : Grammar) : Reading Unit := do
  match ← grammar.token with
  | .operator .closing => return
  | token => expected token ")"

def redirections (grammar : Grammar) (fuel : Nat) : Reading (List Redirection) := do
  match fuel with
  | 0 => return []
  | fuel + 1 =>
    match ← grammar.token with
    | .redirection redirection => return redirection :: (← grammar.redirections fuel)
    | token =>
      keep token
      return []

def withRedirections (grammar : Grammar) (command : Command) : Reading Command := do
  let line := (← get).line
  let redirections ← grammar.redirections grammar.fuel
  return if redirections.isEmpty then command else .redirected line command redirections

def words (grammar : Grammar) (fuel : Nat) : Reading (List Word) := do
  match fuel with
  | 0 => return []
  | fuel + 1 =>
    match ← grammar.token with
    | .word word => return word :: (← grammar.words fuel)
    | token =>
      keep token
      return []

/-- The rest of a choice, from behind its first word. -/
def choice (grammar : Grammar) (fuel : Nat) : Reading Command := do
  match fuel with
  | 0 => fail "Syntax error: choice"
  | fuel + 1 =>
    let test ← grammar.list false
    grammar.expect "then"
    let body ← grammar.list false
    let token ← grammar.token
    match token.keyword? with
    | some "fi" => return .choice test body []
    | some "elif" => return .choice test body [← grammar.choice fuel]
    | some "else" =>
      let otherwise ← grammar.list false
      grammar.expect "fi"
      return .choice test body otherwise
    | _ => expected token "fi"

def body (grammar : Grammar) : Reading (List Command) := do
  let commands ← grammar.list false
  grammar.expect "done"
  return commands

/-- A loop over words, from behind its first word. -/
def each (grammar : Grammar) : Reading Command := do
  let token ← grammar.token
  let line := (← get).line
  match token with
  | .word [.text name] =>
    if !isName name then fail "Syntax error: Bad for loop variable"
    grammar.skipLines
    let token ← grammar.token
    let words ← match token with
      | .word [.text ['i', 'n']] =>
        let words ← grammar.words grammar.fuel
        match ← grammar.token with
        | .operator .newline | .operator .semicolon => pure (some words)
        | token => unexpected token
      | .operator .semicolon => pure none
      | token =>
        keep token
        pure none
    grammar.skipLines
    grammar.expect "do"
    return .each line name words (← grammar.body)
  | _ => fail "Syntax error: Bad for loop variable"

def patterns (grammar : Grammar) (fuel : Nat) (first : Token) : Reading (List Word) := do
  match fuel with
  | 0 => return []
  | fuel + 1 =>
    let pattern := match first with
      | .word word => word
      | _ => []
    match ← grammar.token with
    | .operator .bar => return pattern :: (← grammar.patterns fuel (← grammar.token))
    | token =>
      keep token
      return [pattern]

/-- The branches of a case and its last word. -/
def branches (grammar : Grammar) (fuel : Nat) :
    Reading (List (List Word × List Command)) := do
  match fuel with
  | 0 => return []
  | fuel + 1 =>
    grammar.skipLines
    let token ← grammar.token
    if token.keyword? = some "esac" then return []
    let first ← match token with
      | .operator .opening => grammar.token
      | token => pure token
    let patterns ← grammar.patterns grammar.fuel first
    grammar.expectClosing
    let body ← grammar.list true
    grammar.skipLines
    let token ← grammar.token
    match token with
    | .operator .doubleSemicolon => return (patterns, body) :: (← grammar.branches fuel)
    | token =>
      if token.keyword? = some "esac" then return [(patterns, body)]
      expected token ";;"

/-- A case, from behind its first word. -/
def cases (grammar : Grammar) : Reading Command := do
  let token ← grammar.token
  let line := (← get).line
  match token with
  | .word subject =>
    grammar.skipLines
    match ← grammar.token with
    | .word [.text ['i', 'n']] => return .cases line subject (← grammar.branches grammar.fuel)
    | token => expected token "in"
  | token => expected token "word"

/-- The name and the value of the assignment that a word is. -/
def assignment? (word : Word) : Option (ByteText × Word) :=
  match word with
  | .text text :: rest =>
    match Text.splitFirst? '=' text with
    | some (name, value) =>
      if isName name then some (name, if value.isEmpty then rest else .text value :: rest)
      else none
    | none => none
  | _ => none

/-- What a simple command is made of, in reverse. -/
structure Simple where
  assignments : List (ByteText × Word) := []
  words : List Word := []
  redirections : List Redirection := []

/-- The rest of a simple command. -/
def simple (grammar : Grammar) (fuel : Nat) (parts : Simple) : Reading Simple := do
  match fuel with
  | 0 => return parts
  | fuel + 1 =>
    match ← grammar.token with
    | .redirection redirection =>
      grammar.simple fuel { parts with redirections := redirection :: parts.redirections }
    | .word word =>
      match if parts.words.isEmpty then assignment? word else none with
      | some assignment =>
        grammar.simple fuel { parts with assignments := assignment :: parts.assignments }
      | none => grammar.simple fuel { parts with words := word :: parts.words }
    | token =>
      keep token
      return parts

/-- Builtin commands whose names no function may have. -/
def specialNames : List String :=
  [".", ":", "break", "continue", "eval", "exec", "exit", "export", "readonly", "return",
   "set", "shift", "times", "trap", "unset"]

def command (grammar : Grammar) (fuel : Nat) : Reading Command := do
  match fuel with
  | 0 => fail "Syntax error: command"
  | fuel + 1 =>
    let token ← grammar.token
    match token with
    | .operator .opening =>
      let body ← grammar.list false
      grammar.expectClosing
      grammar.withRedirections (.apart body)
    | .ending | .operator _ => unexpected token
    | .word _ | .redirection _ =>
      match token.keyword? with
      | some "\x7b" =>
        let body ← grammar.list false
        grammar.expect "\x7d"
        grammar.withRedirections (.group body)
      | some "if" => grammar.withRedirections (← grammar.choice grammar.fuel)
      | some "for" => grammar.withRedirections (← grammar.each)
      | some "case" => grammar.withRedirections (← grammar.cases)
      | some "while" =>
        let test ← grammar.list false
        grammar.expect "do"
        grammar.withRedirections (.again true test (← grammar.body))
      | some "until" =>
        let test ← grammar.list false
        grammar.expect "do"
        grammar.withRedirections (.again false test (← grammar.body))
      | some _ => unexpected token
      | none =>
        let line := (← get).line
        keep token
        let parts ← grammar.simple grammar.fuel {}
        match parts, ← grammar.token with
        | { assignments := [], words := [name], redirections := [] }, .operator .opening =>
          let token ← grammar.token
          if let .word _ := token then
            fail "Syntax error: word unexpected (expecting \x22)\x22)"
          keep token
          grammar.expectClosing
          let text := plainText name
          if isQuotedWord name || !isName text || specialNames.contains (String.ofList text) then
            fail "Syntax error: Bad function name"
          grammar.skipLines
          return .function text (← grammar.command fuel)
        | parts, token =>
          keep token
          return .simple line parts.assignments.reverse parts.words.reverse
            parts.redirections.reverse

def stages (grammar : Grammar) (fuel : Nat) : Reading (List Command) := do
  match fuel with
  | 0 => return []
  | fuel + 1 =>
    let command ← grammar.command grammar.fuel
    match ← grammar.token with
    | .operator .bar =>
      grammar.skipLines
      return command :: (← grammar.stages fuel)
    | token =>
      keep token
      return [command]

def pipeline (grammar : Grammar) : Reading Command := do
  grammar.skipLines
  let token ← grammar.token
  let isNegated := token.keyword? = some "!"
  if !isNegated then keep token
  let command ← match ← grammar.stages grammar.fuel with
    | [command] => pure command
    | commands => pure (.pipeline commands)
  return if isNegated then .negated command else command

/-- Further pipelines that run depending on the success of what comes before them. -/
def chain (grammar : Grammar) (fuel : Nat) (first : Command) : Reading Command := do
  match fuel with
  | 0 => return first
  | fuel + 1 =>
    match ← grammar.token with
    | .operator .conjunction => grammar.chain fuel (.both first (← grammar.pipeline))
    | .operator .disjunction => grammar.chain fuel (.either first (← grammar.pipeline))
    | token =>
      keep token
      return first

/-- Pipelines that depend on each other. -/
def andOr (grammar : Grammar) : Reading Command := do
  grammar.chain grammar.fuel (← grammar.pipeline)

def commands (grammar : Grammar) (fuel : Nat) (mayBeEmpty : Bool) : Reading (List Command) := do
  match fuel with
  | 0 => return []
  | fuel + 1 =>
    grammar.skipLines
    let ahead ← grammar.peek
    if mayBeEmpty && ahead.endsList then return []
    if let .ending := ahead then return []
    let command ← grammar.andOr
    match ← grammar.token with
    | .operator .ampersand => return .background command :: (← grammar.commands fuel true)
    | .operator .semicolon | .operator .newline =>
      return command :: (← grammar.commands fuel true)
    | token =>
      keep token
      return [command]

/-- The commands up to the end of the line, and whether more may follow. -/
def line (grammar : Grammar) (fuel : Nat) : Reading (List Command × Bool) := do
  match fuel with
  | 0 => return ([], false)
  | fuel + 1 =>
    match ← grammar.token with
    | .operator .newline => return ([], true)
    | .ending => return ([], false)
    | token =>
      keep token
      let command ← grammar.andOr
      match ← grammar.token with
      | .operator .newline => return ([command], true)
      | .ending => return ([command], false)
      | .operator .semicolon =>
        let (rest, more) ← grammar.line fuel
        return (command :: rest, more)
      | .operator .ampersand =>
        let (rest, more) ← grammar.line fuel
        return (.background command :: rest, more)
      | token => unexpected token

end Grammar

/-- How commands in words are read, given how a list of them is. -/
def nestedIn (fuel : Nat) (list : ListReading) : Nested := fun inParentheses => do
  let commands ← list true
  let token ← token fuel fun _ => list true
  match token, inParentheses with
  | .operator .closing, true | .ending, false => return commands
  | token, true => expected token ")"
  | token, false => unexpected token

/-- The grammar of commands in which lists are read as given. -/
def grammarOver (fuel : Nat) (list : ListReading) : Grammar :=
  { fuel, list, nested := nestedIn fuel list }

/-- Read a list of commands with lists of a given depth inside. -/
def list (fuel : Nat) : (depth : Nat) → ListReading
  | 0, _ => fail "Syntax error: nested too deep"
  | depth + 1, mayBeEmpty => (grammarOver fuel (list fuel depth)).commands fuel mayBeEmpty

end Reading

/-- Read lines up to the end of the text or to a fault. -/
def readLines (grammar : Reading.Grammar) (fuel : Nat) (cursor : Cursor)
    (done : List (List Command)) : Script :=
  match fuel with
  | 0 => { commands := done.reverse.flatten, fault := none }
  | fuel + 1 =>
    match grammar.line grammar.fuel cursor with
    | .error fault _ => { commands := done.reverse.flatten, fault := some fault }
    | .ok (commands, more) cursor =>
      let done := commands :: done
      if more then readLines grammar fuel cursor done
      else { commands := done.reverse.flatten, fault := none }

def readScript (text : ByteText) : Script :=
  let bound := text.length + 8
  readLines (Reading.grammarOver bound (Reading.list bound bound)) bound
    { rest := text, line := 1, taken := 0, kept := none } []

end Stencil.Shell
