import Stencil.Shell.Cursor

/-! # Tokens of scripts

A token is an operator, a word, or a redirection with its word. A word is read part by part;
which characters are special in it depends on what it stands in. Commands may stand in a
word; how a list of them is read is given.
-/

namespace Stencil.Shell

/-- How commands in a word are read: up to a closing parenthesis, or to the end of the
    text. -/
abbrev Nested := (inParentheses : Bool) → Reading (List Command)

/-- What parts stand in. -/
inductive Surrounding where
  | word
  | braces
  | quotes
  /-- The braces of a parameter in double quotes. -/
  | quotedBraces
  /-- A document behind a command. -/
  | document
  | expression
  deriving Repr, DecidableEq

namespace Surrounding

/-- Whether a reverse solidus keeps the meaning of the character from it. -/
def escapes (surrounding : Surrounding) (c : Char) : Bool :=
  match surrounding with
  | .word | .braces => true
  | .quotes => "$\x60\x22\\".toList.contains c
  | .quotedBraces => "$\x60\x22\\\x7d".toList.contains c
  | .document => "$\x60\\".toList.contains c
  | .expression => "$\x60\\\x22".toList.contains c

def hasSingleQuotes : Surrounding → Bool
  | .word | .braces => true
  | .quotes | .quotedBraces | .document | .expression => false

/-- Whether what stands inside is in quotes already. -/
def isQuoted : Surrounding → Bool
  | .word | .braces => false
  | .quotes | .quotedBraces | .document | .expression => true

end Surrounding

/-- The parts with one more plain character; parts are in reverse, and so is the text of
    the first one. -/
def pushChar (c : Char) : List WordPart → List WordPart
  | .text text :: parts => .text (c :: text) :: parts
  | parts => .text [c] :: parts

/-- Parts that were collected in reverse. -/
def finishParts (parts : List WordPart) : List WordPart :=
  (parts.map fun part =>
    match part with
    | .text text => .text text.reverse
    | part => part).reverse

/-- How a parameter is used, and the length of the text that says so. -/
def useOf? (text : ByteText) : Option (ParameterUse × Nat) :=
  match text with
  | ':' :: '-' :: _ => some (.default true, 2)
  | ':' :: '=' :: _ => some (.assign true, 2)
  | ':' :: '?' :: _ => some (.demand true, 2)
  | ':' :: '+' :: _ => some (.alternative true, 2)
  | '-' :: _ => some (.default false, 1)
  | '=' :: _ => some (.assign false, 1)
  | '?' :: _ => some (.demand false, 1)
  | '+' :: _ => some (.alternative false, 1)
  | '#' :: '#' :: _ => some (.dropStart true, 2)
  | '#' :: _ => some (.dropStart false, 1)
  | '%' :: '%' :: _ => some (.dropEnd true, 2)
  | '%' :: _ => some (.dropEnd false, 1)
  | _ => none

/-- The name of a parameter at the start of the text; a number has one digit unless it
    stands in braces. -/
def parameterName (inBraces : Bool) (text : ByteText) : ByteText :=
  match text with
  | [] => []
  | c :: _ =>
    if c.isDigit then if inBraces then text.takeWhile Char.isDigit else [c]
    else if isNameChar c then text.takeWhile isNameChar
    else if specialParameters.contains c then [c]
    else []

/-- A text up to a reverse quotation mark, with the marks behind reverse solidi that
    protect it removed; none if there is no end. The second component is the number of
    characters up to the end. -/
def takeBackquoted? (inQuotes : Bool) : ByteText → Option (ByteText × Nat)
  | [] => none
  | '\x60' :: _ => some ([], 1)
  | '\\' :: c :: rest =>
    (takeBackquoted? inQuotes rest).map fun (text, count) =>
      if c = '$' || c = '\\' || c = '\x60' || (inQuotes && c = '\x22') then
        (c :: text, count + 2)
      else ('\\' :: c :: text, count + 2)
  | c :: rest => (takeBackquoted? inQuotes rest).map fun (text, count) => (c :: text, count + 1)

/-- The lines of a document up to its last line, and the text behind that. The count is of
    the lines taken. -/
def takeDocument (dropTabs : Bool) (last : ByteText) :
    (lines : List ByteText) → ByteText × List ByteText × Nat
  | [] => ([], [], 0)
  | line :: rest =>
    let line := if dropTabs then line.dropWhile (· == '\t') else line
    if line = last then ([], rest, 1)
    else if rest.isEmpty then (line, [], 1)
    else
      let (text, after, count) := takeDocument dropTabs last rest
      (line ++ '\n' :: text, after, count + 1)

namespace Reading

/-- Take the document out of the text behind the present line. -/
def cutDocument (dropTabs : Bool) (last : ByteText) : Reading ByteText := do
  let cursor ← get
  match Text.splitFirst? '\n' cursor.rest with
  | none => return []
  | some (before, behind) =>
    let (text, after, count) := takeDocument dropTabs last (Text.splitAll '\n' behind)
    set { cursor with
      rest := before ++ '\n' :: Text.join ['\n'] after, taken := cursor.taken + count }
    return text

/-- The use of a parameter in braces whose use is not known, and all up to the brace. -/
def faultyParameter : Reading WordPart := do
  let _ ← takeWhile (· != '\x7d')
  if (← next?).isNone then fail "Syntax error: Missing '\x7d'"
  return .parameter [] .faulty []

mutual

/-- The parts up to the end of their surroundings, in reverse, behind those that are given.
    The depth is that of parentheses in an expression. -/
def parts (fuel : Nat) (commands : Nested) (surrounding : Surrounding)
    (depth : Nat) (done : List WordPart) : Reading (List WordPart) := do
  match fuel with
  | 0 => fail "Syntax error: Unterminated quoted string"
  | fuel + 1 =>
    match ← peek? with
    | none =>
      match surrounding with
      | .word | .document => return done
      | .quotes => fail "Syntax error: Unterminated quoted string"
      | .braces | .quotedBraces => fail "Syntax error: Missing '\x7d'"
      | .expression => fail "Syntax error: Missing '))'"
    | some c =>
      if surrounding = .word && endsWord c then return done
      skip 1
      match c with
      | '\\' =>
        match ← next? with
        | none => parts fuel commands surrounding depth (pushChar '\\' done)
        | some '\n' => parts fuel commands surrounding depth done
        | some e =>
          if surrounding.escapes e then
            parts fuel commands surrounding depth (.literal [e] :: done)
          else parts fuel commands surrounding depth (pushChar e (pushChar '\\' done))
      | '$' =>
        let part ← dollar fuel commands surrounding
        match part with
        | .text text => parts fuel commands surrounding depth (text.foldl (fun d c => pushChar c d) done)
        | part => parts fuel commands surrounding depth (part :: done)
      | '\x60' =>
        match takeBackquoted? surrounding.isQuoted (← get).rest with
        | none =>
          skip (← get).rest.length
          fail "Syntax error: EOF in backquote substitution"
        | some (text, count) =>
          let inner ← apart text (commands false)
          skip count
          parts fuel commands surrounding depth (.output inner :: done)
      | '\x27' =>
        if surrounding.hasSingleQuotes then
          let inner ← takeWhile (· != '\x27')
          if (← next?).isNone then fail "Syntax error: Unterminated quoted string"
          parts fuel commands surrounding depth (.literal inner :: done)
        else parts fuel commands surrounding depth (pushChar c done)
      | '\x22' =>
        match surrounding with
        | .quotes => return done
        | .document | .expression => parts fuel commands surrounding depth (pushChar c done)
        | .word | .braces | .quotedBraces =>
          let inner ← parts fuel commands .quotes 0 []
          parts fuel commands surrounding depth (.quoted (finishParts inner) :: done)
      | '\x7d' =>
        match surrounding with
        | .braces | .quotedBraces => return done
        | _ => parts fuel commands surrounding depth (pushChar c done)
      | '(' =>
        parts fuel commands surrounding (depth + 1) (pushChar c done)
      | ')' =>
        if surrounding = .expression && depth = 0 && (← peek?) = some ')' then
          skip 1
          return done
        else parts fuel commands surrounding (depth - 1) (pushChar c done)
      | c => parts fuel commands surrounding depth (pushChar c done)

/-- What stands behind a dollar sign. -/
def dollar (fuel : Nat) (commands : Nested) (surrounding : Surrounding) :
    Reading WordPart := do
  match fuel with
  | 0 => fail "Syntax error: Unterminated quoted string"
  | fuel + 1 =>
    if ← isAhead "((" then
      skip 2
      let inner ← parts fuel commands .expression 0 []
      return .number (finishParts inner)
    else if ← isAhead "(" then
      skip 1
      return .output (← commands true)
    else if ← isAhead "\x7b" then
      skip 1
      braces fuel commands surrounding
    else
      let name := parameterName false (← get).rest
      skip name.length
      if name.isEmpty then return .text ['$']
      return .parameter name .plain []

/-- A parameter behind its opening brace. -/
def braces (fuel : Nat) (commands : Nested) (surrounding : Surrounding) :
    Reading WordPart := do
  match fuel with
  | 0 => fail "Syntax error: Unterminated quoted string"
  | fuel + 1 =>
    let rest := (← get).rest
    let counted := parameterName true (rest.drop 1)
    if rest.head? = some '#' && !counted.isEmpty &&
        (rest.drop (1 + counted.length)).head? = some '\x7d' then
      skip (counted.length + 2)
      return .parameter counted .length []
    let name := parameterName true rest
    skip name.length
    if (← peek?) = some '\x7d' && !name.isEmpty then
      skip 1
      return .parameter name .plain []
    match useOf? (← get).rest with
    | some (use, length) =>
      if name.isEmpty then faultyParameter
      else
        skip length
        let isPattern := match use with
          | .dropStart _ | .dropEnd _ => true
          | _ => false
        let inner := if surrounding.isQuoted && !isPattern then .quotedBraces else .braces
        let word ← parts fuel commands inner 0 []
        return .parameter name use (finishParts word)
    | none => faultyParameter

end

def word (fuel : Nat) (commands : Nested) : Reading Word := do
  return finishParts (← parts fuel commands .word 0 [])

/-- Whether any part of a word is quoted. -/
def isQuotedWord (word : Word) : Bool :=
  word.any fun part =>
    match part with
    | .literal _ | .quoted _ => true
    | _ => false

/-- The text of a word as it is written, without its quotes. -/
def plainText (word : Word) : ByteText :=
  word.flatMap fun part =>
    match part with
    | .text text | .literal text => text
    | .quoted parts => parts.flatMap fun part =>
        match part with
        | .text text | .literal text => text
        | _ => []
    | .parameter name .plain _ => '$' :: name
    | _ => []

/-- Pass over blanks, joined lines and a comment. -/
def skipGaps (fuel : Nat) : Reading Unit := do
  match fuel with
  | 0 => return
  | fuel + 1 =>
    match ← peek? with
    | some ' ' | some '\t' =>
      skip 1
      skipGaps fuel
    | some '\\' =>
      if ← isAhead "\\\n" then
        skip 2
        skipGaps fuel
    | some '#' => let _ ← takeWhile (· != '\n')
    | _ => return

/-- The word behind the operator of a redirection. -/
def target (fuel : Nat) (commands : Nested) : Reading Word := do
  skipGaps fuel
  match ← peek? with
  | none => unexpected .ending
  | some '\n' =>
    skip 1
    unexpected (.operator .newline)
  | some c =>
    if endsWord c then
      unexpected <| match c with
        | ';' => .operator .semicolon
        | '&' => .operator .ampersand
        | '|' => .operator .bar
        | '(' => .operator .opening
        | ')' => .operator .closing
        | _ => .redirection (.to 0 .input [])
    word fuel commands

def document (fuel : Nat) (commands : Nested) (stream : Nat) (dropTabs : Bool) :
    Reading Redirection := do
  let last ← target fuel commands
  let text ← cutDocument dropTabs (plainText last)
  if isQuotedWord last then return .to stream .here [.literal text]
  let inner ← apart text (parts fuel commands .document 0 [])
  return .to stream .here [.quoted (finishParts inner)]

def redirection (fuel : Nat) (commands : Nested) (stream? : Option Nat) :
    Reading Redirection := do
  let modes : List (String × Nat × RedirectionMode) :=
    [(">&", 1, .duplicate), (">>", 1, .append), (">|", 1, .output), (">", 1, .output),
     ("<&", 0, .duplicate), ("<>", 0, .both), ("<", 0, .input)]
  if ← isAhead "<<-" then
    skip 3
    return ← document fuel commands (stream?.getD 0) true
  if ← isAhead "<<" then
    skip 2
    return ← document fuel commands (stream?.getD 0) false
  let rest := (← get).rest
  match modes.find? fun mode => mode.1.toList.isPrefixOf rest with
  | none => unexpected .ending
  | some (text, standard, mode) =>
    skip text.length
    return .to (stream?.getD standard) mode (← target fuel commands)

/-- The operators by their texts, longer ones first. -/
def operators : List (String × Operator) :=
  [("&&", .conjunction), ("||", .disjunction), (";;", .doubleSemicolon), ("\n", .newline),
   (";", .semicolon), ("&", .ampersand), ("|", .bar), ("(", .opening), (")", .closing)]

def token (fuel : Nat) (commands : Nested) : Reading Token := do
  match (← get).kept with
  | some token =>
    modify fun cursor => { cursor with kept := none }
    return token
  | none =>
    skipGaps fuel
    let rest := (← get).rest
    match rest with
    | [] => return .ending
    | c :: after =>
      match operators.find? fun operator => operator.1.toList.isPrefixOf rest with
      | some (text, operator) =>
        skip text.length
        return .operator operator
      | none =>
        if c = '<' || c = '>' then return .redirection (← redirection fuel commands none)
        else if c.isDigit && (after.head? = some '<' || after.head? = some '>') then
          skip 1
          return .redirection (← redirection fuel commands (some (c.toNat - '0'.toNat)))
        else return .word (← word fuel commands)

def peekToken (fuel : Nat) (commands : Nested) : Reading Token := do
  let ahead ← token fuel commands
  keep ahead
  return ahead

def skipNewlines (fuel : Nat) (commands : Nested) : Reading Unit := do
  match fuel with
  | 0 => return
  | fuel + 1 =>
    match ← token fuel commands with
    | .operator .newline => skipNewlines fuel commands
    | other => keep other

end Reading

end Stencil.Shell
