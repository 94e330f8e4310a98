import Stencil.Awk.Token

/-! # Reading programs for records

Programs are read by recursive descent. An expression is read level by level, from the
operators that bind least to those that bind most; where a greater sign or the word `in`
has another meaning, it ends the expression.
-/

namespace Stencil.Awk

open Shell (ByteText)

/-- Something that is read from tokens; a fault is told in words. -/
abbrev Reading := StateT (List (Nat × Token)) (Except String)

/-- What has another meaning where an expression stands. -/
structure Place where
  /-- Whether a greater sign names a file. -/
  greaterIsFile : Bool := false
  /-- Whether the word `in` is not an operator. -/
  noIn : Bool := false

namespace Reading

def peek : Reading Token := do
  return ((← get).head?.map Prod.snd).getD .ending

/-- The token behind the one ahead. -/
def peekSecond : Reading Token := do
  return (((← get).drop 1).head?.map Prod.snd).getD .ending

def skip : Reading Unit :=
  modify fun tokens => tokens.drop 1

/-- The text of a token in faults. -/
def shown (token : Token) : String :=
  match token with
  | .number value => toString value.toUInt64
  | .text text => ByteText.toString text
  | .regex text => "/" ++ ByteText.toString text ++ "/"
  | .name name | .functionName name | .builtin name | .keyword name => name
  | .mark text => text
  | .newline => "end of line"
  | .ending => "end of file"

/-- The token ahead is out of place. -/
def fail {α : Type} : Reading α := do
  let line := ((← get).head?.map Prod.fst).getD 1
  match ← peek with
  | .ending => throw ("line " ++ toString (line + 1) ++ ": syntax error at or near end of file")
  | token => throw ("line " ++ toString line ++ ": syntax error at or near " ++ shown token)

def passes (text : String) : Reading Bool := do
  if (← peek) == .mark text then
    skip
    return true
  return false

def expect (text : String) : Reading Unit := do
  if !(← passes text) then
    if text = "\x7d" && (← peek) == .ending then
      let line := ((← get).head?.map Prod.fst).getD 1
      throw ("line " ++ toString (line + 1) ++ ": missing \x7d near end of file")
    fail

def passesWord (word : String) : Reading Bool := do
  if (← peek) == .keyword word then
    skip
    return true
  return false

def skipLines (fuel : Nat) : Reading Unit := do
  match fuel with
  | 0 => return
  | fuel + 1 =>
    if (← peek) == .newline then
      skip
      skipLines fuel

def skipEnds (fuel : Nat) : Reading Unit := do
  match fuel with
  | 0 => return
  | fuel + 1 =>
    let token ← peek
    if token == .newline || token == .mark ";" then
      skip
      skipEnds fuel

/-- Whether an operand may begin with the token, so that it is joined to what precedes it. -/
def beginsOperand (token : Token) : Bool :=
  match token with
  | .number _ | .text _ | .name _ | .functionName _ | .builtin _ => true
  | .mark text => ["$", "(", "++", "--"].contains text
  | _ => false

def regexOf (text : ByteText) : Reading Regex :=
  match Regex.read .extended text with
  | .ok regex => return regex
  | .error error => throw ("regular expression compile failed (" ++ error.message ++ ")\n" ++ ByteText.toString text)

/-- Whether a value can be assigned to the expression. -/
def isTarget : Expr → Bool
  | .variable _ | .element _ _ | .field _ => true
  | _ => false

def assignment? (token : Token) : Option (Option Arithmetic) :=
  match token with
  | .mark "=" => some none
  | .mark "+=" => some (some .plus)
  | .mark "-=" => some (some .minus)
  | .mark "*=" => some (some .times)
  | .mark "/=" => some (some .over)
  | .mark "%=" => some (some .modulo)
  | .mark "^=" | .mark "**=" => some (some .power)
  | _ => none

def comparison? (place : Place) (token : Token) : Option Comparison :=
  match token with
  | .mark "<" => some .less
  | .mark "<=" => some .lessOrEqual
  | .mark "==" => some .equal
  | .mark "!=" => some .unequal
  | .mark ">=" => some .greaterOrEqual
  | .mark ">" => if place.greaterIsFile then none else some .greater
  | _ => none

mutual

def expr (fuel : Nat) (place : Place) : Reading Expr := do
  match fuel with
  | 0 => fail
  | fuel + 1 =>
    let left ← choice fuel place
    match assignment? (← peek) with
    | some operator =>
      if isTarget left then
        skip
        skipLines fuel
        return .assign left operator (← expr fuel place)
      return left
    | none => return left

def choice (fuel : Nat) (place : Place) : Reading Expr := do
  match fuel with
  | 0 => fail
  | fuel + 1 =>
    let test ← disjunction fuel place
    if ← passes "?" then
      skipLines fuel
      let yes ← expr fuel place
      skipLines fuel
      expect ":"
      skipLines fuel
      return .choice test yes (← expr fuel place)
    return test

def disjunction (fuel : Nat) (place : Place) : Reading Expr := do
  match fuel with
  | 0 => fail
  | fuel + 1 => moreOr fuel place (← conjunction fuel place)

def moreOr (fuel : Nat) (place : Place) (left : Expr) : Reading Expr := do
  match fuel with
  | 0 => fail
  | fuel + 1 =>
    if ← passes "||" then
      skipLines fuel
      moreOr fuel place (.or left (← conjunction fuel place))
    else return left

def conjunction (fuel : Nat) (place : Place) : Reading Expr := do
  match fuel with
  | 0 => fail
  | fuel + 1 => moreAnd fuel place (← membership fuel place)

def moreAnd (fuel : Nat) (place : Place) (left : Expr) : Reading Expr := do
  match fuel with
  | 0 => fail
  | fuel + 1 =>
    if ← passes "&&" then
      skipLines fuel
      moreAnd fuel place (.and left (← membership fuel place))
    else return left

def membership (fuel : Nat) (place : Place) : Reading Expr := do
  match fuel with
  | 0 => fail
  | fuel + 1 => moreIn fuel place (← matching fuel place)

def moreIn (fuel : Nat) (place : Place) (left : Expr) : Reading Expr := do
  match fuel with
  | 0 => fail
  | fuel + 1 =>
    if !place.noIn && (← peek) == .keyword "in" then
      skip
      match ← peek with
      | .name array =>
        skip
        let indices := match left with
          | .grouping items => items
          | left => [left]
        moreIn fuel place (.isIn indices array)
      | _ => fail
    else return left

def matching (fuel : Nat) (place : Place) : Reading Expr := do
  match fuel with
  | 0 => fail
  | fuel + 1 => moreMatches fuel place (← comparison fuel place)

def moreMatches (fuel : Nat) (place : Place) (left : Expr) : Reading Expr := do
  match fuel with
  | 0 => fail
  | fuel + 1 =>
    if ← passes "~" then moreMatches fuel place (.matching false left (← comparison fuel place))
    else if (← peek) == .mark "!" && (← peekSecond) == .mark "~" then
      skip
      skip
      moreMatches fuel place (.matching true left (← comparison fuel place))
    else return left

def comparison (fuel : Nat) (place : Place) : Reading Expr := do
  match fuel with
  | 0 => fail
  | fuel + 1 =>
    let left ← joined fuel place
    match comparison? place (← peek) with
    | some order =>
      skip
      return .compare order left (← joined fuel place)
    | none => return left

/-- Texts joined by standing next to each other. -/
def joined (fuel : Nat) (place : Place) : Reading Expr := do
  match fuel with
  | 0 => fail
  | fuel + 1 => moreJoined fuel place (← sum fuel place)

def moreJoined (fuel : Nat) (place : Place) (left : Expr) : Reading Expr := do
  match fuel with
  | 0 => fail
  | fuel + 1 =>
    if beginsOperand (← peek) then
      moreJoined fuel place (.concat left (← sum fuel place))
    else return left

def sum (fuel : Nat) (place : Place) : Reading Expr := do
  match fuel with
  | 0 => fail
  | fuel + 1 => moreSum fuel place (← product fuel place)

def moreSum (fuel : Nat) (place : Place) (left : Expr) : Reading Expr := do
  match fuel with
  | 0 => fail
  | fuel + 1 =>
    if ← passes "+" then moreSum fuel place (.arithmetic .plus left (← product fuel place))
    else if ← passes "-" then moreSum fuel place (.arithmetic .minus left (← product fuel place))
    else return left

def product (fuel : Nat) (place : Place) : Reading Expr := do
  match fuel with
  | 0 => fail
  | fuel + 1 => moreProduct fuel place (← signed fuel place)

def moreProduct (fuel : Nat) (place : Place) (left : Expr) : Reading Expr := do
  match fuel with
  | 0 => fail
  | fuel + 1 =>
    if ← passes "*" then moreProduct fuel place (.arithmetic .times left (← signed fuel place))
    else if ← passes "/" then moreProduct fuel place (.arithmetic .over left (← signed fuel place))
    else if ← passes "%" then moreProduct fuel place (.arithmetic .modulo left (← signed fuel place))
    else return left

/-- An operand with signs in front of it. -/
def signed (fuel : Nat) (place : Place) : Reading Expr := do
  match fuel with
  | 0 => fail
  | fuel + 1 =>
    if ← passes "!" then return .not (← signed fuel place)
    else if ← passes "-" then return .negate (← signed fuel place)
    else if ← passes "+" then return .toNumber (← signed fuel place)
    else power fuel place

def power (fuel : Nat) (place : Place) : Reading Expr := do
  match fuel with
  | 0 => fail
  | fuel + 1 =>
    let base ← changed fuel place
    if ← passes "^" then return .arithmetic .power base (← exponent fuel place)
    return base

def exponent (fuel : Nat) (place : Place) : Reading Expr := do
  match fuel with
  | 0 => fail
  | fuel + 1 =>
    if ← passes "-" then return .negate (← exponent fuel place)
    else if ← passes "+" then return .toNumber (← exponent fuel place)
    else if ← passes "!" then return .not (← exponent fuel place)
    else power fuel place

/-- An operand that may be changed by one. -/
def changed (fuel : Nat) (place : Place) : Reading Expr := do
  match fuel with
  | 0 => fail
  | fuel + 1 =>
    if ← passes "++" then return .change (← primary fuel place) 1.0 false
    else if ← passes "--" then return .change (← primary fuel place) (-1.0) false
    else
      let operand ← primary fuel place
      if isTarget operand then
        if ← passes "++" then return .change operand 1.0 true
        if ← passes "--" then return .change operand (-1.0) true
      return operand

def items (fuel : Nat) : Reading (List Expr) := do
  match fuel with
  | 0 => fail
  | fuel + 1 =>
    skipLines fuel
    if ← passes ")" then return []
    let first ← expr fuel {}
    skipLines fuel
    if ← passes "," then return first :: (← items fuel)
    expect ")"
    return [first]

def indices (fuel : Nat) : Reading (List Expr) := do
  match fuel with
  | 0 => fail
  | fuel + 1 =>
    let first ← expr fuel {}
    if ← passes "," then return first :: (← indices fuel)
    expect "]"
    return [first]

def target? (fuel : Nat) (place : Place) : Reading (Option Expr) := do
  match fuel with
  | 0 => fail
  | fuel + 1 =>
    match ← peek with
    | .name _ | .mark "$" => return some (← primary fuel place)
    | _ => return none

def primary (fuel : Nat) (place : Place) : Reading Expr := do
  match fuel with
  | 0 => fail
  | fuel + 1 =>
    match ← peek with
    | .number value =>
      skip
      return .number value
    | .text text =>
      skip
      return .text text
    | .regex text =>
      skip
      return .regex (← regexOf text)
    | .mark "$" =>
      skip
      if ← passes "++" then return .field (.change (← primary fuel place) 1.0 false)
      if ← passes "--" then return .field (.change (← primary fuel place) (-1.0) false)
      if ← passes "-" then return .field (.negate (← primary fuel place))
      return .field (← primary fuel place)
    | .mark "-" =>
      skip
      return .negate (← primary fuel place)
    | .mark "+" =>
      skip
      return .toNumber (← primary fuel place)
    | .mark "!" =>
      skip
      return .not (← primary fuel place)
    | .mark "(" =>
      skip
      match ← items fuel with
      | [inner] =>
        -- In parentheses a target is none any more.
        return .grouping [inner]
      | [] => fail
      | inner => return .grouping inner
    | .name name =>
      skip
      if ← passes "[" then return .element name (← indices fuel)
      return .variable name
    | .functionName name =>
      skip
      expect "("
      return .call name (← items fuel)
    | .builtin name =>
      skip
      if ← passes "(" then return .builtin name (← items fuel)
      if name = "length" then return .builtin name []
      fail
    | .keyword "getline" =>
      skip
      let target ← target? fuel place
      if ← passes "<" then return .nextRecord target (some (← primary fuel place))
      return .nextRecord target none
    | _ => fail

end

def printed (fuel : Nat) : Reading (List Expr) := do
  match fuel with
  | 0 => fail
  | fuel + 1 =>
    let first ← expr fuel { greaterIsFile := true }
    if ← passes "," then
      skipLines fuel
      return first :: (← printed fuel)
    return [first]

def destination (fuel : Nat) : Reading Destination := do
  if ← passes ">>" then return .file (← joined fuel { greaterIsFile := true }) true
  if ← passes ">" then return .file (← joined fuel { greaterIsFile := true }) false
  if ← passes "|" then return .command (← joined fuel { greaterIsFile := true })
  return .standard

def atEnd : Reading Bool := do
  match ← peek with
  | .newline | .ending | .mark ";" | .mark "\x7d" => return true
  | _ => return false

def statementEnd (fuel : Nat) : Reading Unit := do
  match ← peek with
  | .newline | .mark ";" => skipEnds fuel
  | .mark "\x7d" | .ending => return
  | _ => fail

def simple (fuel : Nat) : Reading Statement := do
  match ← peek with
  | .keyword "print" =>
    skip
    let items ← match ← peek with
      | .newline | .ending | .mark ";" | .mark "\x7d" | .mark ">" | .mark ">>" | .mark "|" => pure []
      | _ => printed fuel
    let items := match items with
      | [.grouping items] => items
      | items => items
    return .print items (← destination fuel)
  | .keyword "printf" =>
    skip
    let items ← printed fuel
    let items := match items with
      | [.grouping items] => items
      | items => items
    return .printf items (← destination fuel)
  | .keyword "delete" =>
    skip
    match ← peek with
    | .name array =>
      skip
      if ← passes "[" then return .delete array (← indices fuel)
      return .delete array []
    | _ => fail
  | _ => return .expr (← expr fuel {})

/-- The loop over an array that is ahead, from behind its parenthesis: the names of the
    variable and the array. -/
def loopNames? : Reading (Option (String × String)) := do
  match (← get).map Prod.snd with
  | .name name :: .keyword "in" :: .name array :: .mark ")" :: _ =>
    modify fun tokens => tokens.drop 4
    return some (name, array)
  | _ => return none

def condition (fuel : Nat) : Reading Expr := do
  expect "("
  let test ← expr fuel {}
  expect ")"
  return test

/-- A statement that is its first word. -/
def word (fuel : Nat) (statement : Statement) : Reading Statement := do
  skip
  statementEnd fuel
  return statement

/-- What stands behind the first word up to the end of the statement. -/
def valueOfWord (fuel : Nat) : Reading (Option Expr) := do
  skip
  let value ← if ← atEnd then pure none else pure (some (← expr fuel {}))
  statementEnd fuel
  return value

/-! ## Statements with a body

They are read from behind their first words, given how the body is read.
-/

section Bodies

variable (statement : Reading Statement) (fuel : Nat)

def ifElse : Reading Statement := do
  let test ← condition fuel
  skipLines fuel
  let yes ← statement
  skipEnds fuel
  if ← passesWord "else" then
    skipLines fuel
    return .choice test [yes] [← statement]
  return .choice test [yes] []

def whileLoop : Reading Statement := do
  let test ← condition fuel
  if ← passes ";" then return .while test []
  skipLines fuel
  return .while test [← statement]

def doLoop : Reading Statement := do
  skipLines fuel
  let body ← statement
  skipEnds fuel
  if !(← passesWord "while") then fail
  let test ← condition fuel
  statementEnd fuel
  return .doWhile [body] test

/-- A loop that counts, from behind its parenthesis. -/
def countingLoop : Reading Statement := do
  let first ← if (← peek) == .mark ";" then pure [] else pure [← simple fuel]
  expect ";"
  skipLines fuel
  let test ← if (← peek) == .mark ";" then pure none else pure (some (← expr fuel {}))
  expect ";"
  skipLines fuel
  let step ← if (← peek) == .mark ")" then pure [] else pure [← simple fuel]
  expect ")"
  if ← passes ";" then return .for first test step []
  skipLines fuel
  return .for first test step [← statement]

def forLoop : Reading Statement := do
  expect "("
  match ← loopNames? with
  | some (name, array) =>
    skipLines fuel
    return .forIn name array [← statement]
  | none => countingLoop statement fuel

end Bodies

mutual

def statement (fuel : Nat) : Reading Statement := do
  match fuel with
  | 0 => fail
  | fuel + 1 =>
    match ← peek with
    | .mark "\x7b" =>
      skip
      let body ← statements fuel
      expect "\x7d"
      skipEnds fuel
      return .block body
    | .mark ";" =>
      skip
      skipLines fuel
      return .block []
    | .keyword "if" =>
      skip
      ifElse (statement fuel) fuel
    | .keyword "while" =>
      skip
      whileLoop (statement fuel) fuel
    | .keyword "do" =>
      skip
      doLoop (statement fuel) fuel
    | .keyword "for" =>
      skip
      forLoop (statement fuel) fuel
    | .keyword "break" => word fuel .break
    | .keyword "continue" => word fuel .continue
    | .keyword "next" | .keyword "nextfile" => word fuel .next
    | .keyword "exit" => return .exit (← valueOfWord fuel)
    | .keyword "return" => return .return (← valueOfWord fuel)
    | _ =>
      let statement ← simple fuel
      statementEnd fuel
      return statement

def statements (fuel : Nat) : Reading (List Statement) := do
  match fuel with
  | 0 => fail
  | fuel + 1 =>
    skipEnds fuel
    match ← peek with
    | .mark "\x7d" | .ending => return []
    | _ => return (← statement fuel) :: (← statements fuel)

end

def parameters (fuel : Nat) : Reading (List String) := do
  match fuel with
  | 0 => fail
  | fuel + 1 =>
    skipLines fuel
    match ← peek with
    | .mark ")" =>
      skip
      return []
    | .name name =>
      skip
      skipLines fuel
      if !(← passes ",") && (← peek) != .mark ")" then fail
      return name :: (← parameters fuel)
    | _ => fail

def action? (fuel : Nat) : Reading (Option (List Statement)) := do
  if ← passes "\x7b" then
    let body ← statements fuel
    expect "\x7d"
    return some body
  return none

def rules (fuel : Nat) (done : Program) : Reading Program := do
  match fuel with
  | 0 => fail
  | fuel + 1 =>
    skipEnds fuel
    match ← peek with
    | .ending => return done
    | .keyword "BEGIN" =>
      skip
      let action ← action? fuel
      if action.isNone then fail
      rules fuel { done with rules := done.rules ++ [{ pattern := .begin, action }] }
    | .keyword "END" =>
      skip
      let action ← action? fuel
      if action.isNone then fail
      rules fuel { done with rules := done.rules ++ [{ pattern := .finish, action }] }
    | .keyword "function" | .keyword "func" =>
      skip
      match ← peek with
      | .name name | .functionName name =>
        skip
        expect "("
        let parameters ← parameters fuel
        skipLines fuel
        let body ← action? fuel
        match body with
        | none => fail
        | some body => rules fuel { done with functions := done.functions ++ [(name, { parameters, body })] }
      | _ => fail
    | .mark "\x7b" =>
      let action ← action? fuel
      rules fuel { done with rules := done.rules ++ [{ pattern := .all, action }] }
    | _ =>
      let first ← expr fuel {}
      let pattern ← do
        if ← passes "," then
          skipLines fuel
          pure (.range first (← expr fuel {}))
        else pure (.one first)
      let action ← action? fuel
      if action.isNone then
        match ← peek with
        | .newline | .mark ";" | .ending => pure ()
        | _ => fail
      rules fuel { done with rules := done.rules ++ [{ pattern, action }] }

end Reading

/-- Read a text as a program, or tell what is wrong with it. -/
def Program.read (text : ByteText) : Except String Program := do
  let tokens ← tokens (text.length + 1) 1 .newline text
  let (program, _) ← (Reading.rules (24 * tokens.length + 100) { rules := [], functions := [] }).run tokens
  return program

end Stencil.Awk
