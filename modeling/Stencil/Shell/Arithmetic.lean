import Stencil.Shell.ByteText

/-! # Expressions of numbers

An expression is made of whole numbers of 64 bits, which wrap around, of variables, and of
operators. It is first read and then evaluated; what is not needed for its value is not
evaluated, except that it must be an expression.
-/

namespace Stencil.Shell

def digitValue? (base : Nat) (c : Char) : Option Nat :=
  let value :=
    if c.isDigit then c.toNat - '0'.toNat
    else if 'a' ≤ c && c ≤ 'f' then c.toNat - 'a'.toNat + 10
    else if 'A' ≤ c && c ≤ 'F' then c.toNat - 'A'.toNat + 10
    else base
  if value < base then some value else none

/-- The number that the digits at the start of a text spell, and what follows them. -/
def takeDigits? (base : Nat) (text : ByteText) : Option (Nat × ByteText) :=
  let digits := text.takeWhile fun c => (digitValue? base c).isSome
  if digits.isEmpty then none
  else
    let value := digits.foldl (fun value c => value * base + (digitValue? base c).getD 0) 0
    some (value, text.drop digits.length)

/-- The number at the start of a text, and what follows it. A zero in front makes it octal,
    a zero and an `x` hexadecimal. -/
def takeNumber? (text : ByteText) : Option (Nat × ByteText) :=
  match text with
  | '0' :: x :: rest =>
    if x = 'x' || x = 'X' then
      match takeDigits? 16 rest with
      | some found => some found
      | none => some (0, x :: rest)
    else takeDigits? 8 text
  | _ => takeDigits? 10 text

def greatestNumber : Int := 9223372036854775807

def leastNumber : Int := -9223372036854775808

/-- The nearest number of 64 bits. -/
def clamp (value : Int) : Int :=
  max leastNumber (min greatestNumber value)

/-- A number with a sign at the start of a text, read with the given reader of its digits,
    and what follows it. -/
def takeSigned? (digits : ByteText → Option (Nat × ByteText)) (text : ByteText) :
    Option (Int × ByteText) :=
  match text.dropWhile ByteText.isSpace with
  | '-' :: rest => (digits rest).map fun (value, after) => (-(value : Int), after)
  | '+' :: rest => (digits rest).map fun (value, after) => ((value : Int), after)
  | rest => (digits rest).map fun (value, after) => ((value : Int), after)

/-- The number that a text spells as a whole, but for blanks around it; none if it has more
    than 64 bits. -/
def wholeNumber? (digits : ByteText → Option (Nat × ByteText)) (text : ByteText) : Option Int :=
  match takeSigned? digits text with
  | some (value, rest) =>
    if rest.all ByteText.isSpace && leastNumber ≤ value && value ≤ greatestNumber then some value
    else none
  | none => none

inductive BinaryOperator where
  | times | over | modulo | plus | minus | shiftLeft | shiftRight
  | less | lessOrEqual | greater | greaterOrEqual | equal | unequal
  | bitAnd | bitXor | bitOr
  deriving Repr, DecidableEq

inductive Expression where
  | number (value : Int64)
  | variable (name : ByteText)
  | negate (inner : Expression)
  | complement (inner : Expression)
  | not (inner : Expression)
  | binary (operator : BinaryOperator) (left right : Expression)
  | both (left right : Expression)
  | either (left right : Expression)
  | choice (test yes no : Expression)
  | assign (name : ByteText) (operator : Option BinaryOperator) (value : Expression)

namespace Expression

/-- The binary operators by their texts, longer ones first, with how tightly they bind; the
    last two are those that need not evaluate their right side. -/
def operators : List (String × Nat × Option BinaryOperator) :=
  [("<<", 8, some .shiftLeft), (">>", 8, some .shiftRight), ("<=", 7, some .lessOrEqual),
   (">=", 7, some .greaterOrEqual), ("==", 6, some .equal), ("!=", 6, some .unequal),
   ("&&", 2, none), ("||", 1, none), ("*", 10, some .times), ("/", 10, some .over),
   ("%", 10, some .modulo), ("+", 9, some .plus), ("-", 9, some .minus),
   ("<", 7, some .less), (">", 7, some .greater), ("&", 5, some .bitAnd),
   ("^", 4, some .bitXor), ("|", 3, some .bitOr)]

/-- The operators that assign, longer ones first. -/
def assignments : List (String × Option BinaryOperator) :=
  [("<<=", some .shiftLeft), (">>=", some .shiftRight), ("*=", some .times),
   ("/=", some .over), ("%=", some .modulo), ("+=", some .plus), ("-=", some .minus),
   ("&=", some .bitAnd), ("^=", some .bitXor), ("|=", some .bitOr), ("=", none)]

/-- The text from the next character on that is no blank. -/
def skipBlanks (text : ByteText) : ByteText :=
  text.dropWhile fun c => c == ' ' || c == '\t' || c == '\n'

/-- What an expression was read as, or what was expected in its place. -/
abbrev Outcome := Except String (Expression × ByteText)

/-- The first of the texts that the given one starts with, and what follows it. -/
def takeOperator? {α : Type} (texts : List (String × α)) (text : ByteText) :
    Option (α × ByteText) :=
  (texts.find? fun entry => entry.1.toList.isPrefixOf text).map fun entry =>
    (entry.2, text.drop entry.1.length)

/-- The assignment at the start of a text: the name, the operator, and what follows. -/
def takeAssignment? (text : ByteText) : Option (ByteText × Option BinaryOperator × ByteText) :=
  let name := text.takeWhile fun c => c.isAlphanum || c == '_'
  if name.isEmpty || name.head?.any Char.isDigit then none
  else
    let rest := skipBlanks (text.drop name.length)
    if "==".toList.isPrefixOf rest then none
    else (takeOperator? assignments rest).map fun (operator, after) => (name, operator, after)

mutual

/-- An assignment, or an expression without one. -/
def readFull (fuel : Nat) (text : ByteText) : Outcome :=
  match fuel with
  | 0 => .error "expecting primary"
  | fuel + 1 =>
    let text := skipBlanks text
    match takeAssignment? text with
    | some (name, operator, after) => do
      let (value, after) ← readFull fuel after
      return (.assign name operator value, after)
    | none => readChoice fuel text

/-- A choice between two expressions, or an expression without one. -/
def readChoice (fuel : Nat) (text : ByteText) : Outcome :=
  match fuel with
  | 0 => .error "expecting primary"
  | fuel + 1 => do
    let (test, after) ← readBinary fuel 1 text
    match skipBlanks after with
    | '?' :: rest =>
      let (yes, after) ← readFull fuel rest
      match skipBlanks after with
      | ':' :: rest =>
        let (no, after) ← readChoice fuel rest
        return (.choice test yes no, after)
      | _ => throw "expecting ':'"
    | _ => return (test, after)

/-- Operands joined by operators that bind at least as tightly as the level says. -/
def readBinary (fuel : Nat) (level : Nat) (text : ByteText) : Outcome :=
  match fuel with
  | 0 => .error "expecting primary"
  | fuel + 1 => do
    let (left, after) ← readOperand fuel text
    readMore fuel level left after

/-- The operators and operands behind an operand. -/
def readMore (fuel : Nat) (level : Nat) (left : Expression) (text : ByteText) : Outcome :=
  match fuel with
  | 0 => .error "expecting primary"
  | fuel + 1 =>
    match takeOperator? operators (skipBlanks text) with
    | none => .ok (left, text)
    | some ((tightness, operator), after) =>
      if tightness < level then .ok (left, text)
      else do
        let (right, after) ← readBinary fuel (tightness + 1) after
        let joined := match operator with
          | some operator => .binary operator left right
          | none => if tightness = 2 then .both left right else .either left right
        readMore fuel level joined after

def readOperand (fuel : Nat) (text : ByteText) : Outcome :=
  match fuel with
  | 0 => .error "expecting primary"
  | fuel + 1 =>
    match skipBlanks text with
    | '(' :: rest => do
      let (inner, after) ← readFull fuel rest
      match skipBlanks after with
      | ')' :: after => return (inner, after)
      | _ => throw "expecting ')'"
    | '-' :: rest => (readOperand fuel rest).map fun (inner, after) => (.negate inner, after)
    | '+' :: rest => readOperand fuel rest
    | '~' :: rest => (readOperand fuel rest).map fun (inner, after) => (.complement inner, after)
    | '!' :: rest =>
      if rest.head? = some '=' then .error "expecting primary"
      else (readOperand fuel rest).map fun (inner, after) => (.not inner, after)
    | rest =>
      match takeNumber? rest with
      | some (value, after) => .ok (.number (Int64.ofInt (clamp value)), after)
      | none =>
        let name := rest.takeWhile fun c => c.isAlphanum || c == '_'
        if name.isEmpty then .error "expecting primary"
        else .ok (.variable name, rest.drop name.length)

end

/-- Read a text as an expression, or tell what was expected in it. -/
def read (text : ByteText) : Except String Expression := do
  let (expression, after) ← readFull (8 * text.length + 16) text
  if (skipBlanks after).isEmpty then return expression
  throw "expecting EOF"

/-- One for yes and zero for no. -/
def truth (holds : Bool) : Int64 :=
  if holds then 1 else 0

end Expression

/-- Apply an operator; none for a division by zero. -/
def BinaryOperator.apply? (operator : BinaryOperator) (a b : Int64) : Option Int64 :=
  match operator with
  | .times => some (a * b)
  | .over => if b = 0 then none else some (a / b)
  | .modulo => if b = 0 then none else some (a % b)
  | .plus => some (a + b)
  | .minus => some (a - b)
  | .shiftLeft => some (a <<< b)
  | .shiftRight => some (a >>> b)
  | .less => some (Expression.truth (a < b))
  | .lessOrEqual => some (Expression.truth (a ≤ b))
  | .greater => some (Expression.truth (b < a))
  | .greaterOrEqual => some (Expression.truth (b ≤ a))
  | .equal => some (Expression.truth (a = b))
  | .unequal => some (Expression.truth (a ≠ b))
  | .bitAnd => some (a &&& b)
  | .bitXor => some (a ^^^ b)
  | .bitOr => some (a ||| b)

namespace Expression

/-- The value of an expression, in a monad in which variables are looked up and assigned and
    a division by zero is reported. -/
def eval {m : Type → Type} [Monad m] (lookUp : ByteText → m Int64)
    (put : ByteText → Int64 → m Unit) (divisionByZero : m Int64) : Expression → m Int64
  | .number value => pure value
  | .variable name => lookUp name
  | .negate inner => do return -(← eval lookUp put divisionByZero inner)
  | .complement inner => do return ~~~(← eval lookUp put divisionByZero inner)
  | .not inner => do return truth ((← eval lookUp put divisionByZero inner) = 0)
  | .binary operator left right => do
    let a ← eval lookUp put divisionByZero left
    let b ← eval lookUp put divisionByZero right
    match operator.apply? a b with
    | some value => pure value
    | none => divisionByZero
  | .both left right => do
    if (← eval lookUp put divisionByZero left) = 0 then return 0
    return truth ((← eval lookUp put divisionByZero right) ≠ 0)
  | .either left right => do
    if (← eval lookUp put divisionByZero left) ≠ 0 then return 1
    return truth ((← eval lookUp put divisionByZero right) ≠ 0)
  | .choice test yes no => do
    if (← eval lookUp put divisionByZero test) ≠ 0 then eval lookUp put divisionByZero yes
    else eval lookUp put divisionByZero no
  | .assign name operator value => do
    let b ← eval lookUp put divisionByZero value
    let result ← match operator with
      | none => pure b
      | some operator => do
        match operator.apply? (← lookUp name) b with
        | some value => pure value
        | none => divisionByZero
    put name result
    return result

end Expression

end Stencil.Shell
