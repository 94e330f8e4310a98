import Stencil.Regex.Reader
import Stencil.Shell.Arithmetic
import Stencil.Utility.Basic

/-! # Tests and expressions

A test answers a question about texts, numbers and files by its status. An expression is
evaluated and printed, and its status tells whether its value counts as true. Both are given
as one argument for each word.
-/

namespace Stencil

open Shell (ByteText)

namespace Utility

/-- The operators of tests on one word. -/
def unaryTests : List String :=
  ["-r", "-w", "-x", "-e", "-f", "-d", "-c", "-b", "-p", "-u", "-g", "-k", "-s", "-t", "-z",
   "-n", "-h", "-O", "-G", "-L", "-S"]

/-- The operators of tests on two words. -/
def binaryTests : List String :=
  ["=", "!=", "<", ">", "-eq", "-ne", "-ge", "-gt", "-le", "-lt", "-nt", "-ot", "-ef"]

def isUnaryTest (word : ByteText) : Bool :=
  unaryTests.contains (String.ofList word)

def isBinaryTest (word : ByteText) : Bool :=
  binaryTests.contains (String.ofList word)

def testNumber (word : ByteText) : Work Int := do
  match Shell.wholeNumber? (Shell.takeDigits? 10) word with
  | some value => return value
  | none => Work.stop 2 ["Illegal number: ".toList, word]

def testOne (operator word : ByteText) : Work Bool := do
  let tree := (← get).tree
  let path := Work.pathOf word
  let node := (tree.lookup path).toOption.map Prod.snd
  match String.ofList operator with
  | "-n" => return !word.isEmpty
  | "-z" => return word.isEmpty
  | "-t" =>
    let _ ← testNumber word
    return false
  | "-h" | "-L" =>
    match tree.locate path with
    | .ok place => return match tree.node? place with
        | some (.link _) => true
        | _ => false
    | .error _ => return false
  | "-f" => return match node with
      | some (.file _) | some (.program _) => true
      | _ => false
  | "-d" => return node = some .folder
  | "-e" | "-r" | "-w" | "-O" | "-G" => return node.isSome
  | "-c" => return match node with
      | some (.device _) => true
      | _ => false
  | "-s" => return match node with
      | some (.file file) => file.bytes.size ≠ 0
      | some (.program _) | some .folder => true
      | _ => false
  | "-x" => return match node with
      | some (.file file) => file.executable
      | some (.program _) | some .folder => true
      | _ => false
  | _ => return false

def testTwo (operator one other : ByteText) : Work Bool := do
  let tree := (← get).tree
  let placeOf (word : ByteText) : Option Place :=
    ((tree.lookup (Work.pathOf word)).toOption).map Prod.fst
  match String.ofList operator with
  | "=" => return one = other
  | "!=" => return one ≠ other
  | "<" => return ByteText.isAtMost one other && one ≠ other
  | ">" => return ByteText.isAtMost other one && one ≠ other
  | "-eq" => return (← testNumber one) = (← testNumber other)
  | "-ne" => return (← testNumber one) ≠ (← testNumber other)
  | "-ge" => return (← testNumber one) ≥ (← testNumber other)
  | "-gt" => return (← testNumber one) > (← testNumber other)
  | "-le" => return (← testNumber one) ≤ (← testNumber other)
  | "-lt" => return (← testNumber one) < (← testNumber other)
  -- All files are of one age.
  | "-nt" | "-ot" => return false
  | _ => return (placeOf one).isSome && placeOf one = placeOf other

/-- The words of a test that are ahead. -/
abbrev Testing := StateT (List ByteText) Work

namespace Testing

/-- What a word is, given those behind it. -/
inductive Role where
  | nothing
  | not
  | opening
  | closing
  | unary
  | binary
  | conjunction
  | disjunction
  | operand
  deriving DecidableEq

def roleOf : List ByteText → Role
  | [] => .nothing
  | word :: rest =>
    let isOperand := match rest with
      | [] => true
      | [_] => false
      | next :: _ => isBinaryTest next
    if isUnaryTest word then if isOperand then .operand else .unary
    else if isBinaryTest word then .binary
    else
      match word with
      | ['!'] => if isOperand then .operand else .not
      | ['('] => if rest.isEmpty then .operand else .opening
      | [')'] => .closing
      | ['-', 'a'] => .conjunction
      | ['-', 'o'] => .disjunction
      | _ => .operand

def skip : Testing Unit :=
  modify List.tail

mutual

/-- Questions one of which is to be answered with yes. -/
def either (fuel : Nat) : Testing Bool := do
  match fuel with
  | 0 => return false
  | fuel + 1 =>
    let first ← both fuel
    match roleOf (← get) with
    | .disjunction =>
      skip
      let second ← either fuel
      return first || second
    | _ => return first

/-- Questions all of which are to be answered with yes. -/
def both (fuel : Nat) : Testing Bool := do
  match fuel with
  | 0 => return false
  | fuel + 1 =>
    let first ← negation fuel
    match roleOf (← get) with
    | .conjunction =>
      skip
      let second ← both fuel
      return first && second
    | _ => return first

/-- A question, or the opposite of one. -/
def negation (fuel : Nat) : Testing Bool := do
  match fuel with
  | 0 => return false
  | fuel + 1 =>
    match roleOf (← get) with
    | .not =>
      skip
      return !(← negation fuel)
    | _ => single fuel

def single (fuel : Nat) : Testing Bool := do
  match fuel with
  | 0 => return false
  | fuel + 1 =>
    let words ← get
    match roleOf words, words with
    | .nothing, _ | _, [] => return false
    | .opening, _ :: rest =>
      set rest
      if roleOf rest = .closing then
        skip
        return false
      let answer ← either fuel
      if roleOf (← get) ≠ .closing then Work.stop 2 ["closing paren expected".toList]
      skip
      return answer
    | .unary, operator :: rest =>
      match rest with
      | [] => Work.stop 2 [operator, ": argument expected".toList]
      | word :: rest =>
        set rest
        testOne operator word
    | _, word :: rest =>
      match roleOf rest, rest with
      | .binary, operator :: [] => Work.stop 2 [operator, ": argument expected".toList]
      | .binary, operator :: other :: rest =>
        set rest
        testTwo operator word other
      | _, _ =>
        set rest
        return !word.isEmpty

end

def whole (fuel : Nat) (words : List ByteText) : Work Bool := do
  let (answer, rest) ← (either fuel).run words
  if rest.isEmpty then return answer
  let last := (words[words.length - rest.length - 1]?).getD []
  Work.stop 2 [last, ": unexpected operator".toList]

end Testing

/-- The answer of a test. Short tests are told by the number of their words. -/
def holds (fuel : Nat) (words : List ByteText) : Work Bool := do
  match fuel with
  | 0 => return false
  | fuel + 1 =>
    match words with
    | [] => return false
    | [one, operator, other] =>
      if isBinaryTest operator then testTwo operator one other
      else if one = ['('] && other = [')'] then return !operator.isEmpty
      else if one = ['!'] then return !(← holds fuel [operator, other])
      else Testing.whole (8 * words.length + 8) words
    | [one, _, _, other] =>
      if one = ['('] && other = [')'] then Testing.whole (8 * words.length + 8) (words.tail.take 2)
      else if one = ['!'] then return !(← holds fuel words.tail)
      else Testing.whole (8 * words.length + 8) words
    | _ => Testing.whole (8 * words.length + 8) words

def test : Utility := fun arguments => do
  return if ← holds (arguments.length + 2) arguments then 0 else 1

def bracketTest : Utility := fun arguments => do
  if arguments.getLast? = some [']'] then test arguments.dropLast
  else Work.stop 2 ["missing ]".toList]

/-- The whole number that a value spells. -/
def exprInteger? (value : ByteText) : Option Int :=
  match value with
  | '-' :: digits => (Text.decimal? digits).map fun number => -(number : Int)
  | digits => (Text.decimal? digits).map fun number => (number : Int)

/-- Whether the value counts as false. -/
def isNull (value : ByteText) : Bool :=
  value.isEmpty || exprInteger? value = some 0

/-- How tightly the operators of expressions bind. -/
def exprLevel? (word : ByteText) : Option Nat :=
  match String.ofList word with
  | "|" => some 1
  | "&" => some 2
  | "<" | "<=" | "=" | "==" | "!=" | ">=" | ">" => some 3
  | "+" | "-" => some 4
  | "*" | "/" | "%" => some 5
  | ":" => some 6
  | _ => none

/-- The part of a text that an expression matches from its start: a group, or the length. -/
def matchStart (text pattern : ByteText) : Work ByteText := do
  match Regex.read .basic pattern with
  | .error error => Work.stop 2 [error.message.toList]
  | .ok regex =>
    let hasGroup := Text.occurs "\\(".toList pattern
    let array := text.toArray
    match regex.matchAt? { text := array } 0 with
    | none => return if hasGroup then [] else ['0']
    | some found =>
      return if hasGroup then (found.group? array 1).getD [] else ByteText.ofNat found.last

def applyOperator (operator : ByteText) (one other : ByteText) : Work ByteText := do
  let truth (holds : Bool) : ByteText := if holds then ['1'] else ['0']
  let compare (order : Ordering → Bool) : Work ByteText := do
    match exprInteger? one, exprInteger? other with
    | some a, some b => return truth (order (compare a b))
    | _, _ =>
      return truth (order (if one = other then .eq else if ByteText.isAtMost one other then .lt else .gt))
  let calculate (f : Int → Int → Work Int) : Work ByteText := do
    match exprInteger? one, exprInteger? other with
    | some a, some b => return ByteText.ofInt (← f a b)
    | _, _ => Work.stop 2 ["non-integer argument".toList]
  match String.ofList operator with
  | "|" => return if !isNull one then one else if !isNull other then other else ['0']
  | "&" => return if !isNull one && !isNull other then one else ['0']
  | "<" => compare (· = .lt)
  | "<=" => compare (· ≠ .gt)
  | "=" | "==" => compare (· = .eq)
  | "!=" => compare (· ≠ .eq)
  | ">=" => compare (· ≠ .lt)
  | ">" => compare (· = .gt)
  | "+" => calculate fun a b => return a + b
  | "-" => calculate fun a b => return a - b
  | "*" => calculate fun a b => return a * b
  | "/" => calculate fun a b =>
      if b = 0 then Work.stop 2 ["division by zero".toList] else return a.tdiv b
  | "%" => calculate fun a b =>
      if b = 0 then Work.stop 2 ["division by zero".toList] else return a.tmod b
  | _ => matchStart one other

namespace Testing

def nextWord (before : ByteText) : Testing ByteText := do
  match ← get with
  | [] =>
    Work.stop 2 ["syntax error: missing argument after ".toList, quotedName before]
  | word :: rest =>
    set rest
    return word

mutual

/-- Operands joined by operators that bind at least as tightly as the level says. -/
def value (fuel level : Nat) (before : ByteText) : Testing ByteText := do
  match fuel with
  | 0 => return []
  | fuel + 1 =>
    let first ← operand fuel before
    moreValues fuel level first

/-- The operators and operands behind an operand. -/
def moreValues (fuel level : Nat) (first : ByteText) : Testing ByteText := do
  match fuel with
  | 0 => return first
  | fuel + 1 =>
    match ← get with
    | operator :: rest =>
      match exprLevel? operator with
      | some tightness =>
        if tightness < level then return first
        set rest
        let second ← value fuel (tightness + 1) operator
        moreValues fuel level (← applyOperator operator first second)
      | none => return first
    | [] => return first

def operand (fuel : Nat) (before : ByteText) : Testing ByteText := do
  match fuel with
  | 0 => return []
  | fuel + 1 =>
    let word ← nextWord before
    match String.ofList word with
    | "(" =>
      let inner ← value fuel 1 word
      match ← get with
      | [')'] :: rest =>
        set rest
        return inner
      | [] => Work.stop 2 ["syntax error: expecting ')' after ".toList, quotedName inner]
      | other :: _ => Work.stop 2 ["syntax error: expecting ')' instead of ".toList, quotedName other]
    | "length" => return ByteText.ofNat (← value fuel 7 word).length
    | "index" =>
      let text ← value fuel 7 word
      let set ← value fuel 7 text
      return ByteText.ofNat (match text.findIdx? set.contains with
        | some index => index + 1
        | none => 0)
    | "substr" =>
      let text ← value fuel 7 word
      let start ← value fuel 7 text
      let length ← value fuel 7 start
      match exprInteger? start, exprInteger? length with
      | some start, some length =>
        if start ≤ 0 || length ≤ 0 then return []
        return (text.drop (start.toNat - 1)).take length.toNat
      | _, _ => return []
    | "match" =>
      let text ← value fuel 7 word
      let pattern ← value fuel 7 text
      matchStart text pattern
    | "+" => nextWord word
    | _ => return word

end

end Testing

def expr : Utility := fun arguments => do
  let words := if arguments.head? = some ['-', '-'] then arguments.tail else arguments
  if words.isEmpty then
    Work.complain "missing operand".toList
    Work.mutter "Try 'expr --help' for more information.\n".toList
    throw 2
  let (value, rest) ← (Testing.value (8 * words.length + 16) 1 []).run words
  match rest with
  | word :: _ => Work.stop 2 ["syntax error: unexpected argument ".toList, quotedName word]
  | [] =>
    Work.printLine value
    return if isNull value then 1 else 0

end Utility

end Stencil
