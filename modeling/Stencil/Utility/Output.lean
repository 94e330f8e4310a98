import Stencil.Shell.Arithmetic
import Stencil.Utility.Basic
import Stencil.Utility.Directive
import Stencil.Utility.Real

/-! # Utilities that print

Utilities that print what their arguments say, and those that only wait or end.
-/

namespace Stencil

open Shell (ByteText)

namespace Utility

/-- The character that a letter behind a reverse solidus stands for. -/
def escapeLetters : List (Char × Char) :=
  [('a', '\x07'), ('b', '\x08'), ('e', '\x1b'), ('f', '\x0c'), ('n', '\n'), ('r', '\r'), ('t', '\t'),
   ('v', '\x0b'), ('\\', '\\')]

/-- Up to three octal digits at the start of the text. -/
def octalDigits (text : ByteText) : ByteText :=
  (text.take 3).takeWhile fun c => '0' ≤ c && c ≤ '7'

def octalByte (digits : ByteText) : Char :=
  Char.ofNat (digits.foldl (fun value c => value * 8 + (c.toNat - '0'.toNat)) 0 % 256)

/-- The character from behind a reverse solidus, and what follows it; a reverse solidus that
    means nothing stands for itself. -/
def takeEscape (text : ByteText) : Char × ByteText :=
  match text with
  | [] => ('\\', [])
  | c :: rest =>
    let digits := octalDigits text
    if !digits.isEmpty then (octalByte digits, text.drop digits.length)
    else
      match escapeLetters.lookup c with
      | some char => (char, rest)
      | none => ('\\', text)

/-- A text with its escapes replaced, and whether it asks for an end of all output. A number
    may begin with a zero that is none of its digits. -/
def unescape (fuel : Nat) (text : ByteText) : ByteText × Bool :=
  match fuel with
  | 0 => ([], false)
  | fuel + 1 =>
    match text with
    | [] => ([], false)
    | '\\' :: 'c' :: _ => ([], true)
    | '\\' :: '0' :: rest =>
      let digits := octalDigits rest
      let (after, ends) := unescape fuel (rest.drop digits.length)
      (octalByte digits :: after, ends)
    | '\\' :: rest =>
      let (c, rest) := takeEscape rest
      let (after, ends) := unescape fuel rest
      (c :: after, ends)
    | c :: rest =>
      let (after, ends) := unescape fuel rest
      (c :: after, ends)

def echo : Utility := fun arguments => do
  let (lineEnd, words) := match arguments with
    | ['-', 'n'] :: rest => ([], rest)
    | words => (['\n'], words)
  let text := Text.join [' '] words
  let (text, ends) := unescape (text.length + 1) text
  Work.print (if ends then text else text ++ lineEnd)
  return 0

def echoPlain : Utility := fun arguments => do
  match arguments with
  | ['-', 'n'] :: rest => Work.print (Text.join [' '] rest)
  | ['-', 'e'] :: rest =>
    let text := Text.join [' '] rest
    let (text, ends) := unescape (text.length + 1) text
    Work.print (if ends then text else text ++ ['\n'])
  | words => Work.printLine (Text.join [' '] words)
  return 0

/-- What is left to print: the arguments, whether any was used, and the status so far. -/
structure FormatState where
  arguments : List ByteText
  used : Bool
  status : Nat

abbrev Formatting := StateT FormatState Work

namespace Formatting

def nextArgument? : Formatting (Option ByteText) := do
  match (← get).arguments with
  | [] => return none
  | argument :: rest =>
    modify fun state => { state with arguments := rest, used := true }
    return some argument

/-- Note that a number was not what it should be. -/
def doubt (argument : ByteText) (wording : String) : Formatting Unit := do
  Work.complainOf [argument, ": ".toList, wording.toList]
  modify fun state => { state with status := 1 }

/-- The number of the character behind a quotation mark. -/
def quotedCharacter? (argument : ByteText) : Option Nat :=
  match argument with
  | '\x22' :: rest | '\x27' :: rest => some ((rest.head?.map Char.toNat).getD 0)
  | _ => none

/-- The next argument as a whole number. -/
def nextInteger (signed : Bool) : Formatting Int := do
  match ← nextArgument? with
  | none => return 0
  | some argument =>
    match quotedCharacter? argument with
    | some code => return code
    | none =>
      match Shell.takeSigned? Shell.takeNumber? argument with
      | none =>
        if argument.isEmpty then return 0
        doubt argument "expected numeric value"
        return 0
      | some (value, rest) =>
        let (least, most) :=
          if signed then (Shell.leastNumber, Shell.greatestNumber)
          else (-18446744073709551615, 18446744073709551615)
        if !rest.isEmpty then doubt argument "not completely converted"
        else if value < least || most < value then doubt argument "Numerical result out of range"
        return max least (min most value)

/-- The next argument as a floating point number. -/
def nextReal : Formatting Real64 := do
  match ← nextArgument? with
  | none => return Real64.ofRatio false 0 1
  | some argument =>
    match quotedCharacter? argument with
    | some code => return Real64.ofRatio false code 1
    | none =>
      match Real64.take? argument with
      | none =>
        if !argument.isEmpty then doubt argument "expected numeric value"
        return Real64.ofRatio false 0 1
      | some (value, rest) =>
        if !rest.isEmpty then doubt argument "not completely converted"
        return value

/-- A width or a precision: digits, or the next argument for an asterisk; a negative one
    has its sign told apart. -/
def takeSize (text : ByteText) : Formatting (Nat × Bool × ByteText) := do
  match text with
  | '*' :: rest =>
    let value ← nextInteger true
    return (value.natAbs, value < 0, rest)
  | _ =>
    let (value, rest) := Directive.takeCount text
    return (value, false, rest)

/-- Print by a directive, from behind its percent sign; what follows it, or nothing if all
    output ends. -/
def printDirective (text : ByteText) : Formatting (Option ByteText) := do
  let (directive, rest) := ({} : Directive).takeFlags text
  let (width, toLeft, rest) ← takeSize rest
  let directive := { directive with width, left := directive.left || toLeft }
  let (directive, rest) ← match rest with
    | '.' :: rest =>
      let (precision, isNone, rest) ← takeSize rest
      pure ({ directive with precision := if isNone then none else some precision }, rest)
    | rest => pure (directive, rest)
  match rest with
  | [] => Work.stop 2 ["missing format character".toList]
  | style :: after =>
    match style with
    | 's' => Work.print (directive.layText ((← nextArgument?).getD []))
    | 'c' => Work.print (directive.pad [((← nextArgument?).getD []).headD '\x00'])
    | 'b' =>
      let argument := (← nextArgument?).getD []
      let (text, ends) := unescape (argument.length + 1) argument
      Work.print (directive.layText text)
      if ends then return none
    | 'd' | 'i' => Work.print (directive.layInteger (← nextInteger true))
    | 'o' | 'u' | 'x' | 'X' =>
      let value ← nextInteger false
      Work.print (directive.layUnsigned style (value % 18446744073709551616).toNat)
    | 'e' | 'E' | 'f' | 'F' | 'g' | 'G' =>
      match ← nextReal with
      | .finite value => Work.print (directive.layReal style value)
      | .infinite negative => Work.print (directive.layWord style negative "inf".toList)
      | .notANumber negative => Work.print (directive.layWord style negative "nan".toList)
    | _ =>
      let shown := text.take (text.length - after.length)
      Work.stop 2 [['%'], shown, ": invalid directive".toList]
    return some after

/-- Print by a format once; whether output goes on. -/
def printOnce (fuel : Nat) (format : ByteText) : Formatting Bool := do
  match fuel, format with
  | 0, _ | _, [] => return true
  | fuel + 1, '\\' :: rest =>
    let (c, rest) := takeEscape rest
    Work.print [c]
    printOnce fuel rest
  | fuel + 1, '%' :: '%' :: rest =>
    Work.print ['%']
    printOnce fuel rest
  | fuel + 1, '%' :: rest =>
    match ← printDirective rest with
    | none => return false
    | some rest => printOnce fuel rest
  | fuel + 1, c :: rest =>
    let plain := rest.takeWhile fun c => c != '%' && c != '\\'
    Work.print (c :: plain)
    printOnce fuel (rest.drop plain.length)

/-- Print by a format until all arguments are used. -/
def printAll (fuel : Nat) (format : ByteText) : Formatting Unit := do
  match fuel with
  | 0 => return
  | fuel + 1 =>
    modify fun state => { state with used := false }
    let goesOn ← printOnce (format.length + 1) format
    let state ← get
    if goesOn && state.used && !state.arguments.isEmpty then printAll fuel format

end Formatting

def printf : Utility := fun arguments => do
  let arguments ← match arguments with
    | ['-', '-'] :: rest => pure rest
    | ('-' :: letter :: _) :: _ => Work.stop 2 ["Illegal option -".toList, [letter]]
    | arguments => pure arguments
  match arguments with
  | [] => Work.stop 2 ["usage: printf format [arg ...]".toList]
  | format :: rest =>
    let start : FormatState := { arguments := rest, used := false, status := 0 }
    let (_, state) ← (Formatting.printAll (rest.length + 1) format).run start
    return state.status

/-- A decimal as a whole number of its last places, and the number of its places. -/
def decimal? (text : ByteText) : Option (Int × Nat) :=
  let (sign, digits) : Int × ByteText := match text with
    | '-' :: rest => (-1, rest)
    | '+' :: rest => (1, rest)
    | rest => (1, rest)
  let (whole, places) := (Text.splitFirst? '.' digits).getD (digits, [])
  (Text.decimal? (whole ++ places)).map fun value => (sign * value, places.length)

/-- A whole number of last places as a decimal, with zeros in front up to a width. -/
def printDecimal (width places : Nat) (value : Int) : ByteText :=
  let text := Directive.pointed false (ByteText.ofNat value.natAbs) places
  let sign := if value < 0 then ['-'] else []
  sign ++ List.replicate (width - sign.length - text.length) '0' ++ text

/-- The most numbers that a sequence has. -/
def longestSequence : Nat := 1000000

def seq : Utility := fun arguments => do
  let spec : UtilityOptions :=
    { flags := "w", valued := "sf", long := [("separator", 's'), ("equal-width", 'w'), ("format", 'f')]
      mixes := false, name := "seq" }
  let isNumber (word : ByteText) := match word with
    | '-' :: c :: _ => c.isDigit || c == '.'
    | _ => false
  let options := arguments.takeWhile fun word => !isNumber word
  let given ← spec.read options
  let operands := given.operands ++ arguments.drop options.length
  let numbers ← operands.mapM fun word => do
    match decimal? word with
    | some number => pure number
    | none => spec.refuse ["invalid floating point argument: ".toList, quotedName word]
  let (first, step, last) ← match numbers with
    | [last] => pure ((1, 0), (1, 0), last)
    | [first, last] => pure (first, (1, 0), last)
    | [first, step, last] => pure (first, step, last)
    | [] => spec.refuse ["missing operand".toList]
    | _ :: _ :: _ :: _ :: _ =>
      spec.refuse ["extra operand ".toList, quotedName ((operands.drop 3).headD [])]
  let places := max first.2 step.2
  let all := max places last.2
  let grow (number : Int × Nat) : Int := number.1 * 10 ^ (all - number.2)
  let (low, stride, high) := (grow first, grow step, grow last)
  if stride = 0 then
    spec.refuse ["invalid Zero increment value: ".toList, quotedName ((operands.drop 1).headD [])]
  let count : Nat := min longestSequence
    (if 0 < stride then if high < low then 0 else ((high - low) / stride).toNat + 1
     else if low < high then 0 else ((low - high) / (-stride)).toNat + 1)
  let values := (List.range count).map fun (i : Nat) => (low + stride * i) / 10 ^ (all - places)
  let width := if given.has 'w' then
      (values.map fun value => (printDecimal 0 places value).length).foldl max 0
    else 0
  let separator := (given.value? 's').getD ['\n']
  if count ≠ 0 then
    Work.printLine (Text.join separator (values.map (printDecimal width places)))
  return 0

/-- How often a text is repeated that is to be repeated without an end. -/
def manyTimes : Nat := 8192

def yes : Utility := fun arguments => do
  let line := (if arguments.isEmpty then ['y'] else Text.join [' '] arguments) ++ ['\n']
  Work.print (List.replicate manyTimes line).flatten
  return Work.endless

/-- A time in milliseconds. -/
def duration? (text : ByteText) : Option Nat :=
  let (number, unit) := match text.reverse with
    | 's' :: rest => (rest.reverse, 1000)
    | 'm' :: rest => (rest.reverse, 60000)
    | 'h' :: rest => (rest.reverse, 3600000)
    | 'd' :: rest => (rest.reverse, 86400000)
    | _ => (text, 1000)
  if number = "infinity".toList || number = "inf".toList then some 1000000000000000
  else
    match decimal? (if number.head? = some '.' then '0' :: number else number) with
    | some (value, places) => if value < 0 then none else some (value.toNat * unit / 10 ^ places)
    | none => none

def sleep : Utility := fun arguments => do
  let spec : UtilityOptions := { name := "sleep" }
  if arguments.isEmpty then spec.refuse ["missing operand".toList]
  for argument in arguments do
    match duration? argument with
    | some time => Work.wait time
    | none => spec.refuse ["invalid time interval ".toList, quotedName argument]
  return 0

def succeed : Utility := fun _ => return 0

def fail : Utility := fun _ => return 1

end Utility

end Stencil
