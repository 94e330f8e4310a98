import Stencil.Awk.Reader
import Stencil.Awk.Value
import Stencil.Utility.Lines
import Std.Data.HashMap.Basic

/-! # Running programs for records

A program is run on the records of its input, which are split into fields. Variables are
global, but for the parameters of functions; an array is passed to a function as itself.
-/

namespace Stencil.Awk

open Shell (ByteText)

/-- An array: its elements, and their indices with the newest first. -/
structure Store where
  elements : Std.HashMap ByteText Value := {}
  order : List ByteText := []

namespace Store

def put (store : Store) (index : ByteText) (value : Value) : Store :=
  match store with
  | { elements, order } =>
    let order := if elements.contains index then order else index :: order
    { elements := elements.insert index value, order }

def erase (store : Store) (index : ByteText) : Store :=
  { elements := store.elements.erase index, order := store.order.filter (· ≠ index) }

/-- The place of an index among sixty-four. -/
def bucket (index : ByteText) : Nat :=
  index.foldl (fun hash c => (hash ^^^ c.toNat) * 16777619 % 4294967296) 2166136261 % 64

/-- The indices in the order of their buckets. -/
def indices (store : Store) : List ByteText :=
  store.order.mergeSort fun one other => bucket one ≤ bucket other

end Store

/-- What a parameter of a function stands for. -/
inductive Binding where
  | value (value : Value)
  /-- An array by its name. -/
  | array (name : String)
  /-- Nothing yet; it may become the array of a name. -/
  | unused (name : String)

/-- The state of a run. -/
structure Scene where
  program : Program
  globals : Std.HashMap String Value
  arrays : Std.HashMap String Store
  /-- The parameters of the present function. -/
  bindings : List (String × Binding) := []
  /-- A number that makes names of arrays new. -/
  fresh : Nat := 0
  record : ByteText := []
  fields : Array ByteText := #[]
  /-- What is ahead of the present file, and the operands behind it. -/
  ahead : ByteText := []
  operands : List ByteText
  /-- Whether any file was named. -/
  usedFile : Bool := false
  /-- What is ahead in files that are read by name. -/
  readers : List (ByteText × ByteText) := []
  /-- Files that were written to. -/
  written : List ByteText := []
  /-- The rules whose ranges have begun, by their numbers. -/
  active : List Nat := []
  status : Nat := 0

/-- What interrupts statements. -/
inductive Jump where
  | next
  | exit
  | break
  | continue
  | return (value : Value)

abbrev Running := ExceptT Jump (StateT Scene Work)

namespace Running

def variableNamed (name : String) : Running Value := do
  return ((← get).globals.get? name).getD .nothing

def setVariable (name : String) (value : Value) : Running Unit :=
  modify fun scene => { scene with globals := scene.globals.insert name value }

def textOf (name : String) : Running ByteText := do
  return (← variableNamed name).toText "%.6g".toList

def text (value : Value) : Running ByteText := do
  match value with
  | .number _ => return value.toText (← textOf "CONVFMT")
  | _ => return value.toText []

def stop {α : Type} (wording : String) : Running α := do
  let name ← textOf "FILENAME"
  let number (counter : String) : Running ByteText := do
    return ByteText.ofInt (truncated (← variableNamed counter).toFloat)
  Work.mutter ("awk: run time error: ".toList ++ wording.toList ++ "\n\tFILENAME=\x22".toList ++ name ++
    "\x22 FNR=".toList ++ (← number "FNR") ++ " NR=".toList ++ (← number "NR") ++ ['\n'])
  throwThe Nat 2

/-- The expression that a value spells. -/
def regexOf (value : Value) : Running Regex := do
  match Regex.read .extended (← text value) with
  | .ok regex => return regex
  | .error error => stop ("regular expression compile failed (" ++ error.message ++ ")")

def splitBy (regex : Regex) (source : ByteText) : List ByteText :=
  let view : Regex.View := { text := source.toArray }
  let found := (regex.allMatches view).filter fun found => found.first < found.last
  let (pieces, last) := found.foldl
    (fun (state : List ByteText × Nat) found =>
      ((view.text.extract state.2 found.first).toList :: state.1, found.last))
    ([], 0)
  ((view.text.extract last view.text.size).toList :: pieces).reverse

def splitFields (separator : ByteText) (source : ByteText) : Running (List ByteText) := do
  if source.isEmpty then return []
  match separator with
  | [' '] => return ByteText.words source
  | [] => return source.map fun c => [c]
  | [c] => if c = '\\' || c = '|' || !(".*[]^$+?()".toList.contains c) then return Text.splitAll c source
           else return Text.splitAll c source
  | separator => return splitBy (← regexOf (.text separator)) source

def setRecord (record : ByteText) : Running Unit := do
  let separator ← textOf "FS"
  let fields ← splitFields separator record
  let lines := (← textOf "RS").isEmpty && separator ≠ ['\n']
  -- In paragraphs a line end separates fields, too.
  let fields := if lines && separator ≠ [' '] then fields.flatMap (Text.splitAll '\n') else fields
  modify fun scene =>
    { scene with
      record, fields := fields.toArray
      globals := scene.globals.insert "NF" (.number (Float.ofNat fields.length)) }

def joinFields (fields : Array ByteText) : Running Unit := do
  let separator ← textOf "OFS"
  modify fun scene =>
    { scene with
      fields, record := Text.join separator fields.toList
      globals := scene.globals.insert "NF" (.number (Float.ofNat fields.size)) }

def field (number : Nat) : Running Value := do
  let scene ← get
  if number = 0 then return .input scene.record
  match scene.fields[number - 1]? with
  | some text => return .input text
  | none => return .nothing

def mostFields : Nat := 32767

def setField (number : Nat) (value : ByteText) : Running Unit := do
  if number = 0 then setRecord value
  else if mostFields < number then stop "program limit exceeded: maximum number of fields size=32767"
  else
    let fields := (← get).fields
    let fields := fields ++ Array.replicate (number - fields.size) []
    joinFields (fields.set! (number - 1) value)

def arrayName (name : String) : Running String := do
  match (← get).bindings.lookup name with
  | some (.array id) => return id
  | some (.unused id) =>
    modify fun scene =>
      { scene with bindings := (name, .array id) :: scene.bindings.filter fun entry => entry.1 ≠ name }
    return id
  | _ => return name

def store (name : String) : Running Store := do
  let id ← arrayName name
  return ((← get).arrays.get? id).getD {}

def setStore (name : String) (store : Store) : Running Unit := do
  let id ← arrayName name
  modify fun scene => { scene with arrays := scene.arrays.insert id store }

def setElement (name : String) (index : ByteText) (value : Value) : Running Unit := do
  let id ← arrayName name
  modify fun scene =>
    { scene with
      arrays := scene.arrays.alter id fun store => some ((store.getD {}).put index value) }

/-- The first record of a text and what is behind it; none of an empty text. -/
def takeRecord? (separator : ByteText) (ahead : ByteText) : Running (Option (ByteText × ByteText)) := do
  match separator with
  | [] =>
    let ahead := ahead.dropWhile (· == '\n')
    if ahead.isEmpty then return none
    match Text.cutFirst? ['\n', '\n'] ahead with
    | some (record, rest) => return some (record, rest.dropWhile (· == '\n'))
    | none => return some ((ahead.reverse.dropWhile (· == '\n')).reverse, [])
  | [c] =>
    if ahead.isEmpty then return none
    return some ((Text.splitFirst? c ahead).getD (ahead, []))
  | separator =>
    if ahead.isEmpty then return none
    let regex ← regexOf (.text separator)
    let view : Regex.View := { text := ahead.toArray }
    match regex.search? view 0 with
    | some found => return some (ahead.take found.first, ahead.drop found.last)
    | none => return some (ahead, [])

def assignment? (operand : ByteText) : Option (String × ByteText) :=
  match Text.splitFirst? '=' operand with
  | some (name, value) =>
    if !name.isEmpty && name.all (fun c => c.isAlphanum || c == '_') && !name.head?.any Char.isDigit then
      some (String.ofList name, (Utility.unescape (value.length + 1) value).1)
    else none
  | none => none

def openNext (fuel : Nat) : Running Bool := do
  match fuel with
  | 0 => return false
  | fuel + 1 =>
    let scene ← get
    match scene.operands with
    | [] =>
      if scene.usedFile then return false
      let ahead ← Work.takeInput
      modify fun scene => { scene with ahead, usedFile := true }
      return true
    | operand :: rest =>
      modify fun scene => { scene with operands := rest }
      match assignment? operand with
      | some (name, value) =>
        setVariable name (.input value)
        openNext fuel
      | none =>
        if operand.isEmpty then openNext fuel
        else
          match ← Work.read operand with
          | .ok ahead =>
            modify fun scene => { scene with ahead, usedFile := true }
            setVariable "FILENAME" (.text (if operand = ['-'] then [] else operand))
            setVariable "FNR" (.number 0.0)
            return true
          | .error error =>
            Work.mutter ("awk: cannot open \x22".toList ++ operand ++ "\x22 (".toList ++
              Work.wording error ++ ")\n".toList)
            throwThe Nat 2

def nextRecord? (fuel : Nat) : Running (Option ByteText) := do
  match fuel with
  | 0 => return none
  | fuel + 1 =>
    match ← takeRecord? (← textOf "RS") (← get).ahead with
    | some (record, rest) =>
      modify fun scene => { scene with ahead := rest }
      let count (name : String) : Running Unit := do
        setVariable name (.number ((← variableNamed name).toFloat + 1.0))
      count "NR"
      count "FNR"
      return some record
    | none => if ← openNext (fuel + 8) then nextRecord? fuel else return none

def format (fuel : Nat) (name : String) (source : ByteText) (values : List Value) : Running ByteText := do
  match fuel, source with
  | 0, _ | _, [] => return []
  | fuel + 1, '%' :: '%' :: rest => return '%' :: (← format fuel name rest values)
  | fuel + 1, '%' :: rest =>
    let (directive, rest) := ({} : Directive).takeFlags rest
    let takeSize (rest : ByteText) (values : List Value) : Int × ByteText × List Value :=
      match rest, values with
      | '*' :: rest, value :: values => (truncated value.toFloat, rest, values)
      | rest, values =>
        let (count, rest) := Directive.takeCount rest
        (count, rest, values)
    let (width, rest, values) := takeSize rest values
    let (precision, rest, values) : Option Nat × ByteText × List Value := match rest with
      | '.' :: rest =>
        let (precision, rest, values) := takeSize rest values
        (if precision < 0 then none else some precision.toNat, rest, values)
      | rest => (none, rest, values)
    let rest := rest.dropWhile fun c => c == 'l' || c == 'h'
    let directive := { directive with width := width.natAbs, left := directive.left || width < 0, precision }
    match rest with
    | [] => return '%' :: []
    | style :: after =>
      if !("sdicouxXeEfFgG".toList.contains style) then
        return '%' :: style :: (← format fuel name after values)
      match values with
      | [] => stop ("not enough arguments passed to " ++ name ++ "(\x22" ++ ByteText.toString source ++ "\x22)")
      | value :: values =>
        let laid ← match style with
          | 's' => pure (directive.layText (← text value))
          | 'c' =>
            match value with
            | .number code => pure (directive.pad [Char.ofNat (truncated code % 256).toNat])
            | _ => pure (directive.pad ((← text value).take 1))
          | 'd' | 'i' => pure (directive.layInteger (truncated value.toFloat))
          | 'o' | 'u' | 'x' | 'X' =>
            pure (directive.layUnsigned style (truncated value.toFloat % 18446744073709551616).toNat)
          | style => pure (layFloat directive style value.toFloat)
        return laid ++ (← format fuel name after values)
  | fuel + 1, c :: rest =>
    let plain := rest.takeWhile (· != '%')
    return c :: plain ++ (← format fuel name (rest.drop plain.length) values)

def replacement (found : ByteText) : ByteText → ByteText
  | '\\' :: '\\' :: '&' :: rest => '\\' :: found ++ replacement found rest
  | '\\' :: '&' :: rest => '&' :: replacement found rest
  | '&' :: rest => found ++ replacement found rest
  | c :: rest => c :: replacement found rest
  | [] => []

/-- A text with matches replaced, and how many there are. -/
def substitute (regex : Regex) (everywhere : Bool) (filling source : ByteText) : ByteText × Nat :=
  let view : Regex.View := { text := source.toArray }
  let found := if everywhere then regex.allMatches view else (regex.search? view 0).toList
  let (done, last) := found.foldl
    (fun (state : List ByteText × Nat) found =>
      let between := (view.text.extract state.2 found.first).toList
      let matched := (view.text.extract found.first found.last).toList
      (replacement matched filling :: between :: state.1, found.last))
    ([], 0)
  (((view.text.extract last view.text.size).toList :: done).reverse.flatten, found.length)

def part (source : ByteText) (start : Float) (length : Option Float) : ByteText :=
  let first := start.round
  let last := match length with
    | some length => first + length.round
    | none => Float.ofNat (source.length + 1)
  let low := max 1 (truncated first)
  let high := min (source.length + 1 : Int) (truncated last)
  if high ≤ low then [] else (source.drop (low - 1).toNat).take (high - low).toNat

def apply (operator : Arithmetic) (a b : Float) : Float :=
  match operator with
  | .plus => a + b
  | .minus => a - b
  | .times => a * b
  | .over => a / b
  | .modulo =>
    let quotient := a / b
    let whole := if quotient < 0.0 then quotient.ceil else quotient.floor
    a - whole * b
  | .power => Float.pow a b

def compareValues (order : Comparison) (left right : Value) : Running Bool := do
  if left.isNumeric && right.isNumeric then
    let (a, b) := (left.toFloat, right.toFloat)
    return match order with
      | .less => a < b
      | .lessOrEqual => a <= b
      | .equal => a == b
      | .unequal => a != b
      | .greater => a > b
      | .greaterOrEqual => a >= b
  else
    let (a, b) := (← text left, ← text right)
    return match order with
      | .less => ByteText.isAtMost a b && a ≠ b
      | .lessOrEqual => ByteText.isAtMost a b
      | .equal => a = b
      | .unequal => a ≠ b
      | .greater => !ByteText.isAtMost a b
      | .greaterOrEqual => ByteText.isAtMost b a

/-- Print a text to a file, or to a stream by its name. -/
def printTo (name : ByteText) (appends : Bool) (printed : ByteText) : Running Unit := do
  match String.ofList name with
  | "/dev/stdout" | "-" => Work.print printed
  | "/dev/stderr" => Work.mutter printed
  | _ =>
    let continues := appends || (← get).written.contains name
    modify fun scene => { scene with written := name :: scene.written }
    match ← Work.write name continues printed with
    | .ok () => pure ()
    | .error error =>
      Work.mutter ("awk: cannot open \x22".toList ++ name ++ "\x22 (".toList ++ Work.wording error ++ ")\n".toList)
      throwThe Nat 2

def mostRounds : Nat := 1000000

/-- There is no end of a loop. -/
def neverEnd : Running Unit :=
  liftM (throw Work.endless : Work Unit)

/-- Go round as long as the rounds tell to go on. -/
def rounds (round : Running Bool) : Running Unit := do
  let mut goesOn := true
  for _ in [0:mostRounds] do
    if goesOn then goesOn ← round
    else break
  if goesOn then neverEnd

def numberFunction? (name : String) : Option (Float → Float) :=
  match name with
  | "sin" => some Float.sin
  | "cos" => some Float.cos
  | "exp" => some Float.exp
  | "log" => some Float.log
  | "sqrt" => some Float.sqrt
  | "int" => some fun value => if value < 0.0 then value.ceil else value.floor
  | _ => none

def valueOf (name : String) : Running Value := do
  match (← get).bindings.lookup name with
  | some (.value value) => return value
  | some _ => return .nothing
  | none =>
    if name = "NF" then return .number (Float.ofNat (← get).fields.size)
    variableNamed name

/-- An element of an array, which has it from now on. -/
def elementOf (array : String) (index : ByteText) : Running Value := do
  match (← store array).elements.get? index with
  | some value => return value
  | none =>
    setElement array index .nothing
    return .nothing

def newName : Running String := do
  let number := (← get).fresh
  modify fun scene => { scene with fresh := number + 1 }
  return "#" ++ toString number

/-- The next record of a file that is read by its name. -/
def takeFrom (name ahead : ByteText) : Running (Option ByteText) := do
  match ← takeRecord? (← textOf "RS") ahead with
  | none => return none
  | some (record, rest) =>
    modify fun scene =>
      { scene with readers := (name, rest) :: scene.readers.filter fun entry => entry.1 ≠ name }
    return some record

/-- The next record of a named file; `none` if it cannot be read. -/
def recordOf? (name : ByteText) : Running (Option (Option ByteText)) := do
  match (← get).readers.lookup name with
  | some ahead => return some (← takeFrom name ahead)
  | none =>
    match ← Work.read name with
    | .ok ahead => return some (← takeFrom name ahead)
    | .error _ => return none

/-- What a variable is to a function that it is passed to; `none` if its value is passed. -/
def passed? (name : String) : Running (Option Binding) := do
  match (← get).bindings.lookup name with
  | some binding => return some binding
  | none =>
    let scene ← get
    if scene.arrays.contains name then return some (.array name)
    else if scene.globals.contains name then return none
    else return some (.unused name)

/-- Run the body of a function with its own parameters. -/
def withBindings (bindings : List (String × Binding)) (body : Running Unit) : Running Value := do
  let kept := (← get).bindings
  modify fun scene => { scene with bindings }
  let value ← try
      body
      pure Value.nothing
    catch jump =>
      match jump with
      | .return value => pure value
      | jump =>
        modify fun scene => { scene with bindings := kept }
        throw jump
  modify fun scene => { scene with bindings := kept }
  return value

/-! ## Expressions

What the kinds of expressions do, given how the expressions in them are evaluated and how a value is
assigned.
-/

section Evaluating

variable (eval : Expr → Running Value) (assign : Expr → Value → Running Unit)

def evalAssign (target : Expr) (operator : Option Arithmetic) (value : Expr) : Running Value := do
  match operator with
  | none =>
    let value ← eval value
    assign target value
    return value
  | some operator =>
    let right := (← eval value).toFloat
    let left := (← eval target).toFloat
    let value : Value := .number (apply operator left right)
    assign target value
    return value

def evalOr (left right : Expr) : Running Value := do
  if (← eval left).isTrue then return Value.truth true
  return Value.truth (← eval right).isTrue

def evalAnd (left right : Expr) : Running Value := do
  if !(← eval left).isTrue then return Value.truth false
  return Value.truth (← eval right).isTrue

def evalMatching (negated : Bool) (left right : Expr) : Running Value := do
  let source ← text (← eval left)
  let regex ← match right with
    | .regex regex => pure regex
    | right => regexOf (← eval right)
  return Value.truth (regex.occursIn false source != negated)

def evalCompare (order : Comparison) (left right : Expr) : Running Value := do
  let left ← eval left
  let right ← eval right
  return Value.truth (← compareValues order left right)

def evalConcat (left right : Expr) : Running Value := do
  let left ← text (← eval left)
  let right ← text (← eval right)
  return .text (left ++ right)

def evalArithmetic (operator : Arithmetic) (left right : Expr) : Running Value := do
  let left := (← eval left).toFloat
  let right := (← eval right).toFloat
  return .number (apply operator left right)

def evalChange (target : Expr) (step : Float) (valueBefore : Bool) : Running Value := do
  let before := (← eval target).toFloat
  assign target (.number (before + step))
  return .number (if valueBefore then before else before + step)

/-- Take the next record, of a file if one is named, into a target if one is named. -/
def evalNextRecord (target file : Option Expr) : Running Value := do
  let record?? ← match file with
    | none => do pure (some (← nextRecord? 1000))
    | some name => do recordOf? (← text (← eval name))
  match record?? with
  | none => return .number (-1.0)
  | some none => return .number 0.0
  | some (some record) =>
    match target with
    | some target => assign target (.input record)
    | none => setRecord record
    return .number 1.0

/-- What a parameter is bound to for an argument. -/
def bindingOf (argument? : Option Expr) : Running Binding := do
  match argument? with
  | none => return .unused (← newName)
  | some (.variable name) =>
    match ← passed? name with
    | some binding => return binding
    | none => return .value (← eval (.variable name))
  | some argument => return .value (← eval argument)

def evalCall (exec : List Statement → Running Unit) (name : String) (arguments : List Expr) :
    Running Value := do
  match (← get).program.functions.lookup name with
  | none => stop ("function " ++ name ++ " never defined")
  | some function =>
    let bindings ← function.parameters.zipIdx.mapM fun (parameter, i) => do
      return (parameter, ← bindingOf eval arguments[i]?)
    withBindings bindings.reverse (exec function.body)

/-! ### Functions that every program has -/

def numberAt (arguments : List Expr) (i : Nat) : Running Float := do
  match arguments[i]? with
  | some argument => return (← eval argument).toFloat
  | none => return 0.0

def textAt (arguments : List Expr) (i : Nat) : Running ByteText := do
  match arguments[i]? with
  | some argument => text (← eval argument)
  | none => return []

def regexAt (arguments : List Expr) (i : Nat) : Running Regex := do
  match arguments[i]? with
  | some (.regex regex) => return regex
  | some argument => regexOf (← eval argument)
  | none => return .empty

def evalLength (arguments : List Expr) : Running Value := do
  match arguments with
  | [] => return .number (Float.ofNat (← get).record.length)
  | .variable array :: _ =>
    let id := match (← get).bindings.lookup array with
      | some (.array id) => id
      | _ => array
    match (← get).arrays.get? id with
    | some store => return .number (Float.ofNat store.elements.size)
    | none => return .number (Float.ofNat (← textAt eval arguments 0).length)
  | _ => return .number (Float.ofNat (← textAt eval arguments 0).length)

def evalSubstr (arguments : List Expr) : Running Value := do
  let source ← textAt eval arguments 0
  let start ← numberAt eval arguments 1
  let length ← if arguments.length < 3 then pure none
    else do pure (some (← numberAt eval arguments 2))
  return .text (part source start length)

def evalIndex (arguments : List Expr) : Running Value := do
  let source ← textAt eval arguments 0
  let needle ← textAt eval arguments 1
  match Text.cutFirst? needle source with
  | some (before, _) =>
    return .number (if needle.isEmpty then 0.0 else Float.ofNat (before.length + 1))
  | none => return .number 0.0

def evalSplit (arguments : List Expr) : Running Value := do
  let source ← textAt eval arguments 0
  let separator : Option Expr := arguments[2]?
  let pieces : List ByteText ← match separator with
    | none => do splitFields (← textOf "FS") source
    | some (.regex regex) => pure (if source.isEmpty then [] else splitBy regex source)
    | some separator => do splitFields (← text (← eval separator)) source
  let target : Option Expr := arguments[1]?
  match target with
  | some (.variable array) =>
    let store := pieces.zipIdx.foldl (fun (store : Store) (piece, i) =>
      store.put (ByteText.ofNat (i + 1)) (.input piece)) {}
    setStore array store
  | _ => pure ()
  return .number (Float.ofNat pieces.length)

/-- Fill the first match, or each of them, in a target, which is the record if none is named. -/
def evalSubstitute (everywhere : Bool) (arguments : List Expr) : Running Value := do
  let regex ← regexAt eval arguments 0
  let filling ← textAt eval arguments 1
  let target := (arguments[2]?).getD (.field (.number 0.0))
  let source ← text (← eval target)
  let (result, count) := substitute regex everywhere filling source
  if count ≠ 0 then assign target (.text result)
  return .number (Float.ofNat count)

def evalMatch (arguments : List Expr) : Running Value := do
  let source ← textAt eval arguments 0
  let regex ← regexAt eval arguments 1
  let (start, length) : Float × Float := match regex.search? { text := source.toArray } 0 with
    | some found => (Float.ofNat (found.first + 1), Float.ofNat (found.last - found.first))
    | none => (0.0, -1.0)
  setVariable "RSTART" (.number start)
  setVariable "RLENGTH" (.number length)
  return .number start

def evalSprintf (arguments : List Expr) : Running Value := do
  let values ← (arguments.drop 1).mapM eval
  let source ← textAt eval arguments 0
  return .text (← format (source.length + 1) "sprintf" source values)

/-- Forget a file, so that it is read and written from its beginning. -/
def evalClose (arguments : List Expr) : Running Value := do
  let file ← textAt eval arguments 0
  modify fun scene =>
    { scene with readers := scene.readers.filter fun entry => entry.1 ≠ file
                 written := scene.written.filter fun other => other ≠ file }
  return .number 0.0

def evalBuiltin (name : String) (arguments : List Expr) : Running Value := do
  match name with
  | "length" => evalLength eval arguments
  | "substr" => evalSubstr eval arguments
  | "index" => evalIndex eval arguments
  | "split" => evalSplit eval arguments
  | "sub" | "gsub" => evalSubstitute eval assign (name = "gsub") arguments
  | "match" => evalMatch eval arguments
  | "sprintf" => evalSprintf eval arguments
  | "tolower" => return .text ((← textAt eval arguments 0).map Regex.lower)
  | "toupper" => return .text ((← textAt eval arguments 0).map Regex.upper)
  | "atan2" => return .number (Float.atan2 (← numberAt eval arguments 0) (← numberAt eval arguments 1))
  | "close" => evalClose eval arguments
  | _ =>
    match numberFunction? name with
    | some function => return .number (function (← numberAt eval arguments 0))
    | none => return .number 0.0

end Evaluating

mutual

def eval (fuel : Nat) (expr : Expr) : Running Value := do
  match fuel with
  | 0 => stop "function call nested too deep"
  | fuel + 1 =>
    match expr with
    | .number value => return .number value
    | .text text => return .text text
    | .regex regex => return Value.truth (regex.occursIn false (← get).record)
    | .variable name => valueOf name
    | .element array indices => elementOf array (← indexOf fuel indices)
    | .field number => field (truncated (← eval fuel number).toFloat).toNat
    | .assign target operator value => evalAssign (eval fuel) (assign fuel) target operator value
    | .choice test yes no =>
      if (← eval fuel test).isTrue then eval fuel yes else eval fuel no
    | .or left right => evalOr (eval fuel) left right
    | .and left right => evalAnd (eval fuel) left right
    | .isIn indices array =>
      let index ← indexOf fuel indices
      return Value.truth ((← store array).elements.contains index)
    | .matching negated left right => evalMatching (eval fuel) negated left right
    | .compare order left right => evalCompare (eval fuel) order left right
    | .concat left right => evalConcat (eval fuel) left right
    | .arithmetic operator left right => evalArithmetic (eval fuel) operator left right
    | .not inner => return Value.truth !(← eval fuel inner).isTrue
    | .negate inner => return .number (-(← eval fuel inner).toFloat)
    | .toNumber inner => return .number (← eval fuel inner).toFloat
    | .change target step valueBefore =>
      evalChange (eval fuel) (assign fuel) target step valueBefore
    | .grouping [inner] => eval fuel inner
    | .grouping items => return .text (← indexOf fuel items)
    | .nextRecord target file => evalNextRecord (eval fuel) (assign fuel) target file
    | .builtin name arguments => builtin fuel name arguments
    | .call name arguments => evalCall (eval fuel) (exec fuel) name arguments

def indexOf (fuel : Nat) (items : List Expr) : Running ByteText := do
  match fuel with
  | 0 => return []
  | fuel + 1 =>
    let texts ← items.mapM fun item => do text (← eval fuel item)
    match texts with
    | [text] => return text
    | texts => return Text.join (← textOf "SUBSEP") texts

def assign (fuel : Nat) (target : Expr) (value : Value) : Running Unit := do
  match fuel with
  | 0 => return
  | fuel + 1 =>
    match target with
    | .variable name =>
      match (← get).bindings.lookup name with
      | some _ =>
        modify fun scene =>
          { scene with
            bindings := (name, .value value) :: scene.bindings.filter fun entry => entry.1 ≠ name }
      | none =>
        if name = "NF" then
          let count := (truncated value.toFloat).toNat
          let fields := (← get).fields
          joinFields (fields.take count ++ Array.replicate (count - fields.size) [])
        else setVariable name value
    | .element array indices => setElement array (← indexOf fuel indices) value
    | .field number =>
      let number := (truncated (← eval fuel number).toFloat).toNat
      setField number (← text value)
    | .grouping [inner] => assign fuel inner value
    | _ => return

def builtin (fuel : Nat) (name : String) (arguments : List Expr) : Running Value := do
  match fuel with
  | 0 => return .nothing
  | fuel + 1 => evalBuiltin (eval fuel) (assign fuel) name arguments

/-- The text that print statements print to a destination. -/
def deliver (fuel : Nat) (destination : Destination) (printed : ByteText) : Running Unit := do
  match fuel with
  | 0 => return
  | fuel + 1 =>
    match destination with
    | .standard => Work.print printed
    | .file name appends => printTo (← text (← eval fuel name)) appends printed
    | .command command =>
      let words := ByteText.words (← text (← eval fuel command))
      if words.contains "1>&2".toList || words.contains ">&2".toList then Work.mutter printed
      else Work.print printed

def exec (fuel : Nat) (statements : List Statement) : Running Unit := do
  match fuel with
  | 0 => stop "function call nested too deep"
  | fuel + 1 =>
    for statement in statements do
      step fuel statement

/-- Run the body of a loop; whether the loop goes on. -/
def round (fuel : Nat) (body : List Statement) : Running Bool := do
  match fuel with
  | 0 => return false
  | fuel + 1 =>
    try
      exec fuel body
      return true
    catch jump =>
      match jump with
      | .break => return false
      | .continue => return true
      | jump => throw jump

def step (fuel : Nat) (statement : Statement) : Running Unit := do
  match fuel with
  | 0 => stop "function call nested too deep"
  | fuel + 1 =>
    match statement with
    | .expr expr =>
      let _ ← eval fuel expr
    | .print items destination =>
      let format ← textOf "OFMT"
      let texts ← if items.isEmpty then do pure [(← get).record]
        else items.mapM fun item => do return (← eval fuel item).toText format
      let printed := Text.join (← textOf "OFS") texts ++ (← textOf "ORS")
      deliver fuel destination printed
    | .printf items destination =>
      let values ← items.mapM (eval fuel)
      match values with
      | [] => return
      | first :: values =>
        let source ← text first
        deliver fuel destination (← format (source.length + 1) "printf" source values)
    | .choice test yes no =>
      if (← eval fuel test).isTrue then exec fuel yes else exec fuel no
    | .while test body =>
      rounds do
        if (← eval fuel test).isTrue then round fuel body else return false
    | .doWhile body test =>
      rounds do
        if ← round fuel body then return (← eval fuel test).isTrue else return false
    | .for first test next body =>
      exec fuel first
      rounds do
        let holds ← match test with
          | some test => do pure (← eval fuel test).isTrue
          | none => pure true
        if !holds then return false
        if !(← round fuel body) then return false
        exec fuel next
        return true
    | .forIn name array body =>
      for index in (← store array).indices do
        assign fuel (.variable name) (.input index)
        if !(← round fuel body) then break
    | .block body => exec fuel body
    | .break => throw .break
    | .continue => throw .continue
    | .next => throw .next
    | .exit status =>
      match status with
      | some status =>
        let code := (truncated (← eval fuel status).toFloat % 256).toNat
        modify fun scene => { scene with status := code }
      | none => pure ()
      throw .exit
    | .return value =>
      match value with
      | some value => throw (.return (← eval fuel value))
      | none => throw (.return .nothing)
    | .delete array [] => setStore array {}
    | .delete array indices =>
      let index ← indexOf fuel indices
      setStore array ((← store array).erase index)

end

/-- How deep expressions and calls may nest. -/
def depth : Nat := 4000

def act (action : Option (List Statement)) : Running Unit := do
  match action with
  | some body => exec depth body
  | none => Work.print ((← get).record ++ (← textOf "ORS"))

def applies (number : Nat) (pattern : RulePattern) : Running Bool := do
  match pattern with
  | .begin | .finish => return false
  | .all => return true
  | .one test => return (← eval depth test).isTrue
  | .range first last =>
    let isActive := (← get).active.contains number
    if !isActive && !(← eval depth first).isTrue then return false
    let ends := (← eval depth last).isTrue
    modify fun scene =>
      let others := scene.active.filter (· ≠ number)
      { scene with active := if ends then others else number :: others }
    return true

def runRecords (fuel : Nat) (rules : List Rule) : Running Unit := do
  for _ in [0:fuel] do
    match ← nextRecord? 1000 with
    | none => return
    | some record =>
      setRecord record
      try
        for (rule, number) in rules.zipIdx do
          if ← applies number rule.pattern then act rule.action
      catch jump =>
        match jump with
        | .exit => throw .exit
        | _ => pure ()

/-- Run the rules of one kind that stand before or behind all records. -/
def runRules (rules : List Rule) (isKind : RulePattern → Bool) : Running Unit := do
  for rule in rules do
    if isKind rule.pattern then act rule.action

/-- Run a part of a program; whether it was ended. -/
def ended (running : Running Unit) : Running Bool := do
  try
    running
    return false
  catch jump =>
    match jump with
    | .exit => return true
    | _ => return false

def runProgram (program : Program) : Running Unit := do
  let isBegin (pattern : RulePattern) : Bool := match pattern with
    | .begin => true
    | _ => false
  let isFinish (pattern : RulePattern) : Bool := match pattern with
    | .finish => true
    | _ => false
  let hasRecords := program.rules.any fun rule => !isBegin rule.pattern
  let isOver ← ended (runRules program.rules isBegin)
  let isOver ← if isOver || !hasRecords then pure isOver else ended (runRecords mostRounds program.rules)
  let _ := isOver
  if hasRecords then
    let _ ← ended (runRules program.rules isFinish)

end Running

def startVariables : List (String × Value) :=
  [("FS", .text [' ']), ("OFS", .text [' ']), ("ORS", .text ['\n']), ("RS", .text ['\n']),
   ("SUBSEP", .text ['\x1c']), ("CONVFMT", .text "%.6g".toList), ("OFMT", .text "%.6g".toList),
   ("NR", .number 0.0), ("FNR", .number 0.0), ("NF", .number 0.0), ("FILENAME", .text []),
   ("RSTART", .number 0.0), ("RLENGTH", .number (-1.0))]

end Stencil.Awk

namespace Stencil.Utility

open Shell (ByteText)

def awk : Utility := fun arguments => do
  let spec : UtilityOptions := { valued := "FvfW", mixes := false, failure := 2, name := "awk" }
  let given ← spec.read arguments
  let fromFiles ← (given.values 'f').mapM fun name => do
    match ← Work.read name with
    | .ok text => pure text
    | .error error => Work.stop 2 ["couldn't open program file: ".toList, name, ": ".toList, Work.wording error]
  let (source, operands) ← if given.has 'f' then
      pure (Text.join ['\n'] fromFiles, given.operands)
    else
      match given.operands with
      | source :: operands => pure (source, operands)
      | [] =>
        Work.mutter "Usage: mawk [Options] [Program] [file ...]\n".toList
        throw 2
  let program ← match Awk.Program.read source with
    | .ok program => pure program
    | .error wording => Work.stop 2 [wording.toList]
  let separator := (given.value? 'F').map fun text =>
    ("FS", Awk.Value.text (if text = ['t'] then ['t'] else (unescape (text.length + 1) text).1))
  let assigned := (given.values 'v').filterMap fun text =>
    (Awk.Running.assignment? text).map fun (name, value) => (name, Awk.Value.input value)
  let globals := (Awk.startVariables ++ separator.toList ++ assigned).foldl
    (fun (map : Std.HashMap String Awk.Value) entry => map.insert entry.1 entry.2) {}
  let words := "awk".toList :: operands
  let arguments := (words.zipIdx).foldl (fun (store : Awk.Store) (word, i) =>
    store.put (ByteText.ofNat i) (.input word)) {}
  let globals := globals.insert "ARGC" (.number (Float.ofNat words.length))
  let scene : Awk.Scene :=
    { program, globals, operands
      arrays := ({} : Std.HashMap String Awk.Store).insert "ARGV" arguments }
  let (_, scene) ← (Awk.Running.runProgram program).run.run scene
  return scene.status

end Stencil.Utility
