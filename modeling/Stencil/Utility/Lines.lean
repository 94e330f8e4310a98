import Stencil.Regex.CharacterSet
import Stencil.Utility.Output

/-! # Utilities for lines

Utilities that take text line by line or byte by byte: they count, choose, order and change
what they read.
-/

namespace Stencil

open Shell (ByteText)

namespace Utility

/-- The lines of a text with their ends, the last of which may be missing. -/
def linesWithEnds (text : ByteText) : List ByteText :=
  let lines := ByteText.lines text
  if text.getLast? = some '\n' then lines.map (· ++ ['\n'])
  else lines.mapIdx fun i line => if i + 1 = lines.length then line else line ++ ['\n']

/-- A number to the right of a field of the given width. -/
def padNumber (width : Nat) (number : Nat) : ByteText :=
  ({ width } : Directive).pad (ByteText.ofNat number)

/-- How `cat` shows a character that is none of those printed as they are. -/
def visible (c : Char) : ByteText :=
  let low (code : Nat) : ByteText :=
    if code < 32 then ['^', Char.ofNat (code + 64)]
    else if code = 127 then ['^', '?']
    else [Char.ofNat code]
  if c.toNat < 128 then low c.toNat else 'M' :: '-' :: low (c.toNat - 128)

/-- Print files one after the other, as far as they can be read. -/
def copyAll (hasNoEnd : ByteText → Bool) (names : List ByteText) : Work Nat := do
  let mut status := 0
  for name in if names.isEmpty then [['-']] else names do
    match ← Work.read name with
    | .ok text =>
      Work.print text
      if hasNoEnd name then throw Work.endless
    | .error error =>
      Work.complainOf (Work.plainComplaint name error)
      status := 1
  return status

def cat : Utility := fun arguments => do
  let spec : UtilityOptions :=
    { flags := "nbsEATvuet", long := [("number", 'n'), ("number-nonblank", 'b'), ("squeeze-blank", 's'),
        ("show-ends", 'E'), ("show-all", 'A'), ("show-tabs", 'T'), ("show-nonprinting", 'v')]
      name := "cat" }
  let given ← spec.read arguments
  let tree := (← get).tree
  let hasNoEnd (name : ByteText) : Bool :=
    match tree.lookup (Work.pathOf name) with
    | .ok (_, .device .zero) | .ok (_, .device .full) => true
    | _ => false
  if given.options.isEmpty then return ← copyAll hasNoEnd given.operands
  let (texts, status) ← Work.readAll given.operands Work.plainComplaint
  let text := (texts.map Prod.snd).flatten
  let showsEnds := given.has 'E' || given.has 'A' || given.has 'e'
  let showsTabs := given.has 'T' || given.has 'A' || given.has 't'
  let showsOthers := given.has 'v' || given.has 'A' || given.has 'e' || given.has 't'
  let showChar (c : Char) : ByteText :=
    if c = '\n' then if showsEnds then ['$', '\n'] else ['\n']
    else if c = '\t' then if showsTabs then ['^', 'I'] else [c]
    else if showsOthers then visible c else [c]
  if given.has 'n' || given.has 'b' || given.has 's' || showsEnds || showsTabs || showsOthers then
    let mut number := 1
    let mut wasBlank := false
    for line in linesWithEnds text do
      let isBlank := line = ['\n']
      if !(given.has 's' && isBlank && wasBlank) then
        if given.has 'b' && isBlank || !(given.has 'n' || given.has 'b') then
          Work.print (line.flatMap showChar)
        else
          Work.print (padNumber 6 number ++ '\t' :: line.flatMap showChar)
          number := number + 1
      wasBlank := isBlank
  else Work.print text
  return status

def tac : Utility := fun arguments => do
  let given ← ({ name := "tac" } : UtilityOptions).read arguments
  let (texts, status) ← Work.readAll given.operands fun name error =>
    ["failed to open ".toList, quotedName name, " for reading: ".toList, Work.wording error]
  for (_, text) in texts do
    Work.print (linesWithEnds text).reverse.flatten
  return status

/-- A number of lines or bytes, with its unit. -/
def count? (text : ByteText) : Option Nat :=
  let digits := text.takeWhile Char.isDigit
  (Text.decimal? digits).bind fun number =>
    match String.ofList (text.drop digits.length) with
    | "" => some number
    | "b" => some (number * 512)
    | "k" | "K" | "KiB" => some (number * 1024)
    | "kB" | "KB" => some (number * 1000)
    | "M" | "MiB" => some (number * 1048576)
    | "MB" => some (number * 1000000)
    | "G" | "GiB" => some (number * 1073741824)
    | _ => none

/-- A part of a text that is counted from one of its ends. -/
structure Portion where
  /-- Whether bytes are counted, else lines. -/
  ofBytes : Bool
  /-- Whether the number is of what is left out. -/
  isRest : Bool
  number : Nat

/-- The portion that options of `head` and `tail` ask for. -/
def readPortion (restMark : Char) (given : Arguments) : Work Portion := do
  let wanted := given.options.filter fun option => option.1 = 'n' || option.1 = 'c'
  match wanted.getLast? with
  | none => return { ofBytes := false, isRest := false, number := 10 }
  | some (letter, value) =>
    let (isRest, digits) := match value with
      | mark :: rest =>
        if mark = restMark then (true, rest)
        else if mark = '-' || mark = '+' then (false, rest)
        else (false, value)
      | [] => (false, [])
    match count? digits with
    | some number => return { ofBytes := letter = 'c', isRest, number }
    | none =>
      Work.stop 1 [if letter = 'c' then "invalid number of bytes: ".toList
        else "invalid number of lines: ".toList, quotedName value]

/-- Arguments in which a number as an option is that of lines. -/
def spellCount (mark : Char) (arguments : List ByteText) : List ByteText :=
  match arguments with
  | (sign :: digit :: digits) :: rest =>
    if (sign = '-' || sign = mark) && digit.isDigit then
      let number := digit :: digits.takeWhile Char.isDigit
      let unit := digits.dropWhile Char.isDigit
      let value := if sign = '+' then '+' :: number else number
      (if unit = ['c'] then ['-', 'c'] else ['-', 'n']) :: value :: rest
    else arguments
  | _ => arguments

/-- Print a portion of each file, with the names of files if there are several. What is to
    be read is taken only as far as it is printed if `leaves`. -/
def printPortions (given : Arguments) (leaves : Bool) (portion : ByteText → ByteText) :
    Work Nat := do
  let names := if given.operands.isEmpty then [['-']] else given.operands
  let showsNames := !given.has 'q' && (given.has 'v' || 1 < names.length)
  let mut status := 0
  let mut isFirst := true
  for name in names do
    match ← Work.read name with
    | .error .isAFolder =>
      Work.complainOf ["error reading ".toList, quotedName name, ": Is a directory".toList]
      status := 1
    | .error error =>
      Work.complainOf
        ["cannot open ".toList, quotedName name, " for reading: ".toList, Work.wording error]
      status := 1
    | .ok text =>
      if showsNames then
        let shown := if name = ['-'] then "standard input".toList else name
        Work.print ((if isFirst then [] else ['\n']) ++ "==> ".toList ++ shown ++ " <==\n".toList)
      isFirst := false
      let printed := portion text
      Work.print printed
      if leaves && name = ['-'] then
        modify fun desk => { desk with input := text.drop printed.length }
  return status

def head : Utility := fun arguments => do
  let spec : UtilityOptions :=
    { flags := "qvz", valued := "nc"
      long := [("lines", 'n'), ("bytes", 'c'), ("quiet", 'q'), ("silent", 'q'), ("verbose", 'v')]
      name := "head" }
  let given ← spec.read (spellCount '-' arguments)
  let wanted ← readPortion '-' given
  printPortions given true fun text =>
    if wanted.ofBytes then
      text.take (if wanted.isRest then text.length - wanted.number else wanted.number)
    else
      let lines := linesWithEnds text
      (lines.take (if wanted.isRest then lines.length - wanted.number else wanted.number)).flatten

def tail : Utility := fun arguments => do
  let spec : UtilityOptions :=
    { flags := "qvzfF", valued := "nc"
      long := [("lines", 'n'), ("bytes", 'c'), ("quiet", 'q'), ("silent", 'q'), ("verbose", 'v')]
      name := "tail" }
  let given ← spec.read (spellCount '+' arguments)
  let wanted ← readPortion '+' given
  let drop (length : Nat) : Nat :=
    if wanted.isRest then wanted.number - 1 else length - wanted.number
  let status ← printPortions given false fun text =>
    if wanted.ofBytes then text.drop (drop text.length)
    else
      let lines := linesWithEnds text
      (lines.drop (drop lines.length)).flatten
  let follows := (given.has 'f' || given.has 'F') && !given.operands.isEmpty
  return if follows && status = 0 then Work.endless else status

/-- What there is in a text: lines, words, characters, bytes, and the longest line. -/
def countsOf (text : ByteText) : List (Char × Nat) :=
  let longest := ((ByteText.lines text).map List.length).foldl max 0
  [('l', text.count '\n'), ('w', (ByteText.words text).length), ('m', text.length),
   ('c', text.length), ('L', longest)]

def wc : Utility := fun arguments => do
  let spec : UtilityOptions :=
    { flags := "lwcmL", long := [("lines", 'l'), ("words", 'w'), ("bytes", 'c'), ("chars", 'm'),
        ("max-line-length", 'L')]
      name := "wc" }
  let given ← spec.read arguments
  let wanted (letter : Char) : Bool :=
    if given.options.isEmpty then ['l', 'w', 'c'].contains letter else given.has letter
  let pick (counts : List (Char × Nat)) : List Nat :=
    (counts.filter fun entry => wanted entry.1).map Prod.snd
  let readsFile := (← get).readsFile
  let (texts, status) ← Work.readAll given.operands Work.plainComplaint
  let rows := texts.map fun (name, text) => (name, countsOf text)
  let total : List (Char × Nat) := ['l', 'w', 'm', 'c', 'L'].map fun letter =>
    let numbers := rows.map fun row => (row.2.lookup letter).getD 0
    (letter, if letter = 'L' then numbers.foldl max 0 else numbers.foldl (· + ·) 0)
  let many := 1 < given.operands.length
  let onlyOne := !many && (pick total).length = 1
  let size := (total.lookup 'c').getD 0
  let usesInput := given.operands.isEmpty || given.operands.contains ['-']
  let width := if onlyOne then 1
    else
      let digits := (ByteText.ofNat size).length
      if usesInput && !readsFile then max 7 digits else digits
  let printRow (name : ByteText) (counts : List (Char × Nat)) : Work Unit :=
    let fields := (pick counts).map (padNumber width)
    let label := if given.operands.isEmpty then [] else ' ' :: name
    Work.printLine (Text.join [' '] fields ++ label)
  for (name, counts) in rows do
    printRow name counts
  if many then printRow "total".toList total
  return status

def classMembers (name : String) : List Char :=
  match isInClass? name with
  | some isIn => ((List.range 256).map Char.ofNat).filter isIn
  | none => []

/-- A character of a set from its start, an escape taken together, and what follows it. -/
def takeSetChar (set : ByteText) : Option (Char × ByteText) :=
  match set with
  | [] => none
  | '\\' :: rest =>
    match rest with
    | [] => some ('\\', [])
    | c :: after =>
      let digits := octalDigits rest
      if !digits.isEmpty then some (octalByte digits, rest.drop digits.length)
      else some (if c = 'e' then 'e' else (escapeLetters.lookup c).getD c, after)
  | c :: rest => some (c, rest)

/-- The characters of a set with ranges, classes, repetitions and escapes. A repetition
    without a number is as long as `room`. -/
def charactersOf (fuel room : Nat) (set : ByteText) : ByteText :=
  match fuel with
  | 0 => []
  | fuel + 1 =>
    match set with
    | [] => []
    | '[' :: ':' :: rest =>
      let name := rest.takeWhile (· != ':')
      match rest.drop name.length with
      | ':' :: ']' :: after => classMembers (String.ofList name) ++ charactersOf fuel room after
      | _ => '[' :: charactersOf fuel room (':' :: rest)
    | '[' :: '=' :: c :: '=' :: ']' :: after => c :: charactersOf fuel room after
    | _ =>
      let repetition? : Option (Char × ByteText × ByteText) :=
        match set with
        | '[' :: rest =>
          match takeSetChar rest with
          | some (c, '*' :: after) =>
            let digits := after.takeWhile Char.isDigit
            match after.drop digits.length with
            | ']' :: after => some (c, digits, after)
            | _ => none
          | _ => none
        | _ => none
      match repetition? with
      | some (c, digits, after) =>
        let number := (Text.decimal? digits).getD 0
        List.replicate (if number = 0 then room else number) c ++ charactersOf fuel room after
      | none =>
        match takeSetChar set with
        | none => []
        | some (first, '-' :: rest) =>
          match takeSetChar rest with
          | some (last, after) =>
            (List.range' first.toNat (last.toNat + 1 - first.toNat)).map Char.ofNat ++
              charactersOf fuel room after
          | none => first :: '-' :: charactersOf fuel room rest
        | some (first, rest) => first :: charactersOf fuel room rest

/-- Runs of a character in the set as one character. -/
def squeeze (set : ByteText) : ByteText → ByteText
  | c :: d :: rest =>
    if c = d && set.contains c then squeeze set (d :: rest) else c :: squeeze set (d :: rest)
  | text => text

/-- Prints what it reads with characters deleted, exchanged or squeezed. -/
def tr : Utility := fun arguments => do
  let spec : UtilityOptions :=
    { flags := "dscCt", long := [("delete", 'd'), ("squeeze-repeats", 's'), ("complement", 'c'),
        ("truncate-set1", 't')]
      mixes := false, name := "tr" }
  let given ← spec.read arguments
  let (first, second?) ← match given.operands with
    | [first] =>
      if given.has 'd' && !given.has 's' || given.has 's' && !given.has 'd' then
        pure (first, none)
      else
        Work.complainOf ["missing operand after ".toList, quotedName first]
        Work.mutter (if given.has 'd' then
            "Two strings must be given when both deleting and squeezing repeats.\n".toList
          else "Two strings must be given when translating.\n".toList)
        Work.mutter "Try 'tr --help' for more information.\n".toList
        throw 1
    | [first, second] =>
      if given.has 'd' && !given.has 's' then
        Work.complainOf ["extra operand ".toList, quotedName second]
        Work.mutter "Only one string may be given when deleting without squeezing repeats.\n".toList
        Work.mutter "Try 'tr --help' for more information.\n".toList
        throw 1
      pure (first, some second)
    | [] => spec.refuse ["missing operand".toList]
    | _ :: _ :: extra :: _ =>
      spec.refuse ["extra operand ".toList, quotedName extra]
  let text ← Work.takeInput
  let listed := charactersOf (first.length + 1) 0 first
  let sources := if given.has 'c' || given.has 'C' then
      ((List.range 256).map Char.ofNat).filter fun c => !listed.contains c
    else listed
  let targets := match second? with
    | some second =>
      let shorter := charactersOf (second.length + 1) 0 second
      charactersOf (second.length + 1) (sources.length - shorter.length) second
    | none => []
  if given.has 'd' then
    let kept := text.filter fun c => !sources.contains c
    Work.print (if given.has 's' then squeeze targets kept else kept)
  else if second?.isNone then Work.print (squeeze sources text)
  else
    if targets.isEmpty then
      Work.stop 1 ["when not truncating set1, string2 must be non-empty".toList]
    let sources := if given.has 't' then sources.take targets.length else sources
    let table : Array Char := (List.range 256).toArray.map fun code =>
      let c := Char.ofNat code
      -- The last mention of a character counts.
      match sources.reverse.idxOf? c with
      | some behind => (targets[sources.length - 1 - behind]?).getD (targets.getLastD c)
      | none => c
    let changed := text.map fun c => (table[c.toNat]?).getD c
    Work.print (if given.has 's' then squeeze targets changed else changed)
  return 0

/-- The range that a piece of a list of numbers describes, or what is wrong with it. What
    follows the piece is a part of the complaint about a faulty number. -/
def rangeOf (ofFields : Bool) (after piece : ByteText) : Except ByteText (Nat × Option Nat) := do
  let unit := if ofFields then "field" else "byte or character"
  let position := if ofFields then "fields" else "byte/character positions"
  let fromOne : ByteText := (position ++ " are numbered from 1").toList
  let number (digits : ByteText) : Except ByteText Nat :=
    match digits.dropWhile Char.isDigit with
    | [] => .ok ((Text.decimal? digits).getD 0)
    | rest =>
      let value := if ofFields then "invalid field value " else "invalid byte/character position "
      .error (value.toList ++ quotedName (rest ++ after))
  match Text.splitAll '-' piece with
  | [[]] => throw fromOne
  | [digits] =>
    let value ← number digits
    if value = 0 then throw fromOne
    return (value, some value)
  | [[], []] => throw "invalid range with no endpoint: -".toList
  | [first, last] =>
    let low ← if first.isEmpty then pure 1 else number first
    if low = 0 then throw fromOne
    if last.isEmpty then return (low, none)
    let high ← number last
    if high < low then throw "invalid decreasing range".toList
    return (low, some high)
  | _ => throw ("invalid " ++ unit ++ " range").toList

/-- The ranges of a list of numbers; an open range ends at infinity. -/
def rangesOf (ofFields : Bool) : (pieces : List ByteText) → Except ByteText (List (Nat × Option Nat))
  | [] => .ok []
  | piece :: rest => do
    let after := rest.flatMap fun piece => ',' :: piece
    let range ← rangeOf ofFields after piece
    return range :: (← rangesOf ofFields rest)

def cut : Utility := fun arguments => do
  let spec : UtilityOptions :=
    { flags := "snz", valued := "bcfdO"
      long := [("bytes", 'b'), ("characters", 'c'), ("fields", 'f'), ("delimiter", 'd'),
        ("only-delimited", 's'), ("output-delimiter", 'O'), ("complement", 'C')]
      name := "cut" }
  let given ← { spec with flags := "snzC" }.read arguments
  let lists := given.options.filter fun option => ['b', 'c', 'f'].contains option.1
  let (kind, list) ← match lists with
    | [entry] => pure entry
    | [] => spec.refuse ["you must specify a list of bytes, characters, or fields".toList]
    | _ => spec.refuse ["only one list may be specified".toList]
  let pieces := Text.splitAll ',' (list.map fun c => if c = ' ' then ',' else c)
  let ranges ← match rangesOf (kind = 'f') pieces with
    | .ok ranges => pure ranges
    | .error wording => spec.refuse [wording]
  let mark ← match given.value? 'd' with
    | some [c] => pure c
    | some [] => pure '\x00'
    | some _ => spec.refuse ["the delimiter must be a single character".toList]
    | none => pure '\t'
  let chosen (number : Nat) : Bool :=
    let listed := ranges.any fun (first, last) => first ≤ number && last.all (number ≤ ·)
    listed != given.has 'C'
  let pick {α : Type} (items : List α) : List α :=
    ((items.mapIdx fun i item => (i + 1, item)).filter fun entry => chosen entry.1).map Prod.snd
  let (texts, status) ← Work.readAll given.operands Work.plainComplaint
  for (_, text) in texts do
    for line in ByteText.lines text do
      if kind = 'f' then
        let fields := Text.splitAll mark line
        if fields.length = 1 then
          if !given.has 's' then Work.printLine line
        else Work.printLine (Text.join ((given.value? 'O').getD [mark]) (pick fields))
      else Work.printLine (pick line)
  return status

/-- Prints the lines of files side by side. -/
def paste : Utility := fun arguments => do
  let spec : UtilityOptions :=
    { flags := "sz", valued := "d", long := [("delimiters", 'd'), ("serial", 's')], name := "paste" }
  let given ← spec.read arguments
  let marks := (given.value? 'd').getD ['\t']
  let marks := (unescape (marks.length + 1) marks).1
  let markAt (i : Nat) : ByteText :=
    if marks.isEmpty then [] else (marks[i % marks.length]?).toList
  let join (pieces : List ByteText) : ByteText :=
    (pieces.mapIdx fun i piece => if i + 1 = pieces.length then piece else piece ++ markAt i).flatten
  let names := if given.operands.isEmpty then [['-']] else given.operands
  let dashes := names.countP (· = ['-'])
  let files := names.filter fun name => name ≠ ['-']
  let (texts, status) ←
    if files.isEmpty then pure ([], 0) else Work.readAll files Work.plainComplaint
  let input ← Work.takeInput
  let inputLines := ByteText.lines input
  let columns := names.mapIdx fun i name =>
    if name = ['-'] then
      -- Several dashes take the lines in turn.
      let turn := (names.take i).countP (· = ['-'])
      (inputLines.mapIdx fun j line => (j, line)).filterMap fun (j, line) =>
        if given.has 's' then if turn = 0 then some line else none
        else if j % dashes = turn then some line else none
    else ByteText.lines ((texts.lookup name).getD [])
  if given.has 's' then
    for column in columns do
      Work.printLine (join column)
  else
    let height := (columns.map List.length).foldl max 0
    for i in List.range height do
      Work.printLine (join (columns.map fun column => (column[i]?).getD []))
  return status

def nl : Utility := fun arguments => do
  let spec : UtilityOptions :=
    { flags := "p", valued := "bwsvinhfld"
      long := [("body-numbering", 'b'), ("number-width", 'w'), ("number-separator", 's'),
        ("starting-line-number", 'v'), ("line-increment", 'i'), ("number-format", 'n')]
      name := "nl" }
  let given ← spec.read arguments
  let (texts, status) ← Work.readAll given.operands Work.plainComplaint
  let width := ((given.value? 'w').bind Text.decimal?).getD 6
  let separator := (given.value? 's').getD ['\t']
  let step := ((given.value? 'i').bind Text.decimal?).getD 1
  let layout : Directive := match (given.value? 'n').map String.ofList with
    | some "ln" => { left := true, width }
    | some "rz" => { zeros := true, width }
    | _ => { width }
  let mut number := ((given.value? 'v').bind Text.decimal?).getD 1
  for line in ByteText.lines (texts.map Prod.snd).flatten do
    let isNumbered := match given.value? 'b' with
      | some ['a'] => true
      | some ['n'] => false
      | _ => !line.isEmpty
    if isNumbered then
      Work.printLine (layout.layInteger number ++ separator ++ line)
      number := number + step
    else Work.printLine (List.replicate (width + separator.length) ' ' ++ line)
  return status

def rev : Utility := fun arguments => do
  let given ← ({ name := "rev" } : UtilityOptions).read arguments
  let (texts, status) ← Work.readAll given.operands fun name error =>
    ["cannot open ".toList, name, ": ".toList, Work.wording error]
  for (_, text) in texts do
    for line in linesWithEnds text do
      if line.getLast? = some '\n' then Work.printLine line.dropLast.reverse
      else Work.print line.reverse
  return status

def foldLine (fuel width : Nat) (line : ByteText) : List ByteText :=
  match fuel with
  | 0 => [line]
  | fuel + 1 =>
    if line.length ≤ width || width = 0 then [line]
    else line.take width :: foldLine fuel width (line.drop width)

/-- Prints lines cut to a width. -/
def fold : Utility := fun arguments => do
  let spec : UtilityOptions := { flags := "bs", valued := "w", long := [("width", 'w')], name := "fold" }
  let given ← spec.read arguments
  let width := ((given.value? 'w').bind Text.decimal?).getD 80
  let (texts, status) ← Work.readAll given.operands Work.plainComplaint
  for (_, text) in texts do
    let ends := text.getLast? = some '\n'
    let lines := (ByteText.lines text).map fun line =>
      Text.join ['\n'] (foldLine line.length width line)
    Work.print (Text.join ['\n'] lines ++ (if ends then ['\n'] else []))
  return status

def tee : Utility := fun arguments => do
  let spec : UtilityOptions := { flags := "aip", long := [("append", 'a')], name := "tee" }
  let given ← spec.read arguments
  let text ← Work.takeInput
  Work.print text
  let mut status := 0
  for name in given.operands do
    match ← Work.write name (given.has 'a') text with
    | .ok () => pure ()
    | .error error =>
      Work.complainOf (Work.plainComplaint name error)
      status := 1
  return status

/-- Lines in order as three columns: those of the first text only, of the second text only,
    and of both. -/
def commonLines (fuel : Nat) (one other : List ByteText) : List (Nat × ByteText) :=
  match fuel with
  | 0 => []
  | fuel + 1 =>
    match one, other with
    | [], other => other.map ((2, ·))
    | one, [] => one.map ((1, ·))
    | line :: rest, line' :: rest' =>
      if line = line' then (3, line) :: commonLines fuel rest rest'
      else if ByteText.isAtMost line line' then (1, line) :: commonLines fuel rest (line' :: rest')
      else (2, line') :: commonLines fuel (line :: rest) rest'

/-- Prints which lines two files have in common. -/
def comm : Utility := fun arguments => do
  let spec : UtilityOptions := { flags := "123", name := "comm" }
  let given ← spec.read arguments
  match given.operands with
  | [one, other] =>
    let (texts, status) ← Work.readAll [one, other] Work.plainComplaint
    match texts with
    | [(_, one), (_, other)] =>
      let (one, other) := (ByteText.lines one, ByteText.lines other)
      for (column, line) in commonLines (one.length + other.length + 1) one other do
        let shown (number : Nat) : Bool := !given.has (Char.ofNat ('0'.toNat + number))
        if shown column then
          let tabs := ((List.range column).filter fun i => i ≠ 0 && shown i).length
          Work.printLine (List.replicate tabs '\t' ++ line)
      return 0
    | _ => return status
  | _ => spec.refuse ["missing operand".toList]

def expandTabs : Utility := fun arguments => do
  let spec : UtilityOptions := { flags := "i", valued := "t", name := "expand" }
  let given ← spec.read arguments
  let width := max 1 (((given.value? 't').bind Text.decimal?).getD 8)
  let (texts, status) ← Work.readAll given.operands Work.plainComplaint
  for (_, text) in texts do
    let step (state : ByteText × Nat) (c : Char) : ByteText × Nat :=
      if c = '\t' then
        let gap := width - state.2 % width
        (List.replicate gap ' ' ++ state.1, state.2 + gap)
      else if c = '\n' then (c :: state.1, 0)
      else (c :: state.1, state.2 + 1)
    Work.print (text.foldl step ([], 0)).1.reverse
  return status

end Utility

end Stencil
