import Stencil.Utility.Lines

/-! # Order of lines

Lines are put in order by keys, each of which is a part of the line that is compared in its
own way. Lines with equal keys are compared byte by byte, unless they shall stay as they
stand.
-/

namespace Stencil

open Shell (ByteText)

namespace Utility

/-- How a key is compared. -/
structure KeyStyle where
  skipsBlanks : Bool := false
  numeric : Bool := false
  general : Bool := false
  human : Bool := false
  month : Bool := false
  foldsCase : Bool := false
  dictionary : Bool := false
  reversed : Bool := false
  deriving DecidableEq

/-- A style with the option of a letter; none if there is no such option. -/
def KeyStyle.withLetter? (style : KeyStyle) (letter : Char) : Option KeyStyle :=
  match letter with
  | 'b' => some { style with skipsBlanks := true }
  | 'n' => some { style with numeric := true }
  | 'g' => some { style with general := true }
  | 'h' => some { style with human := true }
  | 'M' => some { style with month := true }
  | 'f' => some { style with foldsCase := true }
  | 'd' => some { style with dictionary := true }
  | 'i' | 'V' => some style
  | 'r' => some { style with reversed := true }
  | _ => none

/-- A part of a line: its fields and characters are counted from one, and no last field
    means the end of the line. -/
structure SortKey where
  firstField : Nat
  firstChar : Nat
  last : Option (Nat × Nat)
  style : KeyStyle
  /-- Whether the key has a style of its own. -/
  ownStyle : Bool

def takeStyle (style : KeyStyle) (own : Bool) : ByteText → KeyStyle × Bool × ByteText
  | [] => (style, own, [])
  | c :: rest =>
    match style.withLetter? c with
    | some style => takeStyle style true rest
    | none => (style, own, c :: rest)

def takePosition? (text : ByteText) : Option (Nat × Nat × ByteText) :=
  let digits := text.takeWhile Char.isDigit
  (Text.decimal? digits).bind fun field =>
    match text.drop digits.length with
    | '.' :: rest =>
      let digits := rest.takeWhile Char.isDigit
      (Text.decimal? digits).map fun char => (field, char, rest.drop digits.length)
    | rest => some (field, 0, rest)

def sortKey? (text : ByteText) : Option SortKey :=
  (takePosition? text).bind fun (field, char, rest) =>
    let (style, own, rest) := takeStyle {} false rest
    if field = 0 then none
    else
      match rest with
      | [] => some { firstField := field, firstChar := char, last := none, style, ownStyle := own }
      | ',' :: rest =>
        (takePosition? rest).bind fun (lastField, lastChar, rest) =>
          let (style, own, rest) := takeStyle style own rest
          if rest.isEmpty && lastField ≠ 0 then
            some { firstField := field, firstChar := char, last := some (lastField, lastChar), style
                   ownStyle := own }
          else none
      | _ => none

def dropFields (mark : Option Char) (count : Nat) (line : ByteText) : ByteText :=
  match count with
  | 0 => line
  | count + 1 =>
    match mark with
    | some mark => dropFields (some mark) count ((line.dropWhile (· != mark)).drop 1)
    | none =>
      dropFields none count ((line.dropWhile ByteText.isGap).dropWhile fun c => !ByteText.isGap c)

def keyOf (mark : Option Char) (key : SortKey) (line : ByteText) : ByteText :=
  let skip (text : ByteText) := if key.style.skipsBlanks then text.dropWhile ByteText.isGap else text
  let start := (skip (dropFields mark (key.firstField - 1) line)).drop (key.firstChar - 1)
  match key.last with
  | none => start
  | some (field, 0) =>
    let behind := dropFields mark field line
    -- The mark behind the last field is no part of the key.
    let ends := line.length - behind.length
    let ends := if mark.isSome && (line.take ends).getLast? = mark &&
        (mark.any fun mark => field ≤ line.count mark) then ends - 1 else ends
    start.take (ends - (line.length - start.length))
  | some (field, char) =>
    let behind := (skip (dropFields mark (field - 1) line)).drop char
    start.take ((line.length - behind.length) - (line.length - start.length))

/-- The number at the start of a text as a whole number of its last places, and the places. -/
def leadingNumber (text : ByteText) : Int × Nat :=
  let text := text.dropWhile ByteText.isGap
  let (sign, digits) : Int × ByteText := match text with
    | '-' :: rest => (-1, rest)
    | rest => (1, rest)
  let whole := digits.takeWhile Char.isDigit
  let places := match digits.drop whole.length with
    | '.' :: rest => rest.takeWhile Char.isDigit
    | _ => []
  (sign * ((Text.decimal? (whole ++ places)).getD 0 : Nat), places.length)

def compareDecimals (one other : Int × Nat) : Ordering :=
  compare (one.1 * 10 ^ other.2) (other.1 * 10 ^ one.2)

def unitRank (text : ByteText) : Nat :=
  let rest := (text.dropWhile ByteText.isGap).dropWhile fun c => c.isDigit || c == '-' || c == '.'
  match rest.head? with
  | some c => match "KMGTPEZY".toList.idxOf? c.toUpper with
    | some i => i + 1
    | none => 0
  | none => 0

def monthNumber (text : ByteText) : Nat :=
  let name := ((text.dropWhile ByteText.isGap).take 3).map Char.toUpper
  let months := ["JAN", "FEB", "MAR", "APR", "MAY", "JUN", "JUL", "AUG", "SEP", "OCT", "NOV", "DEC"]
  match months.idxOf? (String.ofList name) with
  | some i => i + 1
  | none => 0

def compareText (one other : ByteText) : Ordering :=
  if one = other then .eq else if ByteText.isAtMost one other then .lt else .gt

/-- A finite number as an exact quotient; others are far away. -/
def realOrder (text : ByteText) : Int × Nat :=
  match Real64.take? text with
  | some (.finite value, _) =>
    let (numerator, denominator) := value.ratio
    ((if value.negative then -(numerator : Int) else numerator), denominator)
  | some (.infinite negative, _) => ((if negative then -1 else 1) * 10 ^ 400, 1)
  | some (.notANumber _, _) => (-(10 ^ 401), 1)
  | none => (-(10 ^ 402), 1)

def KeyStyle.compare (style : KeyStyle) (one other : ByteText) : Ordering :=
  let order :=
    if style.numeric then compareDecimals (leadingNumber one) (leadingNumber other)
    else if style.human then
      (Ord.compare (unitRank one) (unitRank other)).then
        (compareDecimals (leadingNumber one) (leadingNumber other))
    else if style.general then
      let (a, b) := realOrder one
      let (c, d) := realOrder other
      Ord.compare (a * d) (c * b)
    else if style.month then Ord.compare (monthNumber one) (monthNumber other)
    else
      let view (text : ByteText) :=
        let text := if style.dictionary then text.filter fun c => c.isAlphanum || ByteText.isGap c
          else text
        if style.foldsCase then text.map Char.toUpper else text
      compareText (view one) (view other)
  if style.reversed then order.swap else order

/-- How lines are ordered. -/
structure Sorting where
  given : Arguments
  style : KeyStyle
  keys : List SortKey
  /-- The character between fields, blanks if there is none. -/
  mark : Option Char

namespace Sorting

def options : UtilityOptions :=
  { flags := "bnghMfdiVrusmzcC", valued := "ktoST"
    long := [("reverse", 'r'), ("numeric-sort", 'n'), ("unique", 'u'), ("key", 'k'),
      ("field-separator", 't'), ("output", 'o'), ("ignore-case", 'f'), ("stable", 's'),
      ("check", 'c'), ("general-numeric-sort", 'g'), ("human-numeric-sort", 'h'),
      ("month-sort", 'M'), ("ignore-leading-blanks", 'b'), ("dictionary-order", 'd')]
    failure := 2, name := "sort" }

def read (given : Arguments) : Work Sorting := do
  let style := given.options.foldl
    (fun (style : KeyStyle) option => (style.withLetter? option.1).getD style) {}
  let keys ← (given.values 'k').mapM fun text => do
    match sortKey? text with
    | some key => pure (if key.ownStyle then key else { key with style })
    | none => Work.stop 2 ["-: invalid field specification ".toList, quotedName text]
  let mark ← match given.value? 't' with
    | none => pure none
    | some [c] => pure (some c)
    | some ['\\', '0'] => pure (some '\x00')
    | some [] => Work.stop 2 ["empty tab".toList]
    | some text => Work.stop 2 ["multi-character tab ".toList, quotedName text]
  return { given, style, keys, mark }

def compareKeys (sorting : Sorting) (one other : ByteText) : Ordering :=
  if sorting.keys.isEmpty then
    let skip (line : ByteText) :=
      if sorting.style.skipsBlanks then line.dropWhile ByteText.isGap else line
    sorting.style.compare (skip one) (skip other)
  else
    sorting.keys.foldl (fun order key =>
      order.then (key.style.compare (keyOf sorting.mark key one) (keyOf sorting.mark key other))) .eq

def compareLines (sorting : Sorting) (one other : ByteText) : Ordering :=
  if sorting.given.has 'u' || sorting.given.has 's' then sorting.compareKeys one other
  else
    let last := compareText one other
    (sorting.compareKeys one other).then (if sorting.style.reversed then last.swap else last)

/-- The number of the first line that does not come behind the one after it, from zero. -/
def misplaced? (sorting : Sorting) (lines : List ByteText) : Option Nat :=
  (lines.zip lines.tail).findIdx? fun (one, other) =>
    match sorting.compareLines one other with
    | .gt => true
    | .eq => sorting.given.has 'u'
    | .lt => false

/-- Lines in order, of which one of several equal ones is kept if that is asked for. -/
def order (sorting : Sorting) (lines : List ByteText) : List ByteText :=
  let sorted := lines.mergeSort fun one other => sorting.compareLines one other != .gt
  let keep (kept : List ByteText) (line : ByteText) : List ByteText :=
    match kept with
    | last :: _ => if sorting.compareKeys last line == .eq then kept else line :: kept
    | [] => [line]
  if sorting.given.has 'u' then (sorted.foldl keep []).reverse else sorted

/-- Tell whether lines are in order. -/
def check (sorting : Sorting) (lines : List ByteText) : Work Nat := do
  let given := sorting.given
  match sorting.misplaced? lines with
  | none => return 0
  | some i =>
    if given.has 'c' then
      Work.complainOf [given.operands.headD ['-'], [':'], ByteText.ofNat (i + 2),
        ": disorder: ".toList, (lines[i + 1]?).getD []]
    return 1

end Sorting

def sort : Utility := fun arguments => do
  let given ← Sorting.options.read arguments
  let sorting ← Sorting.read given
  let (texts, status) ← Work.readAll given.operands fun name error =>
    ["cannot read: ".toList, name, ": ".toList, Work.wording error]
  if status ≠ 0 then throw 2
  let lines := texts.flatMap fun (_, text) => ByteText.lines text
  if given.has 'c' || given.has 'C' then return ← sorting.check lines
  let text := ByteText.unlines (sorting.order lines)
  match given.value? 'o' with
  | none => Work.print text
  | some name =>
    match ← Work.write name false text with
    | .ok () => pure ()
    | .error error =>
      Work.stop 2 ["open failed: ".toList, name, ": ".toList, Work.wording error]
  return 0

/-- Prints lines, but only one of several equal ones that follow each other. -/
def uniq : Utility := fun arguments => do
  let spec : UtilityOptions :=
    { flags := "cduiDz", valued := "fsw"
      long := [("count", 'c'), ("repeated", 'd'), ("unique", 'u'), ("ignore-case", 'i'),
        ("skip-fields", 'f'), ("skip-chars", 's'), ("check-chars", 'w'), ("all-repeated", 'D')]
      name := "uniq" }
  let given ← spec.read arguments
  let number (letter : Char) : Nat := ((given.value? letter).bind Text.decimal?).getD 0
  let (texts, status) ← Work.readAll (given.operands.take 1) Work.plainComplaint
  if status ≠ 0 then throw 1
  let view (line : ByteText) : ByteText :=
    let text := (dropFields none (number 'f') line).drop (number 's')
    let text := if given.has 'w' then text.take (number 'w') else text
    if given.has 'i' then text.map Char.toLower else text
  let lines := texts.flatMap fun (_, text) => ByteText.lines text
  let groups : List (List ByteText) := lines.foldr
    (fun line groups =>
      match groups with
      | (next :: group) :: rest =>
        if view line = view next then (line :: next :: group) :: rest
        else [line] :: (next :: group) :: rest
      | groups => [line] :: groups)
    []
  let shown := groups.filter fun group =>
    (!(given.has 'd' || given.has 'D') || 1 < group.length) && (!given.has 'u' || group.length = 1)
  let text := shown.flatMap fun group =>
    let line := group.headD []
    if given.has 'D' then ByteText.unlines group
    else if given.has 'c' then padNumber 7 group.length ++ ' ' :: line ++ ['\n']
    else line ++ ['\n']
  match given.operands.drop 1 with
  | [] => Work.print text
  | name :: _ =>
    match ← Work.write name false text with
    | .ok () => pure ()
    | .error error => Work.stop 1 (Work.plainComplaint name error)
  return 0

end Utility

end Stencil
