import Stencil.Regex.Reader
import Stencil.Utility.Lines

/-! # Searching for lines

A search chooses the lines in which one of its patterns matches, and tells by its status
whether there are any.
-/

namespace Stencil

open Shell (ByteText)

namespace Utility

structure Search where
  patterns : List Regex
  ignoresCase : Bool
  /-- Whether a match has to be the whole line. -/
  wholeLines : Bool
  /-- Whether a match has to be made of whole words. -/
  wholeWords : Bool

namespace Search

def isWords (view : Regex.View) (found : Regex.Match) : Bool :=
  !Regex.wordBefore view found.first && !Regex.wordAt view found.last

/-- The first match of a pattern from a place on that is as it has to be. -/
def matchFrom? (search : Search) (view : Regex.View) (regex : Regex) (fuel place : Nat) :
    Option Regex.Match :=
  match fuel with
  | 0 => none
  | fuel + 1 =>
    match regex.search? view place with
    | none => none
    | some found =>
      let isWhole := found.first = 0 && found.last = view.text.size
      if (search.wholeLines && !isWhole) || (search.wholeWords && !isWords view found) then
        matchFrom? search view regex fuel (found.first + 1)
      else some found

/-- The first of the matches of all patterns, and of those the longest. -/
def first? (search : Search) (view : Regex.View) (place : Nat) : Option Regex.Match :=
  let found := search.patterns.filterMap fun regex =>
    matchFrom? search view regex (view.text.size + 2) place
  found.foldl
    (fun best found =>
      match best with
      | none => some found
      | some other =>
        if found.first < other.first || (found.first = other.first && other.last < found.last) then
          some found
        else best)
    none

def viewOf (search : Search) (line : ByteText) : Regex.View :=
  { text := line.toArray, ignoresCase := search.ignoresCase }

def chooses (search : Search) (line : ByteText) : Bool :=
  (search.first? (search.viewOf line) 0).isSome

/-- The matches in a line that are not empty. -/
def pieces (search : Search) (view : Regex.View) (fuel place : Nat) : List ByteText :=
  match fuel with
  | 0 => []
  | fuel + 1 =>
    match search.first? view place with
    | none => []
    | some found =>
      if found.last = found.first then
        if found.first < view.text.size then pieces search view fuel (found.first + 1) else []
      else
        (view.text.extract found.first found.last).toList :: pieces search view fuel found.last

/-- Verdicts on lines, of which no more than a number may choose. -/
def cutAfter (limit : Nat) (verdicts : List Bool) : List Bool :=
  (verdicts.foldl
    (fun (state : List Bool × Nat) verdict =>
      if verdict && state.2 < limit then (true :: state.1, state.2 + 1)
      else (false :: state.1, state.2))
    ([], 0)).1.reverse

def options : UtilityOptions :=
  { flags := "cvinqlLoxwEFGhHsraUzIZ", valued := "efmABC"
    long := [("count", 'c'), ("invert-match", 'v'), ("ignore-case", 'i'), ("line-number", 'n'),
      ("quiet", 'q'), ("silent", 'q'), ("files-with-matches", 'l'), ("only-matching", 'o'),
      ("line-regexp", 'x'), ("word-regexp", 'w'), ("extended-regexp", 'E'), ("fixed-strings", 'F'),
      ("no-filename", 'h'), ("with-filename", 'H'), ("no-messages", 's'), ("regexp", 'e'),
      ("max-count", 'm'), ("text", 'a'), ("files-without-match", 'L'), ("color", 'U'), ("file", 'f')]
    failure := 2, name := "grep" }

/-- The texts of the patterns, and the names of the files to search. -/
def sources (given : Arguments) : Work (List ByteText × List ByteText) := do
  let fromFiles ← (given.values 'f').mapM fun name => do
    match ← Work.read name with
    | .ok text => pure (ByteText.lines text)
    | .error error => Work.stop 2 (Work.plainComplaint name error)
  if given.has 'e' || given.has 'f' then
    return ((given.values 'e').flatMap (Text.splitAll '\n') ++ fromFiles.flatten, given.operands)
  match given.operands with
  | pattern :: names => return (Text.splitAll '\n' pattern, names)
  | [] =>
    Work.mutter "Usage: grep [OPTION]... PATTERNS [FILE]...\n".toList
    Work.mutter "Try 'grep --help' for more information.\n".toList
    throw 2

/-- The pattern of a text, which stands for itself if it is `fixed`. -/
def pattern (style : Regex.Style) (fixed : Bool) (source : ByteText) : Work Regex := do
  if fixed then return Regex.ofText source
  match Regex.read style source with
  | .ok regex => return regex
  | .error error => Work.stop 2 [error.message.toList]

end Search

structure Searched where
  /-- What the file is called where it is told of. -/
  title : ByteText
  text : ByteText
  lines : List ByteText
  /-- Whether each line is chosen. -/
  chosen : List Bool

namespace Searched

def number (searched : Searched) : Nat :=
  searched.chosen.count true

/-- The lines with their places and whether they are chosen. -/
def entries (searched : Searched) : List (Nat × ByteText × Bool) :=
  (searched.lines.zip searched.chosen).mapIdx fun i entry => (i, entry)

end Searched

/-- How what is found is printed. -/
structure Showing where
  given : Arguments
  search : Search
  /-- Whether the names of files stand in front of what is printed. -/
  showsNames : Bool

namespace Showing

/-- Search a text. The lines behind the last one that counts are not chosen. -/
def searched (showing : Showing) (name text : ByteText) : Searched :=
  let lines := ByteText.lines text
  let verdicts := lines.map fun line => showing.search.chooses line != showing.given.has 'v'
  { title := if name = ['-'] then "(standard input)".toList else name
    text, lines
    chosen := match (showing.given.value? 'm').bind Text.decimal? with
      | none => verdicts
      | some limit => Search.cutAfter limit verdicts }

/-- What stands in front of a line. -/
def lead (showing : Showing) (title : ByteText) (mark : Char) (line : Nat) : ByteText :=
  (if showing.showsNames then title ++ [mark] else []) ++
    (if showing.given.has 'n' then ByteText.ofNat line ++ [mark] else [])

def printCount (showing : Showing) (searched : Searched) : Work Unit :=
  Work.printLine ((if showing.showsNames then searched.title ++ [':'] else []) ++
    ByteText.ofNat searched.number)

def printPieces (showing : Showing) (searched : Searched) : Work Unit := do
  let search := showing.search
  for (i, line, isChosen) in searched.entries do
    if isChosen then
      for piece in search.pieces (search.viewOf line) (line.length + 1) 0 do
        Work.printLine (showing.lead searched.title ':' (i + 1) ++ piece)

/-- How many lines are printed on one side of a chosen one. -/
def around (showing : Showing) (side : Char) : Nat :=
  let value? (letter : Char) : Option Nat := (showing.given.value? letter).bind Text.decimal?
  (value? side).getD ((value? 'C').getD 0)

/-- Print the chosen lines with those around them. -/
def printLines (showing : Showing) (searched : Searched) : Work Unit := do
  let (before, after) := (showing.around 'B', showing.around 'A')
  let flags := searched.chosen.toArray
  let isNear (i : Nat) : Bool :=
    (List.range (before + after + 1)).any fun k =>
      after ≤ i + k && (flags[i + k - after]?).getD false
  let mut last : Option Nat := none
  for (i, line, isChosen) in searched.entries do
    if isNear i then
      if (before ≠ 0 || after ≠ 0) && last.any (· + 1 < i) then Work.print "--\n".toList
      let mark := if isChosen then ':' else '-'
      Work.printLine (showing.lead searched.title mark (i + 1) ++ line)
      last := some i

/-- Print what the options ask for. -/
def print (showing : Showing) (searched : Searched) : Work Unit := do
  let given := showing.given
  let found := searched.number ≠ 0
  if given.has 'l' then
    if found then Work.printLine searched.title
  else if given.has 'L' then
    if !found then Work.printLine searched.title
  else if given.has 'c' then showing.printCount searched
  else if searched.text.contains '\x00' && !given.has 'a' then
    if found then
      Work.printLine ("grep: ".toList ++ searched.title ++ ": binary file matches".toList)
  else if given.has 'o' then
    if !given.has 'v' then showing.printPieces searched
  else showing.printLines searched

end Showing

/-- Prints the lines that a pattern chooses. -/
def grepIn (style : Regex.Style) (fixed : Bool) : Utility := fun arguments => do
  let given ← Search.options.read arguments
  let style := if given.has 'E' then .extended else if given.has 'G' then .basic else style
  let fixed := given.has 'F' || (fixed && !given.has 'E' && !given.has 'G')
  let (sources, names) ← Search.sources given
  let patterns ← sources.mapM (Search.pattern style fixed)
  let search : Search :=
    { patterns, ignoresCase := given.has 'i', wholeLines := given.has 'x', wholeWords := given.has 'w' }
  let names := if names.isEmpty then [['-']] else names
  let showing : Showing :=
    { given, search, showsNames := (1 < names.length || given.has 'H') && !given.has 'h' }
  let mut status := 1
  let mut failed := false
  for name in names do
    match ← Work.read name with
    | .error error =>
      if !given.has 's' then Work.complainOf (Work.plainComplaint name error)
      failed := true
    | .ok text =>
      let searched := showing.searched name text
      if searched.number ≠ 0 then status := 0
      if !given.has 'q' then showing.print searched
      else if searched.number ≠ 0 then
        -- A quiet search ends at once and takes nothing of what there is to read.
        if name = ['-'] then modify fun desk => { desk with input := text }
        throw 0
  return if failed && !(given.has 'q' && status = 0) then 2 else status

/-- Prints the lines in which a basic expression matches. -/
def grep : Utility := grepIn .basic false

/-- Prints the lines in which an extended expression matches. -/
def egrep : Utility := grepIn .extended false

/-- Prints the lines in which a text occurs. -/
def fgrep : Utility := grepIn .basic true

end Utility

end Stencil
