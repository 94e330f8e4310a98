import Stencil.Shell.Pattern
import Stencil.Utility.Files

/-! # Finding files

A search walks through folders and asks an expression about everything that it meets.
-/

namespace Stencil

open Shell (ByteText)

/-- A question about what is met, or something done with it. -/
inductive FindExpr where
  | always
  | named (pattern : Shell.Pattern) (ignoresCase wholePath : Bool)
  | kind (letter : Char)
  | isEmpty
  | executable
  /-- A number of bytes: more, fewer, or as many. -/
  | size (order : Ordering) (bytes : Nat)
  | print (terminator : Char)
  | delete
  | prune
  | quit
  | exec (words : List ByteText)
  | not (inner : FindExpr)
  | both (first second : FindExpr)
  | either (first second : FindExpr)

/-- What a search has come to. -/
structure Finding where
  /-- The commands to be run, the newest first. -/
  commands : List (List ByteText) := []
  pruned : Bool := false
  isOver : Bool := false

namespace FindExpr

/-- Whether the expression does something. -/
def acts : FindExpr → Bool
  | .print _ | .delete | .exec _ | .quit => true
  | .not inner => inner.acts
  | .both first second | .either first second => first.acts || second.acts
  | _ => false

def sizeOf? (text : ByteText) : Option FindExpr :=
  let (order, rest) : Ordering × ByteText := match text with
    | '+' :: rest => (.gt, rest)
    | '-' :: rest => (.lt, rest)
    | rest => (.eq, rest)
  let digits := rest.takeWhile Char.isDigit
  (Text.decimal? digits).bind fun number =>
    match rest.drop digits.length with
    | ['c'] => some (.size order number)
    | [] | ['b'] => some (.size order (number * 512))
    | ['k'] => some (.size order (number * 1024))
    | ['M'] => some (.size order (number * 1048576))
    | _ => none

abbrev Reading := StateT (List ByteText) Work

def argument (name : ByteText) : Reading ByteText := do
  match ← get with
  | [] => Work.stop 1 ["missing argument to \x60".toList, name, ['\x27']]
  | word :: rest =>
    set rest
    return word

mutual

/-- Expressions one of which holds. -/
def readEither (fuel : Nat) : Reading FindExpr := do
  match fuel with
  | 0 => return .always
  | fuel + 1 =>
    let first ← readBoth fuel
    match ← get with
    | ['-', 'o'] :: rest =>
      set rest
      return .either first (← readEither fuel)
    | _ => return first

/-- Expressions all of which hold. -/
def readBoth (fuel : Nat) : Reading FindExpr := do
  match fuel with
  | 0 => return .always
  | fuel + 1 =>
    let first ← readOne fuel
    match ← get with
    | [] | ['-', 'o'] :: _ | [')'] :: _ => return first
    | ['-', 'a'] :: rest =>
      set rest
      return .both first (← readBoth fuel)
    | _ => return .both first (← readBoth fuel)

def readOne (fuel : Nat) : Reading FindExpr := do
  match fuel with
  | 0 => return .always
  | fuel + 1 =>
    match ← get with
    | [] => return .always
    | word :: rest =>
      set rest
      let glyphs (text : ByteText) : List Shell.Glyph := text.map fun c => ⟨c, false⟩
      match String.ofList word with
      | "(" =>
        let inner ← readEither fuel
        modify List.tail
        return inner
      | "!" | "-not" => return .not (← readOne fuel)
      | "-name" => return .named (Shell.Pattern.ofGlyphs (glyphs (← argument word))) false false
      | "-iname" =>
        return .named (Shell.Pattern.ofGlyphs (glyphs ((← argument word).map Char.toLower))) true false
      | "-path" | "-wholename" =>
        return .named (Shell.Pattern.ofGlyphs (glyphs (← argument word))) false true
      | "-type" => return .kind ((← argument word).headD 'f')
      | "-empty" => return .isEmpty
      | "-executable" => return .executable
      | "-size" =>
        let text ← argument word
        match sizeOf? text with
        | some question => return question
        | none => Work.stop 1 ["invalid -size type \x60".toList, text, ['\x27']]
      | "-print" => return .print '\n'
      | "-print0" => return .print '\x00'
      | "-delete" => return .delete
      | "-prune" => return .prune
      | "-quit" => return .quit
      | "-true" => return .always
      | "-false" => return .not .always
      | "-exec" | "-execdir" =>
        let words := (← get).takeWhile fun word => word ≠ [';'] && word ≠ ['+']
        modify fun rest => rest.drop (words.length + 1)
        return .exec words
      | "-maxdepth" | "-mindepth" | "-newer" | "-mtime" | "-mmin" | "-user" | "-perm" =>
        let _ ← argument word
        return .always
      | _ => Work.stop 1 ["unknown predicate \x60".toList, word, ['\x27']]

end

def ask (path : ByteText) (place : Place) (node : Node) : FindExpr → StateT Finding Work Bool
  | .always => return true
  | .named pattern ignoresCase wholePath => do
    let text := if wholePath then path else Utility.lastName path
    return pattern.admits (if ignoresCase then text.map Char.toLower else text)
  | .kind letter => do
    return match node, letter with
      | .folder, 'd' | .file _, 'f' | .program _, 'f' | .link _, 'l' | .device _, 'c' => true
      | _, _ => false
  | .isEmpty => do
    let tree := (← getThe Desk).tree
    return match node with
      | .file file => file.bytes.size = 0
      | .folder => tree.isEmptyFolder place
      | _ => false
  | .executable => do
    return match node with
      | .file file => file.executable
      | .folder | .program _ => true
      | _ => false
  | .size order bytes => do return compare (Utility.nodeSize (some node)) bytes = order
  | .print terminator => do
    Work.print (path ++ [terminator])
    return true
  | .delete => do
    let tree := (← getThe Desk).tree
    Work.setTree (tree.remove place)
    return true
  | .prune => do
    modify fun finding => { finding with pruned := true }
    return true
  | .quit => do
    modify fun finding => { finding with isOver := true }
    return true
  | .exec words => do
    let filled := words.map fun word =>
      match Text.cutFirst? "\x7b\x7d".toList word with
      | some (before, after) => before ++ path ++ after
      | none => word
    modify fun finding => { finding with commands := filled :: finding.commands }
    return true
  | .not inner => do return !(← ask path place node inner)
  | .both first second => do
    if ← ask path place node first then ask path place node second else return false
  | .either first second => do
    if ← ask path place node first then return true else ask path place node second

end FindExpr

namespace Utility

def walkBelow (fuel : Nat) (expr : FindExpr) (least : Nat) (most : Option Nat) (depth : Nat)
    (path : ByteText) (place : Place) : StateT Finding Work Unit := do
  match fuel with
  | 0 => return
  | fuel + 1 =>
    let tree := (← getThe Desk).tree
    match tree.node? place with
    | none => return
    | some node =>
      modify fun finding => { finding with pruned := false }
      if least ≤ depth then
        let _ ← expr.ask path place node
      let goesOn := !(← get).pruned && most.all (depth < ·)
      if node = .folder && goesOn then
        for name in tree.namesIn place do
          if !(← get).isOver then
            walkBelow fuel expr least most (depth + 1) (joinPath path (ByteText.ofString name)) (place ++ [name])

/-- The number behind a word, if it is given. -/
def numberBehind? (name : String) : List ByteText → Option Nat
  | word :: value :: rest =>
    if word = name.toList then Text.decimal? value else numberBehind? name (value :: rest)
  | _ => none

/-- Look for files: the status, and the commands to be run for what was found. -/
def findFiles (arguments : List ByteText) : Work (Nat × List (List ByteText)) := do
  let startsExpr (word : ByteText) : Bool :=
    word.head? = some '-' && 1 < word.length || word = ['('] || word = ['!']
  let arguments := arguments.dropWhile fun word => word = "-L".toList || word = "-P".toList || word = "-H".toList
  let paths := arguments.takeWhile fun word => !startsExpr word
  let words := arguments.drop paths.length
  let (expr, _) ← (FindExpr.readEither (8 * words.length + 8)).run words
  let expr := if expr.acts then expr else .both expr (.print '\n')
  let least := (numberBehind? "-mindepth" words).getD 0
  let most := numberBehind? "-maxdepth" words
  let mut status := 0
  let mut finding : Finding := {}
  for path in if paths.isEmpty then [['.']] else paths do
    match nodeAt (← get).tree false path with
    | .error error =>
      Work.complainOf [quotedName path, ": ".toList, Work.wording error]
      status := 1
    | .ok (place, _) =>
      let (_, next) ← (walkBelow 64 expr least most 0 path place).run finding
      finding := next
  return (status, finding.commands.reverse)

end Utility

end Stencil
