import Stencil.Utility.Basic

/-! # Utilities about the computer

Utilities that tell who runs them, and on what kind of computer.
-/

namespace Stencil

open Shell (ByteText)

namespace Utility

/-- Prints a line that is always the same. -/
def say (line : String) : Utility := fun _ => do
  Work.printLine line.toList
  return 0

def id : Utility := fun arguments => do
  let spec : UtilityOptions :=
    { flags := "ugnrG", long := [("user", 'u'), ("group", 'g'), ("name", 'n')], name := "id" }
  let given ← spec.read arguments
  let single := given.has 'u' || given.has 'g' || given.has 'G'
  Work.printLine (if !single then "uid=0(root) gid=0(root) groups=0(root)".toList
    else if given.has 'n' then "root".toList else ['0'])
  return 0

/-- Prints what kind of computer it is. -/
def uname : Utility := fun arguments => do
  let spec : UtilityOptions :=
    { flags := "asnrvmpio"
      long := [("all", 'a'), ("kernel-name", 's'), ("nodename", 'n'), ("kernel-release", 'r'),
        ("kernel-version", 'v'), ("machine", 'm'), ("operating-system", 'o')]
      name := "uname" }
  let given ← spec.read arguments
  let facts := [('s', "Linux"), ('n', "localhost"), ('r', "6.1.0"), ('v', "#1 SMP"),
    ('m', "x86_64"), ('p', "unknown"), ('i', "unknown"), ('o', "GNU/Linux")]
  let isWanted (letter : Char) : Bool :=
    given.has letter || (given.has 'a' && letter ≠ 'p' && letter ≠ 'i') ||
      (given.options.isEmpty && letter = 's')
  let wanted := (facts.filter fun fact => isWanted fact.1).map Prod.snd
  Work.printLine (" ".intercalate wanted).toList
  return 0

def tty : Utility := fun arguments => do
  if !arguments.contains ['-', 's'] then Work.printLine "not a tty".toList
  return 1

/-- Prints the time at which clocks begin. -/
def date : Utility := fun arguments => do
  let fields := [('Y', "1970"), ('m', "01"), ('d', "01"), ('H', "00"), ('M', "00"), ('S', "00"),
    ('s', "0"), ('F', "1970-01-01"), ('T', "00:00:00"), ('y', "70"), ('j', "001"), ('N', "000000000"),
    ('Z', "UTC"), ('a', "Thu"), ('A', "Thursday"), ('b', "Jan"), ('B', "January"), ('e', " 1"),
    ('u', "4"), ('n', "\n"), ('t', "\t"), ('%', "%")]
  let rec fill (layout : ByteText) : ByteText :=
    match layout with
    | '%' :: letter :: rest =>
      match fields.lookup letter with
      | some text => text.toList ++ fill rest
      | none => '%' :: letter :: fill rest
    | c :: rest => c :: fill rest
    | [] => []
  match arguments.find? fun argument => argument.head? = some '+' with
  | some layout => Work.printLine (fill layout.tail)
  | none => Work.printLine "Thu Jan  1 00:00:00 UTC 1970".toList
  return 0

/-- Tells that nobody has logged in. -/
def logname : Utility := fun _ =>
  Work.stop 1 ["no login name".toList]

end Utility

end Stencil
