import Stencil.Awk.Run
import Stencil.Utility.Dump
import Stencil.Utility.Editor
import Stencil.Utility.Find
import Stencil.Utility.Identity
import Stencil.Utility.Order
import Stencil.Utility.Output
import Stencil.Utility.Question
import Stencil.Utility.Search
import Stencil.Zip.Digest

/-! # The catalog of utilities

Every utility by the name it is called by.
-/

namespace Stencil

open Shell (ByteText)

namespace Utility

/-- The digest of bytes in sixty-four hexadecimal digits. -/
def eightWordDigest (bytes : ByteArray) : ByteText :=
  hexText (Zip.Digest.ofBytes bytes)

def catalog : List (String × Utility) :=
  [("[", bracketTest), ("arch", say "x86_64"), ("awk", awk), ("base64", base64),
   ("basename", basename), ("cat", cat), ("chgrp", changeOwner), ("chmod", chmod),
   ("chown", changeOwner), ("cksum", cksum), ("cmp", cmp), ("comm", comm), ("cp", cp),
   ("cut", cut), ("date", date), ("dd", dd), ("dir", list), ("dirname", dirname),
   ("echo", echoPlain), ("egrep", egrep), ("expand", expandTabs), ("expr", expr),
   ("false", fail), ("fgrep", fgrep), ("fold", fold), ("grep", grep), ("groups", say "root"),
   ("head", head), ("hostname", say "localhost"), ("id", id), ("ln", ln),
   ("logname", logname), ("ls", list), ("mawk", awk), ("md5sum", digestBy "md5sum" fourWordDigest),
   ("mkdir", mkdir), ("mktemp", mktemp), ("mv", mv), ("nl", nl), ("nproc", say "1"), ("od", od),
   ("paste", paste), ("printf", printf), ("pwd", pwd), ("readlink", readlink),
   ("realpath", realpath), ("rev", rev), ("rm", rm), ("rmdir", rmdir), ("sed", sed),
   ("seq", seq), ("sha1sum", digestBy "sha1sum" fiveWordDigest),
   ("sha256sum", digestBy "sha256sum" eightWordDigest), ("sleep", sleep), ("sort", sort),
   ("stat", stat), ("sync", succeed), ("tac", tac), ("tail", tail), ("tee", tee),
   ("test", test), ("touch", touch), ("tr", tr), ("true", succeed), ("truncate", truncate),
   ("tty", tty), ("uname", uname), ("uniq", uniq), ("unlink", rm), ("wc", wc),
   ("whoami", say "root"), ("yes", yes)]

/-- Utilities that answer arguments of every kind, also those that ask for help. -/
def plainNames : List String :=
  ["[", "awk", "echo", "expr", "mawk", "printf", "test"]

/-- What utilities do that are asked about themselves. -/
def tellOfSelf (name : String) : Utility := fun _ => do
  Work.printLine (name ++ " (utilities) 1.0").toList
  return if name = "false" then 1 else 0

def find? (name : String) (arguments : List ByteText) : Option Utility :=
  let asks := arguments.head?.any fun argument =>
    argument = "--version".toList || argument = "--help".toList
  let isPlain := plainNames.contains name && (1 < arguments.length || name = "test" || name = "[")
  (catalog.lookup name).map fun utility => if asks && !isPlain then tellOfSelf name else utility

/-- Utilities whose output comes behind all complaints. -/
def isLate (name : String) : Bool :=
  ["awk", "mawk", "sed"].contains name

end Utility

end Stencil
