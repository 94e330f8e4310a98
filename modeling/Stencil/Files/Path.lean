import Stencil.Text.Basic

/-! # Paths as text

Parts of a path are told from its text alone, whether or not anything is there. Slashes and
lone dots at the end of a path do not count.
-/

namespace Stencil

namespace Path

/-- The path without slashes and lone dots at its end, given in reverse. -/
def dropEnding : List Char → List Char
  | '/' :: rest => dropEnding rest
  | '.' :: '/' :: rest => dropEnding ('/' :: rest)
  | path => path

def trimEnding (path : List Char) : List Char :=
  (dropEnding path.reverse).reverse

/-- The name of the file that a path names; none for a path of folders only. -/
def fileName? (path : String) : Option String :=
  let trimmed := trimEnding path.toList
  let last := match Text.splitLast? '/' trimmed with
    | some (_, file) => file
    | none => trimmed
  if last.isEmpty || last = ['.'] || last = ['.', '.'] then none else some (String.ofList last)

/-- The folder that a path leads through; empty for a path of one component. -/
def folder (path : String) : String :=
  match Text.splitLast? '/' (trimEnding path.toList) with
  | none => ""
  | some (before, _) =>
    let folder := trimEnding before
    if folder.isEmpty then "/" else String.ofList folder

def inside (folder name : String) : String :=
  if folder.isEmpty || folder.endsWith "/" then folder ++ name else folder ++ "/" ++ name

end Path

end Stencil
