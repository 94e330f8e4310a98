import Stencil.Asset.Failure
import Stencil.Convert.Format
import Stencil.Report.RenderError
import Stencil.Settings.Basic

/-! # Failures of commands

A command fails for one cause, which may be told with what was being done. The cause
decides the exit code of the program and whether another try is worth it.
-/

namespace Stencil

/-- What a command failed for. -/
inductive FailureCause where
  | settings (error : SettingsError)
  | package (error : PackageError)
  | report (error : RenderError)
  | conversion (error : ConversionError)
  | fetch (error : FetchFailure)
  /-- Anything else, told by its text. -/
  | other (detail : String)
  deriving Repr, DecidableEq

/-- A failed command: what was being done, outermost first, and what it failed for. -/
structure CommandFailure where
  contexts : List String := []
  cause : FailureCause
  deriving Repr, DecidableEq

/-- What a package error is told with: its wording, and behind it what it was caused by. -/
def PackageError.chain (error : PackageError) : List String :=
  match error with
  | .unreadableFile detail => [error.message, detail]
  | _ => [error.message]

namespace FailureCause

/-- The wordings of the cause and of what it was caused by, in this order. -/
def chain : FailureCause → List String
  | settings error =>
    match error with
    | .unreadable _ detail | .malformed _ detail => [error.message, detail]
    | .badVariable _ _ | .unusable _ => [error.message]
  | package error => error.chain
  | report error =>
    match error with
    | .package cause => error.message :: cause.chain
    | .malformedPayload detail => [error.message, detail]
    | .unreadablePart _ _ | .unresolved _ | .invalidPayload _ => [error.message]
  | conversion error =>
    match error with
    | .inputOutput detail => [error.message, detail]
    | _ => [error.message]
  | fetch error => [error.message]
  | other detail => [detail]

def exitCode : FailureCause → Nat
  | settings _ => 2
  | package _ => 3
  | report error =>
    match error with
    | .package _ => 3
    | .invalidPayload _ | .malformedPayload _ => 2
    | .unreadablePart _ _ | .unresolved _ => 4
  | conversion _ => 5
  | fetch _ | other _ => 1

/-- What may help, where anything may. -/
def hint? : FailureCause → Option String
  | conversion error =>
    if error.isTransient then some "The conversion may succeed if retried" else none
  | _ => none

/-- The warnings that come with the cause, if it is one that can have some. -/
def warnings? : FailureCause → Option (List Warning)
  | report error => some error.warnings
  | _ => none

end FailureCause

namespace CommandFailure

def text (failure : CommandFailure) : String :=
  ": ".intercalate (failure.contexts ++ failure.cause.chain)

def report (failure : CommandFailure) : String :=
  "❌ Error: " ++ failure.text ++ "\n" ++
    match failure.cause.hint? with
    | some hint => "   💡 " ++ hint ++ "\n"
    | none => ""

end CommandFailure

end Stencil
