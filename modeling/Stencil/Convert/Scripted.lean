import Stencil.Convert.Format

/-! # Scripted converters

A scripted converter answers conversions as it was told to, format by format, and keeps a
record of what it was asked. A format that it was told nothing about is answered with the
document itself.
-/

namespace Stencil

/-- What is answered to a conversion into a format. -/
inductive ScriptedAnswer where
  | output (bytes : ByteArray)
  | failure (exitCode : Int) (stderr : String)
  | timeout (seconds : Nat)

/-- A converter with prepared answers. -/
structure ScriptedConverter where
  available : Bool
  /-- The answers by format; the first one for a format counts. -/
  answers : List (OutputFormat × ScriptedAnswer)
  /-- The format and the size of each document it was asked to convert, in order. -/
  calls : List (OutputFormat × Nat)

namespace ScriptedConverter

/-- A converter with the given answers. Of several for one format the last one counts. -/
def ofAnswers (answers : List (OutputFormat × ScriptedAnswer)) : ScriptedConverter :=
  { available := true, answers := answers.reverse, calls := [] }

/-- What is said when the converter does not answer. -/
def unavailableName : String := "mock converter"

def answer (converter : ScriptedConverter) (input : ByteArray) (format : OutputFormat) :
    Except ConversionError ByteArray :=
  if converter.available then
    match converter.answers.lookup format with
    | some (.output bytes) => .ok bytes
    | some (.failure exitCode stderr) => .error (.failed (some exitCode) stderr)
    | some (.timeout seconds) => .error (.timeout seconds)
    | none => .ok input
  else .error (.notAvailable unavailableName)

def record (converter : ScriptedConverter) (input : ByteArray) (format : OutputFormat) :
    ScriptedConverter :=
  { converter with calls := converter.calls ++ [(format, input.size)] }

def forget (converter : ScriptedConverter) : ScriptedConverter :=
  { converter with calls := [] }

end ScriptedConverter

end Stencil
