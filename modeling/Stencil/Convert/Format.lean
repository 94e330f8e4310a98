import Stencil.Text.Basic

/-! # Formats of finished reports

A report is delivered as one of a few kinds of file. The filled document is of one of them
already.
-/

namespace Stencil

/-- The kind of file that a report is delivered as. -/
inductive OutputFormat where
  | pdf
  | docx
  | odt
  | html
  deriving Repr, DecidableEq

namespace OutputFormat

def all : List OutputFormat :=
  [pdf, docx, odt, html]

/-- The extension of file names, which is also the name of the format. -/
def extension : OutputFormat → String
  | pdf => "pdf"
  | docx => "docx"
  | odt => "odt"
  | html => "html"

/-- What an office program is told to convert to. -/
def filter : OutputFormat → String
  | docx => "docx:MS Word 2007 XML"
  | format => format.extension

def isDocument : OutputFormat → Bool
  | docx => true
  | pdf | odt | html => false

/-- The format of a name that is spelled exactly. -/
def ofName? (name : String) : Option OutputFormat :=
  all.find? fun format => format.extension = name

/-- The format that a text names in any case of its ASCII letters, with or without dots
    before it and blanks around it. -/
def ofText? (text : List Char) : Option OutputFormat :=
  let name := String.ofList (Text.lowerAscii ((Text.trim text).dropWhile (· == '.')))
  if name = "htm" then some html else ofName? name

end OutputFormat

/-! ## Errors of conversions

Why a filled document could not be turned into the format that was asked for.
-/

/-- Why a conversion gave nothing. -/
inductive ConversionError where
  | notAvailable (converter : String)
  /-- The converter ended with a code other than success, or by a signal. -/
  | failed (exitCode : Option Int) (stderr : String)
  | timeout (seconds : Nat)
  /-- The converter ended with success and without a file. -/
  | outputMissing (path : String)
  | unsupportedFormat (name : String)
  /-- A file or a program could not be used. -/
  | inputOutput (detail : String)
  deriving Repr, DecidableEq

namespace ConversionError

def exitCodeText : Option Int → String
  | some code => "Some(" ++ toString code ++ ")"
  | none => "None"

def message : ConversionError → String
  | notAvailable converter => "Converter not available: " ++ converter
  | failed exitCode stderr =>
    "Conversion failed (exit code " ++ exitCodeText exitCode ++ "): " ++ stderr
  | timeout seconds => "Conversion timed out after " ++ toString seconds ++ " seconds"
  | outputMissing path => "Converter produced no output file: " ++ path
  | unsupportedFormat name => "Unsupported output format: " ++ name
  | inputOutput detail => "IO error: " ++ detail

def isTransient : ConversionError → Bool
  | timeout _ | inputOutput _ => true
  | notAvailable _ | failed _ _ | outputMissing _ | unsupportedFormat _ => false

end ConversionError

def OutputFormat.ofText (text : String) : Except ConversionError OutputFormat :=
  match ofText? text.toList with
  | some format => .ok format
  | none => .error (.unsupportedFormat (String.ofList (Text.trim text.toList)))

end Stencil
