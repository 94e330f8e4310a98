import Stencil.Command.Failure
import Stencil.Command.Host
import Stencil.Command.Invocation
import Stencil.Files.Path
import Stencil.Json.Printer
import Stencil.Report.Inspection
import Stencil.Report.Render
import Stencil.Settings.File

/-! # Running commands

A command prints and may fail. The program prints what its command printed, tells of the
failure, and ends with the failure's exit code.

Rendering does everything that can fail before it writes: the settings are put together and
checked, template and payload are read, the report is made and converted. Then the report is
written, as the only file of the run.
-/

namespace Stencil

structure CommandResult where
  output : String := ""
  failure : Option CommandFailure := none

/-- What a program leaves behind: what it printed to its two streams, and its exit code. -/
structure ProgramResult where
  stdout : String
  stderr : String
  exitCode : Nat
  deriving Repr, DecidableEq

def CommandResult.toProgram (result : CommandResult) : ProgramResult :=
  match result.failure with
  | none => { stdout := result.output, stderr := "", exitCode := 0 }
  | some failure =>
    { stdout := result.output, stderr := failure.report, exitCode := failure.cause.exitCode }

def usageExitCode : Nat := 2

namespace Command

/-- A failure with what was being done. -/
def failing (doing : String) (detail : String) : CommandFailure :=
  { contexts := [doing], cause := .other detail }

def causedBy (cause : FailureCause) : CommandFailure :=
  { cause }

def notUtf8 : String := "stream did not contain valid UTF-8"

def decodeText (bytes : ByteArray) : Except String String :=
  match String.fromUTF8? bytes with
  | some text => .ok text
  | none => .error notUtf8

section

variable {m : Type → Type} [Monad m] (host : Host m)

def settingsOfFile (path : String) (content : Except String ByteArray) :
    Except SettingsError Settings :=
  match content.bind decodeText with
  | .error detail => .error (.unreadable path detail)
  | .ok text =>
    match Settings.read? text.toList with
    | some settings => .ok settings
    | none => .error (.malformed path "not a configuration")

/-- The settings of a file, or the standard ones, with those of the environment. -/
def loadSettings (config : Option String) : m (Except SettingsError Settings) := do
  match config with
  | none => return Settings.withEnvironment host.environment {}
  | some path =>
    return (settingsOfFile path (← host.loadFile path)).bind
      (Settings.withEnvironment host.environment)

def prepareSettings (config : Option String) (choice : SettingsChoice) :
    m (Except SettingsError Settings) := do
  let loaded ← loadSettings host config
  return loaded.bind fun settings => do
    let settings := settings.withChoice choice
    settings.validate
    return settings

/-- Whether a server can be told the text as the name of a client. -/
def isHeaderText (text : String) : Bool :=
  text.toList.all fun c => c = '\t' || (' ' ≤ c && c ≠ '\x7f')

/-- Fails for settings that no client can be made with. -/
def checkClient (settings : FetchSettings) : Except CommandFailure Unit :=
  if isHeaderText settings.userAgent then .ok ()
  else .error
    { contexts := ["Failed to create asset fetcher"], cause := .fetch (.noClient "builder error") }

def readTemplate (path : String) : m (Except CommandFailure ByteArray) := do
  return (← host.loadFile path).mapError (failing ("Failed to read template " ++ path))

def readPayload (path : String) : m (Except CommandFailure String) := do
  if path = "-" then
    let content ← host.readInput
    return (content.bind decodeText).mapError (failing "Failed to read payload from stdin")
  else
    let content ← host.loadFile path
    return (content.bind decodeText).mapError (failing ("Failed to read payload " ++ path))

def payloadOf (text : String) : Except CommandFailure Payload :=
  (Payload.read text.toList).mapError fun error => causedBy (.report (.ofPayload error))

def documentOf (template : ByteArray) : Except CommandFailure Document :=
  (Document.read template).mapError fun error => causedBy (.report (.package error))

def reportPath (settings : OutputSettings) (output : Option String) : m String :=
  match output with
  | some path => pure path
  | none => do
    let name ← host.freshName
    return Path.inside settings.folder (name ++ "." ++ settings.format.extension)

def writeReport (path : String) (bytes : ByteArray) : m (Except CommandFailure Unit) := do
  let folder := Path.folder path
  let created ← if folder.isEmpty then pure (.ok ()) else host.createFolders folder
  match created with
  | .error detail => return .error (failing ("Failed to create " ++ folder) detail)
  | .ok () =>
    return (← host.saveFile path bytes).mapError (failing ("Failed to write report " ++ path))

structure WrittenReport where
  path : String
  link : Option String
  format : OutputFormat
  report : Report
  milliseconds : Nat

def makeReport (arguments : RenderArguments) (config : Option String) :
    ExceptT CommandFailure m WrittenReport := do
  let prepared ← ExceptT.lift (prepareSettings host config arguments.choice)
  let settings ← ExceptT.mk (pure (prepared.mapError fun error => causedBy (.settings error)))
  ExceptT.mk (pure (checkClient settings.fetch))
  let template ← ExceptT.mk (readTemplate host arguments.template)
  let text ← ExceptT.mk (readPayload host arguments.data)
  let payload ← ExceptT.mk (pure (payloadOf text))
  let document ← ExceptT.mk (pure (documentOf template))
  let started ← host.milliseconds
  let fetch ← host.fetcher settings.fetch
  let report ← ExceptT.mk (pure ((render document payload settings.render fetch).mapError
    fun error => causedBy (.report error)))
  let finished ← host.milliseconds
  let format := settings.output.format
  let converted ← host.convert settings.convert report.bytes format
  let bytes ← ExceptT.mk (pure (converted.mapError fun error => causedBy (.conversion error)))
  let path ← ExceptT.lift (reportPath host settings.output arguments.output)
  ExceptT.mk (writeReport host path bytes)
  return {
    path, format, report
    link := settings.output.link? ((Path.fileName? path).getD "")
    milliseconds := finished - started }

def WrittenReport.toJson (written : WrittenReport) : Json :=
  .object
    [("link", .ofString? written.link), ("path", .string written.path),
     ("format", .string written.format.extension),
     ("warnings", .array (written.report.warnings.map Warning.toJson)),
     ("stats", written.report.statistics.toJson),
     ("duration_ms", .ofNat written.milliseconds)]

def jsonLines (value : Json) : String :=
  String.ofList value.indented ++ "\n"

def WrittenReport.lines (written : WrittenReport) : String :=
  "✅ Report written to " ++ written.path ++ "\n" ++
    (match written.link with
      | some link => "   🔗 " ++ link ++ "\n"
      | none => "") ++
    String.join (written.report.warnings.map fun warning => "   ⚠️  " ++ warning.message ++ "\n")

def runRender (options : CommonOptions) (arguments : RenderArguments) : m CommandResult := do
  match ← (makeReport host arguments options.config).run with
  | .error failure => return { failure := some failure }
  | .ok written =>
    return { output := if arguments.json then jsonLines written.toJson else written.lines }

def occurrenceLine (occurrence : Occurrence) : String :=
  match occurrence.malformed with
  | some reason => "   ❌ " ++ occurrence.raw ++ " (" ++ reason ++ ")\n"
  | none =>
    let icon := match occurrence.kind with
      | .text => "🔤"
      | .image => "🖼️ "
    let formatter := match occurrence.formatter with
      | some formatter => " [formatter '" ++ formatter ++ "' ignored]"
      | none => ""
    "   " ++ icon ++ " " ++ occurrence.identifier ++ formatter ++ "\n"

/-- The lines that tell of occurrences, under the names of their parts. `current` is the
    part told of last. -/
def occurrenceLines (current : String) : List Occurrence → String
  | [] => ""
  | occurrence :: rest =>
    let heading :=
      if occurrence.part = current then "" else "📄 " ++ occurrence.part ++ "\n"
    heading ++ occurrenceLine occurrence ++ occurrenceLines occurrence.part rest

def inspectionText (json : Bool) (occurrences : List Occurrence) : String :=
  if json then jsonLines (.array (occurrences.map Occurrence.toJson))
  else if occurrences.isEmpty then "No tags found\n"
  else occurrenceLines "" occurrences

/-- What is told of a template with occurrences, and whether that is a failure. -/
def inspectionResult (arguments : InspectArguments) (occurrences : List Occurrence) :
    CommandResult :=
  let malformed := occurrences.countP Occurrence.isMalformed
  { output := inspectionText arguments.json occurrences
    failure :=
      if arguments.denyMalformed && malformed ≠ 0 then
        some (causedBy (.other ("Template has " ++ toString malformed ++ " malformed tag(s)")))
      else none }

def runInspect (arguments : InspectArguments) : m CommandResult := do
  match ← readTemplate host arguments.template with
  | .error failure => return { failure := some failure }
  | .ok template =>
    match (Document.read template).bind Stencil.inspect with
    | .error error => return { failure := some (causedBy (.package error)) }
    | .ok occurrences => return inspectionResult arguments occurrences

def originLine (config : Option String) : String :=
  match config with
  | some path => "# Loaded from " ++ path ++ "\n"
  | none => "# Built-in defaults\n"

def runCheckConfig (options : CommonOptions) (probe : Bool) : m CommandResult := do
  match ← prepareSettings host options.config {} with
  | .error error => return { failure := some (causedBy (.settings error)) }
  | .ok settings =>
    let shown := originLine options.config ++ String.ofList settings.print
    let program := settings.convert.program
    if !probe then return { output := shown }
    else if ← host.isAvailable settings.convert then
      return { output := shown ++ "✅ Converter '" ++ program ++ "' is available\n" }
    else
      return { output := shown, failure := some (causedBy (.conversion (.notAvailable program))) }

def run (options : CommonOptions) : Invocation → m CommandResult
  | .render arguments => runRender host options arguments
  | .inspect arguments => runInspect host arguments
  | .checkConfig probe => runCheckConfig host options probe

def runProgram (arguments : List String) : m ProgramResult := do
  match Invocation.read host.environment arguments with
  | .show text => return { stdout := text, stderr := "", exitCode := 0 }
  | .refuse error =>
    return { stdout := "", stderr := "error: " ++ error.message ++ "\n", exitCode := usageExitCode }
  | .run options invocation => return (← run host options invocation).toProgram

end

end Command

end Stencil
