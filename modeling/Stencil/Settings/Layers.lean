import Stencil.Settings.Basic

/-! # Layers of settings

Settings come from a file; variables of the environment override what the file says, and
choices for a single report override both. Then they are checked.
-/

namespace Stencil

/-- The values of the variables of the environment. -/
abbrev Environment := (name : String) → Option String

/-- What is chosen for a single report; what is not chosen stays as it is set. -/
structure SettingsChoice where
  format : Option OutputFormat := none
  folder : Option String := none
  publicBase : Option String := none
  strict : Bool := false
  withoutLinebreaks : Bool := false
  imageWidth : Option Nat := none
  imageHeight : Option Nat := none
  concurrency : Option Nat := none
  program : Option String := none
  deriving Repr, DecidableEq

namespace Settings

def publicBaseVariable : String := "PUBLIC_BASE_URL"

def programVariable : String := "REPORTGEN_SOFFICE"

def fetchTimeoutVariable : String := "REPORTGEN_FETCH_TIMEOUT_SECS"

/-- The trimmed value of a variable that is set and not blank. -/
def override? (environment : Environment) (name : String) : Option String :=
  match environment name with
  | some value =>
    let trimmed := Text.trim value.toList
    if trimmed.isEmpty then none else some (String.ofList trimmed)
  | none => none

/-- A number of 64 bits in decimal digits of ASCII, with or without a plus sign. -/
def number64? (text : List Char) : Option Nat :=
  (Text.decimal? ((Text.dropLead? ['+'] text).getD text)).filter (· < 2 ^ 64)

def withEnvironment (environment : Environment) (settings : Settings) :
    Except SettingsError Settings :=
  let output :=
    { settings.output with
      publicBase := (override? environment publicBaseVariable).or settings.output.publicBase }
  let convert :=
    { settings.convert with
      program := (override? environment programVariable).getD settings.convert.program }
  match environment fetchTimeoutVariable with
  | none => .ok { settings with output, convert }
  | some value =>
    match number64? (Text.trim value.toList) with
    | some timeout =>
      .ok { settings with output, convert, fetch := { settings.fetch with timeout } }
    | none => .error (.badVariable fetchTimeoutVariable value)

/-- The settings with what is chosen for a single report. -/
def withChoice (choice : SettingsChoice) (settings : Settings) : Settings :=
  { settings with
    render :=
      { imageWidth := choice.imageWidth.getD settings.render.imageWidth
        imageHeight := choice.imageHeight.getD settings.render.imageHeight
        concurrency := choice.concurrency.getD settings.render.concurrency
        linebreaks := settings.render.linebreaks && !choice.withoutLinebreaks
        strict := settings.render.strict || choice.strict }
    convert :=
      { settings.convert with program := choice.program.getD settings.convert.program }
    output :=
      { folder := choice.folder.getD settings.output.folder
        publicBase := choice.publicBase.or settings.output.publicBase
        format := choice.format.getD settings.output.format } }

def beginsAsAddress (text : String) : Bool :=
  text.startsWith "http://" || text.startsWith "https://"

/-- The first reason why no report can be made with the settings. -/
def defect? (settings : Settings) : Option String :=
  if settings.render.imageWidth = 0 ∨ settings.render.imageHeight = 0 then
    some "render image size must be at least 1x1 px"
  else if settings.render.concurrency = 0 then
    some "render.fetch_concurrency must be at least 1"
  else if settings.fetch.timeout = 0 then some "fetch.timeout_secs must be at least 1"
  else if settings.convert.timeout = 0 then some "convert.timeout_secs must be at least 1"
  else if (Text.trim settings.convert.program.toList).isEmpty then
    some "convert.soffice_binary must not be empty"
  else
    match settings.output.publicBase.filter fun base => !beginsAsAddress base with
    | some base => some ("output.public_base_url must be an http(s) URL, got '" ++ base ++ "'")
    | none => none

/-- Fails for settings with which no report can be made. -/
def validate (settings : Settings) : Except SettingsError Unit :=
  match settings.defect? with
  | some detail => .error (.unusable detail)
  | none => .ok ()

end Settings

end Stencil
