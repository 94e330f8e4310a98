import Stencil.Command.Options
import Stencil.Convert.Format
import Stencil.Settings.Layers

/-! # Invocations

What the program is asked to do: to render a report, to inspect a template, or to check its
configuration. Some options are understood before and behind the name of the command.
-/

namespace Stencil

structure CommonOptions where
  verbose : Bool
  quiet : Bool
  logJson : Bool
  config : Option String
  deriving Repr, DecidableEq

structure RenderArguments where
  template : String
  /-- The path of the payload, a dash for standard input. -/
  data : String
  output : Option String
  choice : SettingsChoice
  json : Bool
  deriving Repr, DecidableEq

structure InspectArguments where
  template : String
  json : Bool
  /-- Whether malformed tags are a failure. -/
  denyMalformed : Bool
  deriving Repr, DecidableEq

/-- A command with its arguments. -/
inductive Invocation where
  | render (arguments : RenderArguments)
  | inspect (arguments : InspectArguments)
  /-- Show the settings, and with `probe` whether the converter can be run. -/
  | checkConfig (probe : Bool)
  deriving Repr, DecidableEq

/-- What a command line asks for. -/
inductive Request where
  | run (options : CommonOptions) (invocation : Invocation)
  | show (text : String)
  | refuse (error : UsageError)
  deriving Repr, DecidableEq

namespace Invocation

def programName : String := "reportgen"

def version : String := "0.1.0"

/-- The variable with the path of the settings. -/
def configVariable : String := "REPORTGEN_CONFIG"

def acceptsPath (value : String) : Bool :=
  !value.isEmpty

def acceptsText (_ : String) : Bool :=
  true

/-- A number with fewer than the given bits. -/
def numberBelow? (bits : Nat) (value : String) : Option Nat :=
  (Settings.number64? value.toList).filter (· < 2 ^ bits)

def acceptsNumber (bits : Nat) (value : String) : Bool :=
  (numberBelow? bits value).isSome

def format? (value : String) : Option OutputFormat :=
  OutputFormat.ofText? value.toList

def acceptsFormat (value : String) : Bool :=
  (format? value).isSome

def commonSpecs : List OptionSpec :=
  [{ long := "verbose", short := some 'v' }, { long := "quiet", short := some 'q' },
   { long := "log-json" },
   { long := "config", short := some 'c', accepts := some acceptsPath },
   { long := "help", short := some 'h', informs := true },
   { long := "version", short := some 'V', informs := true }]

def renderSpecs : List OptionSpec :=
  [{ long := "data", short := some 'd', accepts := some acceptsPath },
   { long := "output", short := some 'o', accepts := some acceptsPath },
   { long := "format", short := some 'f', accepts := some acceptsFormat },
   { long := "output-dir", accepts := some acceptsPath },
   { long := "public-base-url", accepts := some acceptsText }, { long := "strict" },
   { long := "no-linebreaks" }, { long := "image-width", accepts := some (acceptsNumber 32) },
   { long := "image-height", accepts := some (acceptsNumber 32) },
   { long := "concurrency", accepts := some (acceptsNumber 64) },
   { long := "soffice", accepts := some acceptsText }, { long := "json" }]

def inspectSpecs : List OptionSpec :=
  [{ long := "json" }, { long := "deny-malformed" }]

def checkSpecs : List OptionSpec :=
  [{ long := "probe" }]

def templateSpec : PositionalSpec :=
  { name := "template", accepts := acceptsPath }

def hasFlag (given : GivenOptions) (name : String) : Bool :=
  (given.lookup name).isSome

def renderOf (given : GivenOptions) (words : List String) :
    Except UsageError RenderArguments :=
  match words, given.lookup "data" with
  | [], _ => .error (.missingArgument "<TEMPLATE>")
  | _, none => .error (.missingArgument "--data <FILE>")
  | template :: _, some data => .ok
      { template, data
        output := given.lookup "output"
        json := hasFlag given "json"
        choice :=
          { format := (given.lookup "format").bind format?
            folder := given.lookup "output-dir"
            publicBase := given.lookup "public-base-url"
            strict := hasFlag given "strict"
            withoutLinebreaks := hasFlag given "no-linebreaks"
            imageWidth := (given.lookup "image-width").bind (numberBelow? 32)
            imageHeight := (given.lookup "image-height").bind (numberBelow? 32)
            concurrency := (given.lookup "concurrency").bind (numberBelow? 64)
            program := given.lookup "soffice" } }

def inspectOf (given : GivenOptions) (words : List String) :
    Except UsageError InspectArguments :=
  match words with
  | [] => .error (.missingArgument "<TEMPLATE>")
  | template :: _ => .ok
      { template, json := hasFlag given "json"
        denyMalformed := hasFlag given "deny-malformed" }

/-- A command: its own options, its positional arguments, and how it is made of them. -/
structure CommandSpec where
  name : String
  options : List OptionSpec
  positionals : List PositionalSpec
  make : GivenOptions → List String → Except UsageError Invocation

def commands : List CommandSpec :=
  [{ name := "render", options := renderSpecs, positionals := [templateSpec]
     make := fun given words => (renderOf given words).map render },
   { name := "inspect", options := inspectSpecs, positionals := [templateSpec]
     make := fun given words => (inspectOf given words).map inspect },
   { name := "check-config", options := checkSpecs, positionals := []
     make := fun given _ => .ok (checkConfig (hasFlag given "probe")) }]

def checkConflict (given : GivenOptions) : Except UsageError Unit :=
  if hasFlag given "quiet" && hasFlag given "verbose" then
    .error (.conflictingOptions "quiet" "verbose")
  else .ok ()

/-- The path of the settings: the one given last, else the one of the environment. -/
def configOf (environment : Environment) (outer inner : GivenOptions) :
    Except UsageError (Option String) :=
  match environment configVariable with
  | some "" => .error (.missingValue "config")
  | inherited => .ok (((inner.lookup "config").or (outer.lookup "config")).or inherited)

/-- What is shown in the place of a command, under the name of the program or of one of its
    commands. -/
def information (name option : String) : String :=
  if option = "version" then name ++ " " ++ version ++ "\n"
  else "Usage: " ++ name ++ " [OPTIONS] <COMMAND>\n"

/-- What stopped the reading of a command line. -/
def requestOfStop (name : String) : OptionStop → Request
  | .asked option => .show (information name option)
  | .refused error => .refuse error

def readCommand (environment : Environment) (outer : GivenOptions) (command : CommandSpec)
    (arguments : List String) : Request :=
  let specs := command.options ++ commonSpecs
  match OptionSpec.read specs command.positionals none [] arguments with
  | .error stop => requestOfStop (programName ++ "-" ++ command.name) stop
  | .ok (given, words) =>
    let made := do
      checkConflict given
      let invocation ← command.make given words
      checkConflict outer
      let config ← configOf environment outer given
      let flag (name : String) := hasFlag outer name || hasFlag given name
      return Request.run
        { verbose := flag "verbose", quiet := flag "quiet", logJson := flag "log-json", config }
        invocation
    match made with
    | .ok request => request
    | .error error => .refuse error

/-- What a call for help asks for: that of the program, or that of a command. -/
def readHelp (arguments : List String) : Request :=
  match arguments.find? fun name => !(commands.map CommandSpec.name).contains name with
  | some name => .refuse (.unknownCommand name)
  | none => .show (information programName "help")

def read (environment : Environment) (arguments : List String) : Request :=
  match OptionSpec.readLeading commonSpecs none [] arguments with
  | .error stop => requestOfStop programName stop
  | .ok (_, []) => .refuse .noCommand
  | .ok (outer, name :: rest) =>
    match commands.find? fun command => command.name = name with
    | some command => readCommand environment outer command rest
    | none => if name = "help" then readHelp rest else .refuse (.unknownCommand name)

end Invocation

/-- The messages that are logged unless something else is asked for. -/
def logDirectives (verbose quiet : Bool) : String :=
  if verbose then "debug" else if quiet then "error" else "reportgen=info,warn"

end Stencil
