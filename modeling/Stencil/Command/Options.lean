import Stencil.Text.Basic

/-! # Options of a command line

The arguments of a command line are options and positional arguments. An option has a long
name and may have a short one; it is a flag or takes a value, which is joined to its name or
is the next argument. Short options may be joined. Behind two dashes all arguments are
positional. No option is given twice.
-/

namespace Stencil

/-- What is wrong with a command line. -/
inductive UsageError where
  | unknownArgument (argument : String)
  | unexpectedValue (option : String)
  | missingValue (option : String)
  | invalidValue (option value : String)
  | repeatedOption (option : String)
  | conflictingOptions (one other : String)
  | missingArgument (name : String)
  | unknownCommand (name : String)
  | noCommand
  deriving Repr, DecidableEq

def UsageError.message : UsageError → String
  | unknownArgument argument => "unexpected argument '" ++ argument ++ "' found"
  | unexpectedValue option => "unexpected value for '--" ++ option ++ "' found; no more were expected"
  | missingValue option => "a value is required for '--" ++ option ++ "' but none was supplied"
  | invalidValue option value => "invalid value '" ++ value ++ "' for '--" ++ option ++ "'"
  | repeatedOption option => "the argument '--" ++ option ++ "' cannot be used multiple times"
  | conflictingOptions one other =>
    "the argument '--" ++ one ++ "' cannot be used with '--" ++ other ++ "'"
  | missingArgument name => "the required argument " ++ name ++ " was not provided"
  | unknownCommand name => "unrecognized subcommand '" ++ name ++ "'"
  | noCommand => "a subcommand is required"

/-- An option of a command. -/
structure OptionSpec where
  long : String
  short : Option Char := none
  /-- The values that the option takes; none for a flag. -/
  accepts : Option (String → Bool) := none
  /-- Whether the option ends the reading of the command line. -/
  informs : Bool := false

structure PositionalSpec where
  name : String
  accepts : String → Bool

/-- Why reading a command line stops. -/
inductive OptionStop where
  /-- The command line is wrong. -/
  | refused (error : UsageError)
  /-- The option asks for information instead of a command. -/
  | asked (option : String)
  deriving Repr, DecidableEq

/-- The options of a command line with their values; flags have empty ones. -/
abbrev GivenOptions := List (String × String)

namespace OptionSpec

def looksLikeOption (argument : String) : Bool :=
  match argument.toList with
  | '-' :: _ :: _ => true
  | _ => false

/-- The options given so far and one more. -/
def give (given : GivenOptions) (spec : OptionSpec) (value : String) :
    Except OptionStop GivenOptions :=
  if spec.informs then .error (.asked spec.long)
  else if (given.lookup spec.long).isSome then .error (.refused (.repeatedOption spec.long))
  else
    match spec.accepts with
    | none => .ok (given ++ [(spec.long, value)])
    | some accepts =>
      if accepts value then .ok (given ++ [(spec.long, value)])
      else .error (.refused (.invalidValue spec.long value))

/-- Read an argument of joined short options. The last one may be an option whose value is
    still to come. -/
def readJoined (specs : List OptionSpec) (argument : String) (given : GivenOptions) :
    List Char → Except OptionStop (GivenOptions × Option OptionSpec)
  | [] => .ok (given, none)
  | c :: rest =>
    match specs.find? fun spec => spec.short = some c with
    | none => .error (.refused (.unknownArgument argument))
    | some spec =>
      if spec.accepts.isNone then do
        let given ← give given spec ""
        readJoined specs argument given rest
      else
        match rest with
        | [] => .ok (given, some spec)
        | '=' :: value => (give given spec (String.ofList value)).map fun given => (given, none)
        | value => (give given spec (String.ofList value)).map fun given => (given, none)

/-- Read an argument that is one long option. Its value may be still to come. -/
def readLong (specs : List OptionSpec) (argument : String) (given : GivenOptions) :
    Except OptionStop (GivenOptions × Option OptionSpec) :=
  let body := argument.toList.drop 2
  let (name, value) := match Text.splitFirst? '=' body with
    | some (name, value) => (name, some (String.ofList value))
    | none => (body, none)
  match specs.find? fun spec => spec.long.toList = name with
  | none => .error (.refused (.unknownArgument argument))
  | some spec =>
    match spec.accepts, value with
    | none, some _ => .error (.refused (.unexpectedValue spec.long))
    | some _, none => .ok (given, some spec)
    | _, value => (give given spec (value.getD "")).map fun given => (given, none)

def readDashed (specs : List OptionSpec) (argument : String) (given : GivenOptions) :
    Except OptionStop (GivenOptions × Option OptionSpec) :=
  match argument.toList with
  | '-' :: '-' :: _ => readLong specs argument given
  | _ => readJoined specs argument given (argument.toList.drop 1)

def readPositionals : List PositionalSpec → List String → Except OptionStop (List String)
  | _, [] => .ok []
  | [], argument :: _ => .error (.refused (.unknownArgument argument))
  | spec :: specs, argument :: rest =>
    if spec.accepts argument then (readPositionals specs rest).map (argument :: ·)
    else .error (.refused (.invalidValue spec.name argument))

/-- Read all arguments of a command: the options, and the positional arguments. `pending` is
    an option whose value comes next. -/
def read (specs : List OptionSpec) (positionals : List PositionalSpec)
    (pending : Option OptionSpec) (given : GivenOptions) :
    List String → Except OptionStop (GivenOptions × List String)
  | [] =>
    match pending with
    | some spec => .error (.refused (.missingValue spec.long))
    | none => .ok (given, [])
  | argument :: rest =>
    match pending with
    | some spec =>
      if looksLikeOption argument then .error (.refused (.missingValue spec.long))
      else do
        let given ← give given spec argument
        read specs positionals none given rest
    | none =>
      if argument = "--" then (readPositionals positionals rest).map fun words => (given, words)
      else if looksLikeOption argument then do
        let (given, pending) ← readDashed specs argument given
        read specs positionals pending given rest
      else do
        let _ ← readPositionals positionals [argument]
        let (given, words) ← read specs positionals.tail none given rest
        return (given, argument :: words)

/-- Read arguments up to a positional one: the options, and the arguments from that one
    on. -/
def readLeading (specs : List OptionSpec) (pending : Option OptionSpec)
    (given : GivenOptions) : List String → Except OptionStop (GivenOptions × List String)
  | [] =>
    match pending with
    | some spec => .error (.refused (.missingValue spec.long))
    | none => .ok (given, [])
  | argument :: rest =>
    match pending with
    | some spec =>
      if looksLikeOption argument then .error (.refused (.missingValue spec.long))
      else do
        let given ← give given spec argument
        readLeading specs none given rest
    | none =>
      if argument = "--" then
        match rest with
        | name :: _ => .error (.refused (.unknownArgument name))
        | [] => .ok (given, [])
      else if looksLikeOption argument then do
        let (given, pending) ← readDashed specs argument given
        readLeading specs pending given rest
      else .ok (given, argument :: rest)

end OptionSpec

end Stencil
