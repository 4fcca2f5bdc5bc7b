import Rulebook.Number.Power

/-!
The arguments of the command line. Options may stand before and after the
arguments they belong to; each but `--verbose` is given at most once.
-/

namespace Rulebook

structure SourceOptions where
  source : String
  output : Option String := none
  pretty : Bool := false
  baseUrl : Option String := none
deriving DecidableEq

structure ValidateOptions where
  payload : String
  schema : String
  baseUrl : Option String := none
  json : Bool := false
deriving DecidableEq

inductive Command where
  | version
  | compile (options : SourceOptions)
  | resolve (options : SourceOptions)
  | validate (options : ValidateOptions)
deriving DecidableEq

namespace Command

inductive UsageFault where
  | noCommand
  | unknownCommand (name : String)
  | unknownOption (name : String)
  | repeatedOption (name : String)
  | unexpectedValue (option value : String)
  | missingValue (option : String)
  | badValue (option value : String)
  | missingArgument (name : String)
  | unexpectedArgument (value : String)
deriving DecidableEq

namespace UsageFault

def message : UsageFault → String
  | noCommand => "a command is required: compile, resolve or validate"
  | unknownCommand name => "unrecognized subcommand '" ++ name ++ "'"
  | unknownOption name => "unexpected argument '" ++ name ++ "' found"
  | repeatedOption name => "the argument '" ++ name ++ "' cannot be used multiple times"
  | unexpectedValue option value =>
    "unexpected value '" ++ value ++ "' for '" ++ option ++ "' found; no more were expected"
  | missingValue option =>
    "a value is required for '" ++ option ++ "' but none was supplied"
  | badValue option value => "invalid value '" ++ value ++ "' for '" ++ option ++ "'"
  | missingArgument name =>
    "the following required arguments were not provided: " ++ name
  | unexpectedArgument value => "unexpected argument '" ++ value ++ "' found"

end UsageFault

/-- What is known about a command while its arguments are read. -/
structure Given where
  flags : List String := []
  values : List (String × String) := []
  positional : Option String := none
  /-- The option whose value comes next. -/
  pending : Option String := none
  /-- After a double hyphen there are no options. -/
  onlyPositional : Bool := false

/-- The names of the flags and of the options with a value of a kind of command. -/
structure Grammar where
  flags : List String
  valued : List String

def sourceGrammar : Grammar := ⟨["--pretty"], ["--output", "--base-url", "--timeout"]⟩

def validateGrammar : Grammar := ⟨["--json"], ["--schema", "--base-url", "--timeout"]⟩

def isVerbosity (arg : String) : Bool :=
  arg == "--verbose" ||
    match arg.toList with
    | '-' :: 'v' :: rest => rest.all (· == 'v')
    | _ => false

/-- Whether an argument is an option; a single hyphen is not. -/
def isOption (arg : String) : Bool := arg != "-" && arg.toList.head? == some '-'

/-- Cut an option at its first equals sign. -/
def splitValue (arg : String) : String × Option String :=
  let name := arg.toList.takeWhile (· != '=')
  match arg.toList.drop name.length with
  | _ :: value => (String.ofList name, some (String.ofList value))
  | [] => (arg, none)

/-- A timeout is a number of seconds of 64 bits. -/
def isTimeout (value : String) : Bool :=
  let digits := match value.toList with
    | '+' :: rest => rest
    | digits => digits
  !digits.isEmpty && digits.all Char.isDigit &&
    decide (digits.foldl (fun n c => n * 10 + (c.toNat - 48)) 0 < 2 ^ 64)

namespace Given

def addPositional (g : Given) (value : String) : Except UsageFault Given :=
  if g.positional.isSome then .error (.unexpectedArgument value)
  else .ok { g with positional := some value }

def addValue (g : Given) (option value : String) : Except UsageFault Given :=
  if (g.values.lookup option).isSome then .error (.repeatedOption option)
  else if option == "--timeout" && !isTimeout value then .error (.badValue option value)
  else .ok { g with values := (option, value) :: g.values }

def addFlag (g : Given) (flag : String) : Except UsageFault Given :=
  if g.flags.contains flag then .error (.repeatedOption flag)
  else .ok { g with flags := flag :: g.flags }

def addOption (grammar : Grammar) (g : Given) (arg : String) : Except UsageFault Given :=
  let (name, value) := splitValue arg
  if grammar.flags.contains name then
    match value with
    | some value => .error (.unexpectedValue name value)
    | none => g.addFlag name
  else if grammar.valued.contains name then
    match value with
    | some value => g.addValue name value
    | none => .ok { g with pending := some name }
  else .error (.unknownOption name)

def add (grammar : Grammar) (g : Given) (arg : String) : Except UsageFault Given :=
  match g.pending with
  | some option =>
    if isOption arg then .error (.missingValue option)
    else { g with pending := none }.addValue option arg
  | none =>
    if g.onlyPositional || !isOption arg then g.addPositional arg
    else if arg = "--" then .ok { g with onlyPositional := true }
    else if isVerbosity arg then .ok g
    else g.addOption grammar arg

end Given

def readArguments (grammar : Grammar) (args : List String) : Except UsageFault Given := do
  let g ← args.foldlM (Given.add grammar) {}
  match g.pending with
  | some option => throw (.missingValue option)
  | none => return g

def required (name : String) (value : Option String) : Except UsageFault String :=
  value.elim (.error (.missingArgument name)) .ok

def readSourceOptions (args : List String) : Except UsageFault SourceOptions := do
  let g ← readArguments sourceGrammar args
  return {
    source := ← required "<SOURCE>" g.positional
    output := g.values.lookup "--output"
    pretty := g.flags.contains "--pretty"
    baseUrl := g.values.lookup "--base-url" }

def readValidateOptions (args : List String) : Except UsageFault ValidateOptions := do
  let g ← readArguments validateGrammar args
  return {
    payload := ← required "<PAYLOAD>" g.positional
    schema := ← required "--schema <SCHEMA>" (g.values.lookup "--schema")
    baseUrl := g.values.lookup "--base-url"
    json := g.flags.contains "--json" }

def read : List String → Except UsageFault Command
  | [] => .error .noCommand
  | arg :: rest =>
    if isVerbosity arg then read rest
    else
      match arg with
      | "--version" | "-V" => .ok .version
      | "compile" => (readSourceOptions rest).map .compile
      | "resolve" => (readSourceOptions rest).map .resolve
      | "validate" => (readValidateOptions rest).map .validate
      | _ => .error (if isOption arg then .unknownOption arg else .unknownCommand arg)

end Command
end Rulebook
