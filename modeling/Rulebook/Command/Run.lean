import Rulebook.Command.Arguments
import Rulebook.Command.Folder
import Rulebook.Validation.Payload

/-!
What a command does: what it prints, the code it ends with, and the file it
writes. How files are looked at is a parameter.
-/

namespace Rulebook
namespace Command

structure Report where
  code : Nat
  output : String := ""
  errors : String := ""

/-- What comes of a command: a report, or a file to be written. -/
inductive Response where
  | report (report : Report)
  | write (path content : String)

namespace Report

def line (text : String) : Report := { code := 0, output := text ++ "\n" }

def failure (code : Nat) (message : String) : Report :=
  { code, errors := "Error: " ++ message ++ "\n" }

end Report

def afterWriting (path : String) : Except FileFault Unit → Report
  | .ok () => { code := 0 }
  | .error fault =>
    { code := 3, errors := "Error writing to " ++ path ++ ": " ++ fault.message ++ "\n" }

def present (options : SourceOptions) (v : Json) : Response :=
  let text := if options.pretty then v.pretty else v.compact
  match options.output with
  | some path => .write path text
  | none => .report (.line text)

/-- The schema that a source names: something to be fetched, or a file. The base
of relative references counts for files only. -/
def schemaSource (look : String → PathState) (source : String) (baseUrl : Option String) :
    Except ResolveError Source :=
  if Url.isFetchable source then .ok { url := some source }
  else do
    let document ← (look source).document source
    return { document := some document, url := baseUrl }

def resolved (library : Library) (look : String → PathState) (source : String)
    (baseUrl : Option String) : Except ResolveError Json := do
  let source ← schemaSource look source baseUrl
  (Resolution.run (Resolution.resolve library source) {}).1

def runResolve (library : Library) (look : String → PathState) (options : SourceOptions) :
    Response :=
  match resolved library look options.source options.baseUrl with
  | .ok document => present options document
  | .error e => .report (.failure e.exitCode e.message)

def runCompile (library : Library) (look : String → PathState) (options : SourceOptions) :
    Response :=
  match compileResolved (resolved library look options.source options.baseUrl) with
  | .ok table => present options table.toJson
  | .error e => .report (.failure e.exitCode e.message)

def validationFailure (json : Bool) (code : Nat) (message : String) : Report :=
  if json then
    { code
      output := (Json.object [("valid", .bool false), ("error", .string message)]).compact ++ "\n" }
  else .failure code message

def violationJson (v : Violation) : Json :=
  .object [("path", .string v.pointer), ("rule_key", .string v.ruleKey),
    ("message", .string v.message)]

def violationsReport (json : Bool) (violations : List Violation) : Report :=
  if json then
    { code := 1
      output := (Json.object [("valid", .bool false),
        ("errors", .array (violations.map violationJson))]).compact ++ "\n" }
  else
    { code := 1
      errors := "Validation failed:\n" ++
        String.join (violations.map fun v => "  " ++ v.display ++ "\n") }

/-- Validate a payload. The payload is looked at before the schema. -/
def runValidate (library : Library) (look : String → PathState) (options : ValidateOptions) :
    Report :=
  let failed (stage : String) (e : ResolveError) : Report :=
    validationFailure options.json e.exitCode (stage ++ e.message)
  match (look options.payload).document options.payload with
  | .error e => failed "loading payload: " e
  | .ok payload =>
    match schemaSource look options.schema options.baseUrl with
    | .error e => failed "loading schema: " e
    | .ok source =>
      match (Resolution.run (Resolution.resolve library source) {}).1 with
      | .error e => failed "" e
      | .ok schema =>
        match schema.validate payload with
        | .ok () =>
          .line (if options.json then (Json.object [("valid", .bool true)]).compact else "Valid")
        | .error (.invalid violations) => violationsReport options.json violations
        | .error e => validationFailure options.json e.exitCode e.message

def versionText : String := "schema-rules 0.1.0"

def run (library : Library) (look : String → PathState) : Command → Response
  | .version => .report (.line versionText)
  | .compile options => runCompile library look options
  | .resolve options => runResolve library look options
  | .validate options => .report (runValidate library look options)

/-- Run a command line. Arguments that are no command end with code 2. -/
def runArguments (library : Library) (look : String → PathState) (args : List String) : Response :=
  match read args with
  | .ok command => run library look command
  | .error fault => .report { code := 2, errors := "error: " ++ fault.message ++ "\n" }

end Command
end Rulebook
