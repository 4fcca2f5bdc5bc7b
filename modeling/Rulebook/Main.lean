import Rulebook.Command.Run

/-!
The program: it reads and writes files on disk, and fetches nothing.
-/

open Rulebook

namespace Rulebook.Program

def fileFault : IO.Error → FileFault
  | .noFileOrDirectory .. => .noSuchFile
  | .inappropriateType _ _ details =>
    if details.toLower.startsWith "is a" then .isDirectory else .notDirectory
  | e => .other e.toString

def look (path : String) : IO PathState := do
  match ← (IO.FS.readBinFile path).toBaseIO with
  | .ok content => return .file content.toList
  | .error e =>
    match fileFault e with
    | .noSuchFile | .notDirectory => return .absent
    | fault => return .unreadable fault

def inputs : Command → List String
  | .version => []
  | .compile options | .resolve options => [options.source]
  | .validate options => [options.payload, options.schema]

def writeFile (path content : String) : IO (Except FileFault Unit) := do
  match ← (IO.FS.writeFile path content).toBaseIO with
  | .ok () => return .ok ()
  | .error e => return .error (fileFault e)

def report (r : Command.Report) : IO UInt32 := do
  IO.print r.output
  IO.eprint r.errors
  return r.code.toUInt32

end Rulebook.Program

def main (args : List String) : IO UInt32 := do
  let paths := (Command.read args).toOption.elim [] Program.inputs
  let states ← paths.mapM fun path => return (path, ← Program.look path)
  match Command.runArguments [] (fun path => (states.lookup path).getD .absent) args with
  | .report r => Program.report r
  | .write path content =>
    Program.report (Command.afterWriting path (← Program.writeFile path content))
