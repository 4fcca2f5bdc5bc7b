import Rulebook.Error
import Rulebook.Resolution.Resolver

/-!
Files and folders below a working folder, as a value: what a path leads to, and
what becomes of the folder when a file is written.
-/

namespace Rulebook

inductive PathState where
  | absent
  | unreadable (fault : FileFault)
  | file (content : List UInt8)

/-- The files below a folder by their paths, and the folders that are known to
be there besides those on the way to a file. -/
structure Folder where
  files : List (List String × List UInt8) := []
  folders : List (List String) := []

namespace Folder

/-- The steps of a path. Empty ones and steps in place lead nowhere. -/
def steps (path : String) : List String :=
  (path.splitOn "/").filter fun step => !step.isEmpty && step != "."

def isFolder (folder : Folder) (path : List String) : Bool :=
  path.isEmpty || folder.folders.any (path.isPrefixOf ·) ||
    folder.files.any fun (file, _) => path.isPrefixOf file && path.length < file.length

def file? (folder : Folder) (path : List String) : Option (List UInt8) := folder.files.lookup path

/-- Go along the steps of a path; every step but the last has to lead to a
folder. A step up leads back along the path. -/
def walk (folder : Folder) (here : List String) : List String → Except FileFault (List String)
  | [] => .ok here
  | step :: rest =>
    if !folder.isFolder here then
      .error (if (folder.file? here).isSome then .notDirectory else .noSuchFile)
    else if step = ".." then walk folder here.dropLast rest
    else walk folder (here ++ [step]) rest

/-- Whether a path asks for a folder by ending in a slash. -/
def asksFolder (path : String) : Bool := path.toList.getLast? == some '/'

def look (folder : Folder) (path : String) : PathState :=
  if path.isEmpty then .absent
  else
    match folder.walk [] (steps path) with
    | .error _ => .absent
    | .ok place =>
      if folder.isFolder place then .unreadable .isDirectory
      else if asksFolder path then .absent
      else (folder.file? place).elim .absent .file

def write (folder : Folder) (path : String) (content : List UInt8) : Except FileFault Folder := do
  if path.isEmpty then throw .noSuchFile
  let place ← folder.walk [] (steps path)
  if folder.isFolder place then throw .isDirectory
  if !folder.isFolder place.dropLast then
    throw (if (folder.file? place.dropLast).isSome then .notDirectory else .noSuchFile)
  if asksFolder path then
    throw (if (folder.file? place).isSome then .notDirectory else .isDirectory)
  return { folder with files := (place, content) :: folder.files.filter (·.1 != place) }

end Folder

namespace PathState

def text (path : String) : PathState → Except ResolveError String
  | .absent => .error (.fileNotFound path)
  | .unreadable fault => .error (.unreadable path fault)
  | .file content =>
    match String.fromUTF8? ⟨content.toArray⟩ with
    | some text => .ok text
    | none => .error (.unreadable path .notUtf8)

def document (path : String) (state : PathState) : Except ResolveError Json :=
  state.text path >>= fun text => Resolution.readDocument text path

end PathState
end Rulebook
