import Rulebook.Json.Reader
import Rulebook.Json.Writer
import Rulebook.Url.Basic

/-!
Everything that can go wrong from loading a schema to compiling its rules, as
causes. The wording and the exit code of each cause are given once.
-/

namespace Rulebook

inductive FileFault where
  | noSuchFile | isDirectory | notDirectory | notUtf8
  | other (text : String)
deriving DecidableEq

def FileFault.message : FileFault → String
  | .noSuchFile => "No such file or directory (os error 2)"
  | .isDirectory => "Is a directory (os error 21)"
  | .notDirectory => "Not a directory (os error 20)"
  | .notUtf8 => "stream did not contain valid UTF-8"
  | .other text => text

inductive UnsupportedReference where
  | notText
  | notPointer
  | badEncoding (segment : String)
  | notFetchable
deriving DecidableEq

def UnsupportedReference.message : UnsupportedReference → String
  | .notText => "$ref must be a string"
  | .notPointer => "fragment is not a JSON pointer"
  | .badEncoding segment => "segment '" ++ segment ++ "' is not valid percent-encoded UTF-8"
  | .notFetchable => "only http and https references can be fetched"

/-- A failure while a schema is loaded and its references are followed. -/
inductive ResolveError where
  | missingSource
  | unresolvableBase (reference : String)
  | invalidUrl (url : String) (fault : UrlFault)
  | fileNotFound (path : String)
  | unreadable (path : String) (fault : FileFault)
  | fetchFailed (url : String) (reason : String)
  | invalidJson (origin : String) (error : Json.ReadError)
  | externalReference (reference : String)
  | unsupported (reference : String) (reason : UnsupportedReference)
  | pointerNotFound (reference : String) (segment : String)
  | circular (reference : String)
deriving DecidableEq

namespace ResolveError

def message : ResolveError → String
  | .missingSource => "schema source must contain a document or a url"
  | .unresolvableBase reference =>
    "unable to construct URL for external reference " ++ reference
  | .invalidUrl url fault => "invalid URL '" ++ url ++ "': " ++ fault.message
  | .fileNotFound path => "file not found: " ++ path
  | .unreadable path fault => "cannot read " ++ path ++ ": " ++ fault.message
  | .fetchFailed url reason => "failed to fetch " ++ url ++ ": " ++ reason
  | .invalidJson origin error => "invalid JSON in " ++ origin ++ ": " ++ error.message
  | .externalReference reference => "uncaught external reference " ++ reference
  | .unsupported reference reason =>
    "unsupported reference " ++ reference ++ ": " ++ reason.message
  | .pointerNotFound reference segment =>
    "reference " ++ reference ++ " not found: no segment '" ++ segment ++ "'"
  | .circular reference => "circular reference detected: " ++ reference

/-- Three when something could not be obtained, two when it is not usable. -/
def exitCode : ResolveError → Nat
  | .fileNotFound _ | .unreadable _ _ | .fetchFailed _ _ => 3
  | _ => 2

end ResolveError

/-- A failure while rules are made from a dereferenced schema. -/
inductive TranslateError where
  | resolve (error : ResolveError)
  | invalidKeyword (path keyword : String) (value : Json)
  | invalidPattern (path : String)
deriving DecidableEq

namespace TranslateError

def message : TranslateError → String
  | .resolve error => error.message
  | .invalidKeyword path keyword value =>
    "invalid value for '" ++ keyword ++ "' at " ++ path ++ ": " ++ value.compact
  | .invalidPattern path => "invalid pattern at " ++ path

def exitCode : TranslateError → Nat
  | .resolve error => error.exitCode
  | _ => 2

end TranslateError

inductive CompileError where
  | resolve (error : ResolveError)
  | translate (error : TranslateError)
deriving DecidableEq

namespace CompileError

def message : CompileError → String
  | .resolve error => error.message
  | .translate error => error.message

def exitCode : CompileError → Nat
  | .resolve error => error.exitCode
  | .translate error => error.exitCode

end CompileError

end Rulebook
