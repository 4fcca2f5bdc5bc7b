import Rulebook.Error
import Rulebook.Json.Flatten
import Rulebook.Json.Path
import Rulebook.Url.Form
import Rulebook.Url.Reader

/-!
References to other documents. A relative reference is read against the nearest
absolute `id` around it, or else against the URL of the document.
-/

namespace Rulebook

/-- A reference to another document, and where it stands. -/
structure ExternalReference where
  /-- The absolute URL of the other document. -/
  url : String
  /-- The pointer into that document, if it is not empty. -/
  fragment : Option String
  /-- The segments that lead to the `$ref`, which is the last of them. -/
  path : List String
deriving DecidableEq

namespace ExternalReference

def nodePath (item : ExternalReference) : List String := item.path.dropLast

def key (item : ExternalReference) : String := ".".intercalate item.path

end ExternalReference

def Leaf.outward? (leaf : Leaf) : Option String :=
  if leaf.lastSegment = "$ref" then
    leaf.value.asString?.filter fun r => r.toList.head? != some '#'
  else none

namespace Json

def absoluteId (node : Json) : Option String :=
  ["id", "$id"].findSome? fun key => (node.text? key).filter Url.hasScheme

/-- The absolute `id` nearest to a `$ref`, from the node that carries it up to
the root. -/
def nearestId (document : Json) (path : List String) : Option String :=
  (List.range path.length).reverse.findSome? fun depth =>
    (document.at? (path.take depth)).bind absoluteId

def readBase (url : String) : Except ResolveError Url :=
  (Url.read url).mapError (.invalidUrl url)

/-- The URL against which the `$ref` at a path is read. -/
def baseUrl (document : Json) (path : List String) (sourceUrl : Option String)
    (reference : String) : Except ResolveError Url :=
  match document.nearestId path with
  | some id => readBase id
  | none =>
    match sourceUrl with
    | some url => readBase url
    | none => .error (.unresolvableBase reference)

def absoluteUrl (document : Json) (path : List String) (sourceUrl : Option String)
    (reference external : String) : Except ResolveError String :=
  if Url.hasScheme external then .ok external
  else do
    let base ← document.baseUrl path sourceUrl reference
    let url ← (base.join external).mapError (.invalidUrl external)
    return url.text

def splitFragment (reference : String) : String × Option String :=
  let before := reference.toList.takeWhile (· != '#')
  (String.ofList before,
    match reference.toList.drop before.length with
    | _ :: after => some (String.ofList after)
    | [] => none)

def externalReference? (document : Json) (sourceUrl : Option String) (path : List String)
    (reference : String) : Except ResolveError ExternalReference := do
  let (external, fragment) := splitFragment reference
  let url ← document.absoluteUrl path sourceUrl reference external
  if Url.isFetchable url then
    return { url, fragment := fragment.filter (· != ""), path }
  else throw (.unsupported reference .notFetchable)

/-- Every reference to another document, in document order. -/
def externalReferences (document : Json) (sourceUrl : Option String) :
    Except ResolveError (List ExternalReference) :=
  ((document.leaves {}).filterMap fun leaf =>
      (Leaf.outward? leaf).map fun reference => (leaf.path, reference)).mapM
    fun (path, reference) => document.externalReference? sourceUrl path reference

end Json
end Rulebook
