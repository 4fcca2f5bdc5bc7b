/-!
The identifiers of schemas: generic URIs without fragment, and how a reference
is read against the identifier of the schema that it stands in.
-/

namespace Rulebook

/-- A URI or a relative reference, without its fragment. -/
structure Identifier where
  scheme : Option String := none
  authority : Option String := none
  path : String := ""
  query : Option String := none
deriving DecidableEq

/-- Where a text stops being a reference, in bytes. -/
inductive IdentifierFault where
  | unexpected (index : Nat)
  | badEscape (index : Nat)
deriving DecidableEq

def IdentifierFault.message : IdentifierFault → String
  | .unexpected index => "unexpected character at index " ++ toString index
  | .badEscape index => "invalid percent-encoded octet at index " ++ toString index

namespace Identifier

def inPath (c : Char) : Bool :=
  c.isAlphanum || "-._~!$&'()*+,;=:@/".contains c

def isHex (c : Char) : Bool :=
  c.isDigit || ('a' ≤ c && c ≤ 'f') || ('A' ≤ c && c ≤ 'F')

/-- The first place where a text breaks off; a fragment begins at most once. -/
def faultFrom (index : Nat) (inFragment : Bool) : List Char → Option IdentifierFault
  | [] => none
  | '%' :: a :: b :: rest =>
    if isHex a && isHex b then faultFrom (index + 3) inFragment rest
    else some (.badEscape index)
  | '%' :: _ => some (.badEscape index)
  | c :: rest =>
    if inPath c || c == '?' then faultFrom (index + 1) inFragment rest
    else if c = '#' ∧ !inFragment then faultFrom (index + 1) true rest
    else some (.unexpected index)

def fault? (s : String) : Option IdentifierFault := faultFrom 0 false s.toList

def splitScheme (s : List Char) : Option (String × List Char) :=
  let name := s.takeWhile fun c => c.isAlphanum || c == '+' || c == '-' || c == '.'
  match name, s.drop name.length with
  | first :: _, ':' :: rest =>
    if first.isAlpha then some (String.ofList (name.map Char.toLower), rest) else none
  | _, _ => none

def ofString (s : String) : Identifier :=
  let (scheme, rest) := match splitScheme s.toList with
    | some (scheme, rest) => (some scheme, rest)
    | none => (none, s.toList)
  let beforeQuery := rest.takeWhile (· != '?')
  let query := match rest.drop beforeQuery.length with
    | _ :: query => some (String.ofList query)
    | [] => none
  match beforeQuery with
  | '/' :: '/' :: rest =>
    let authority := rest.takeWhile (· != '/')
    { scheme
      authority := some (String.ofList (authority.map Char.toLower))
      path := String.ofList (rest.drop authority.length)
      query }
  | path => { scheme, path := String.ofList path, query }

def toString (id : Identifier) : String :=
  id.scheme.elim "" (· ++ ":") ++ id.authority.elim "" ("//" ++ ·) ++ id.path ++
    id.query.elim "" ("?" ++ ·)

def segments : List Char → List (List Char)
  | [] => [[]]
  | c :: rest =>
    match segments rest with
    | part :: parts => if c = '/' then [] :: part :: parts else (c :: part) :: parts
    | [] => []

/-- Take steps up and drop steps in place; `done` holds the segments before, in
reverse. A path that ends in such a step ends in a slash. -/
def dropDots (done : List (List Char)) : List (List Char) → List (List Char)
  | [] => done.reverse
  | [['.']] => ([] :: done).reverse
  | [['.', '.']] => ([] :: done.drop 1).reverse
  | ['.'] :: rest => dropDots done rest
  | ['.', '.'] :: rest => dropDots (done.drop 1) rest
  | s :: rest => dropDots (s :: done) rest

def normalPath (path : String) : String :=
  match path.toList with
  | '/' :: rest => String.ofList ('/' :: ['/'].intercalate (dropDots [] (segments rest)))
  | chars => String.ofList chars

def mergePaths (base : Identifier) (path : String) : String :=
  if base.authority.isSome && base.path.isEmpty then "/" ++ path
  else
    let chars := base.path.toList
    let directory := (chars.reverse.dropWhile (· != '/')).reverse
    String.ofList directory ++ path

def resolve (base reference : Identifier) : Identifier :=
  if reference.scheme.isSome then { reference with path := normalPath reference.path }
  else if reference.authority.isSome then
    { reference with scheme := base.scheme, path := normalPath reference.path }
  else if reference.path.isEmpty then
    { base with query := reference.query.or base.query }
  else
    let path := match reference.path.toList with
      | '/' :: _ => reference.path
      | _ => mergePaths base reference.path
    { base with path := normalPath path, query := reference.query }

def anonymous : String := "json-schema:///"

/-- Cut a reference at its last hash sign, or at its end. -/
def splitFragment (s : String) : String × String :=
  let chars := s.toList
  let fragment := (chars.reverse.takeWhile (· != '#')).reverse
  if fragment.length = chars.length then (s, "")
  else (String.ofList (chars.take (chars.length - fragment.length - 1)), String.ofList fragment)

def join (base reference : String) : String :=
  (resolve (ofString base) (ofString reference)).toString

end Identifier
end Rulebook
