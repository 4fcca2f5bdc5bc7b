import Rulebook.Url.Address
import Rulebook.Url.Domain

/-!
Reading a URL, on its own or relative to a base. Blanks and control characters
around the text are dropped, and tabs and line ends anywhere in it. In special
schemes a backslash separates like a slash.
-/

namespace Rulebook
namespace Url

def isControl (c : Char) : Bool := c.toNat < 32 || 127 ≤ c.toNat

def fragmentNeeds (c : Char) : Bool := isControl c || " \"<>`".contains c

def pathNeeds (c : Char) : Bool := fragmentNeeds c || "#?\x7b\x7d".contains c

def credentialNeeds (c : Char) : Bool := pathNeeds c || "/:;=@[\\]^|".contains c

def queryNeeds (kind : SchemeKind) (c : Char) : Bool :=
  isControl c || " \"#<>".contains c || (kind != .other && c == '\'')

def encoded (needed : Char → Bool) (s : List Char) : String :=
  String.ofList (Percent.encode needed s)

/-- The text as it is read: trimmed, and without tabs and line ends. -/
def cleaned (s : String) : List Char :=
  let outer (c : Char) : Bool := c.toNat ≤ 32
  let trimmed := ((s.toList.dropWhile outer).reverse.dropWhile outer).reverse
  trimmed.filter fun c => !(c == '\t' || c == '\n' || c == '\r')

def isSlash (kind : SchemeKind) (c : Char) : Bool := c == '/' || (kind != .other && c == '\\')

def endsAuthority (kind : SchemeKind) (c : Char) : Bool := isSlash kind c || c == '?' || c == '#'

def splitScheme (s : List Char) : Option (String × List Char) :=
  match s with
  | c :: _ =>
    let isLetter (c : Char) : Bool := c.isAlpha
    let name := s.takeWhile fun c => c.isAlphanum || c == '+' || c == '-' || c == '.'
    match s.drop name.length with
    | ':' :: rest => if isLetter c then some (String.ofList (name.map Char.toLower), rest) else none
    | _ => none
  | [] => none

/-! ### Authority -/

/-- The credentials before the last at sign, and the host and port after it. -/
def splitCredentials (s : List Char) : Option (List Char) × List Char :=
  if s.contains '@' then
    let host := (s.reverse.takeWhile (· != '@')).reverse
    (some (s.take (s.length - host.length - 1)), host)
  else (none, s)

/-- The host and what follows it; a colon inside brackets belongs to the host. -/
def splitHost (bracketed : Bool) : List Char → List Char × List Char
  | [] => ([], [])
  | c :: rest =>
    if c = ':' ∧ !bracketed then ([], c :: rest)
    else
      let bracketed := if c = '[' then true else if c = ']' then false else bracketed
      let (host, after) := splitHost bracketed rest
      (c :: host, after)

def forbiddenInHost (c : Char) : Bool := c.toNat = 0 || " #/:<>?@[\\]^|".contains c

def bracketedHost (s : List Char) : Except UrlFault Host :=
  if s.getLast? = some ']' then
    Host.ipv6 <$> readIpv6 (String.ofList (s.drop 1).dropLast)
  else .error .invalidIpv6

/-- The host of a special scheme: an address, or a domain in its ASCII form. -/
def readHost (s : List Char) : Except UrlFault Host :=
  if s.head? = some '[' then bracketedHost s
  else do
    let domain ← Domain.toAscii (Percent.decodeBytes s)
    if domain = "" then throw .emptyHost
    if endsInNumber domain then return .ipv4 (← readIpv4 domain)
    return .domain domain

def readPlainHost (s : List Char) : Except UrlFault (Option Host) :=
  if s.head? = some '[' then some <$> bracketedHost s
  else if s.any forbiddenInHost then .error .invalidHostCharacter
  else .ok (if s.isEmpty then none else some (.domain (encoded isControl s)))

/-- A port is left out when it is empty or the default one. -/
def readPort (scheme : String) (s : List Char) : Except UrlFault (Option Nat) :=
  if s.any (!Char.isDigit ·) then .error .invalidPort
  else
    let port := s.foldl (fun n c => n * 10 + (c.toNat - 48)) 0
    if port > 65535 then .error .invalidPort
    else .ok (if s.isEmpty ∨ defaultPort scheme = some port then none else some port)

def readCredentials (s : List Char) : String × String :=
  let name := s.takeWhile (· != ':')
  (encoded credentialNeeds name, encoded credentialNeeds ((s.drop name.length).drop 1))

/-- The authority between two slashes and the path; `more` tells whether
anything follows it. -/
def readAuthority (scheme : String) (s : List Char) (more : Bool) : Except UrlFault Authority := do
  let kind := schemeKind scheme
  let (credentials, hostAndPort) := splitCredentials s
  if credentials = some [] ∧ hostAndPort.isEmpty ∧ more then throw .emptyHost
  let (username, password) := readCredentials (credentials.getD [])
  let (host, after) := splitHost false hostAndPort
  let host ← if kind = .other then readPlainHost host
    else if host.isEmpty then throw .emptyHost
    else some <$> readHost host
  if host.isNone ∧ !after.isEmpty then throw .emptyHost
  let port ← readPort scheme (after.drop 1)
  if host.isNone ∧ (username ≠ "" ∨ password ≠ "") then throw .emptyHost
  return { username, password, host, port }

/-! ### Path and query -/

def isSingleDot (s : String) : Bool := s == "." || s.toLower == "%2e"

def isDoubleDot (s : String) : Bool := ["..", "%2e.", ".%2e", "%2e%2e"].contains s.toLower

/-- Add the segments of a path to those before it. Two dots take back a
segment, and dots at the end leave an empty one. -/
def addSegments (segments : List String) : List String → List String
  | [] => segments
  | [last] =>
    if isDoubleDot last then segments.dropLast ++ [""]
    else if isSingleDot last then segments ++ [""]
    else segments ++ [last]
  | s :: rest =>
    if isDoubleDot s then addSegments segments.dropLast rest
    else if isSingleDot s then addSegments segments rest
    else addSegments (segments ++ [s]) rest

def splitAtEach (cut : Char → Bool) : List Char → List (List Char)
  | [] => [[]]
  | c :: rest =>
    match splitAtEach cut rest with
    | part :: parts => if cut c then [] :: part :: parts else (c :: part) :: parts
    | [] => [[c]]

def readSegments (kind : SchemeKind) (s : List Char) : List String :=
  (splitAtEach (isSlash kind) s).map (encoded pathNeeds)

def splitQuery (s : List Char) : List Char × Option (List Char) :=
  let s := s.takeWhile (· != '#')
  let path := s.takeWhile (· != '?')
  match s.drop path.length with
  | _ :: query => (path, some query)
  | [] => (path, none)

def withPath (scheme : String) (authority : Option Authority) (base : List String)
    (s : List Char) : Url :=
  let kind := schemeKind scheme
  let (path, query) := splitQuery s
  let path := match path with
    | c :: rest => if isSlash kind c ∧ base.isEmpty then rest else path
    | [] => []
  { scheme, authority,
    path := .segments (addSegments base (readSegments kind path)),
    query := query.map fun q => encoded (queryNeeds kind) q }

def afterSlashes (scheme : String) (s : List Char) : Except UrlFault Url := do
  let kind := schemeKind scheme
  let authority := s.takeWhile (!endsAuthority kind ·)
  let rest := s.drop authority.length
  let authority ← readAuthority scheme authority !rest.isEmpty
  let (path, query) := splitQuery rest
  if kind = .other ∧ path.isEmpty then
    return { scheme, authority := some authority, path := .segments [],
             query := query.map fun q => encoded (queryNeeds kind) q }
  return withPath scheme (some authority) [] rest

/-- The host of a file URL; none for an empty one and for the local host. -/
def readFileHost (s : List Char) : Except UrlFault (Option Host) :=
  if s.isEmpty then .ok none
  else do
    let host ← readHost s
    return if host = .domain "localhost" then none else some host

/-- Read a file URL after its scheme, relative to a base when it has no host. -/
def readFile (base : Option Url) (s : List Char) : Except UrlFault Url :=
  match s with
  | a :: b :: rest =>
    if isSlash .file a ∧ isSlash .file b then do
      let host := rest.takeWhile (!endsAuthority .file ·)
      let authority ← readFileHost host
      return withPath "file" (some { host := authority }) [] (rest.drop host.length)
    else .ok (relative (a :: b :: rest))
  | s => .ok (relative s)
where
  relative (s : List Char) : Url :=
    let segments := match base.map Url.path with
      | some (.segments parts) => parts
      | _ => []
    let fresh := s.head?.any (isSlash .file)
    let start := if fresh then [] else segments.dropLast
    withPath "file" (base.bind Url.authority) start s

def readOther (scheme : String) (s : List Char) : Except UrlFault Url :=
  match s with
  | '/' :: '/' :: rest => afterSlashes scheme rest
  | '/' :: _ => .ok (withPath scheme none [] s)
  | _ =>
    let (path, query) := splitQuery s
    .ok { scheme, authority := none, path := .plain (encoded isControl path),
          query := query.map fun q => encoded (queryNeeds .other) q }

def readRelative (base : Url) (s : List Char) : Except UrlFault Url :=
  let kind := base.kind
  let segments := match base.path with
    | .segments parts => parts
    | .plain _ => []
  match s with
  | [] => .ok base
  | '?' :: _ => .ok { base with query := (splitQuery s).2.map fun q => encoded (queryNeeds kind) q }
  | '#' :: _ => .ok base
  | c :: rest =>
    if isSlash kind c then
      if rest.head?.any (isSlash kind) then
        if c = '/' ∧ rest.head? = some '/' then afterSlashes base.scheme (rest.drop 1)
        else afterSlashes base.scheme (s.dropWhile (isSlash kind))
      else .ok (withPath base.scheme base.authority [] s)
    else
      let (path, query) := splitQuery s
      .ok { base with
            path := .segments (addSegments segments.dropLast (readSegments kind path)),
            query := query.map fun q => encoded (queryNeeds kind) q }

def readWith (base : Option Url) (s : String) : Except UrlFault Url :=
  let s := cleaned s
  match splitScheme s with
  | some (scheme, rest) =>
    match schemeKind scheme with
    | .file => readFile (base.filter (·.scheme = "file")) rest
    | .special =>
      let slashes := rest.takeWhile (isSlash .special)
      match base.filter fun b => b.scheme = scheme ∧ slashes.length < 2 with
      | some base => readRelative base rest
      | none => afterSlashes scheme (rest.drop slashes.length)
    | .other => readOther scheme rest
  | none =>
    match base with
    | none => .error .noBase
    | some base =>
      if s.head? = some '#' then .ok base
      else if base.hasOpaquePath then .error .opaqueBase
      else if base.kind = .file then readFile (some base) s
      else readRelative base s

def read (s : String) : Except UrlFault Url := readWith none s

def join (base : Url) (s : String) : Except UrlFault Url := readWith (some base) s

end Url
end Rulebook
