import Rulebook.Number.Power
import Rulebook.Text.Percent

/-!
URLs by their parts, and their text. A special scheme has a host and a path of
segments; any other one may have an opaque path, to which nothing can be
joined.
-/

namespace Rulebook

inductive UrlFault where
  | emptyHost | invalidDomain | invalidPort | invalidIpv4 | invalidIpv6
  | invalidHostCharacter | noBase | opaqueBase
deriving DecidableEq

def UrlFault.message : UrlFault → String
  | .emptyHost => "empty host"
  | .invalidDomain => "invalid international domain name"
  | .invalidPort => "invalid port number"
  | .invalidIpv4 => "invalid IPv4 address"
  | .invalidIpv6 => "invalid IPv6 address"
  | .invalidHostCharacter => "invalid domain character"
  | .noBase => "relative URL without a base"
  | .opaqueBase => "relative URL with a cannot-be-a-base base"

namespace Url

inductive Host where
  | domain (name : String)
  | ipv4 (address : Nat)
  | ipv6 (pieces : List Nat)
deriving DecidableEq

structure Authority where
  username : String := ""
  password : String := ""
  /-- No host is written as an empty one. -/
  host : Option Host := none
  port : Option Nat := none
deriving DecidableEq

inductive Path where
  | plain (text : String)
  | segments (segments : List String)
deriving DecidableEq

inductive SchemeKind where
  | file | special | other
deriving DecidableEq

def schemeKind (scheme : String) : SchemeKind :=
  if scheme = "file" then .file
  else if ["http", "https", "ws", "wss", "ftp"].contains scheme then .special
  else .other

/-- The port that a scheme implies, which is never written. -/
def defaultPort (scheme : String) : Option Nat :=
  match scheme with
  | "http" | "ws" => some 80
  | "https" | "wss" => some 443
  | "ftp" => some 21
  | _ => none

end Url

/-- A URL without its fragment. -/
structure Url where
  scheme : String
  authority : Option Url.Authority
  path : Url.Path
  query : Option String
deriving DecidableEq

namespace Url

def kind (url : Url) : SchemeKind := schemeKind url.scheme

def hasOpaquePath (url : Url) : Bool :=
  match url.path with
  | .plain _ => true
  | .segments _ => false

/-- The longest run of zero pieces, if it has at least two: start and length. -/
def longestZeroRun (pieces : List Nat) : Option (Nat × Nat) :=
  let runAt (i : Nat) : Nat := ((pieces.drop i).takeWhile (· == 0)).length
  (List.range pieces.length).foldl (fun best i =>
    let n := runAt i
    match best with
    | some (_, m) => if m < n then some (i, n) else best
    | none => if 2 ≤ n then some (i, n) else none) none

def hexText (n : Nat) : String := String.ofList (Nat.toDigits 16 n)

def ipv6Text (pieces : List Nat) : String :=
  let text (ps : List Nat) : String := ":".intercalate (ps.map hexText)
  match longestZeroRun pieces with
  | some (start, length) => text (pieces.take start) ++ "::" ++ text (pieces.drop (start + length))
  | none => text pieces

def ipv4Text (address : Nat) : String :=
  ".".intercalate ([24, 16, 8, 0].map fun k => toString (address / 2 ^ k % 256))

def Host.text : Host → String
  | .domain name => name
  | .ipv4 address => ipv4Text address
  | .ipv6 pieces => "[" ++ ipv6Text pieces ++ "]"

def Authority.text (a : Authority) : String :=
  let credentials :=
    if a.username = "" ∧ a.password = "" then ""
    else a.username ++ (if a.password = "" then "" else ":" ++ a.password) ++ "@"
  credentials ++ (a.host.elim "" Host.text) ++ (a.port.elim "" fun p => ":" ++ toString p)

def Path.text : Path → String
  | .plain s => s
  | .segments parts => String.join (parts.map ("/" ++ ·))

/-- The text of a URL. A path that begins with two slashes is kept apart from
an authority. -/
def text (url : Url) : String :=
  let before := match url.authority with
    | some a => "//" ++ a.text
    | none => if url.path.text.startsWith "//" then "/." else ""
  url.scheme ++ ":" ++ before ++ url.path.text ++ (url.query.elim "" ("?" ++ ·))

end Url
end Rulebook
