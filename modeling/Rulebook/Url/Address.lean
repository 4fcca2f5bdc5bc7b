import Rulebook.Url.Basic

/-!
Numeric hosts. An IPv4 address may have fewer than four parts, each decimal,
octal or hexadecimal, of which the last fills the bytes that remain. An IPv6
address is in brackets and may leave out one run of zeros.
-/

namespace Rulebook
namespace Url

def digitIn (base : Nat) (c : Char) : Option Nat :=
  (Percent.hexValue c).filter (· < base)

def numeral (base : Nat) (digits : List Char) : Option Nat :=
  digits.foldlM (fun acc c => (digitIn base c).map (acc * base + ·)) 0

def ipv4Number (s : List Char) : Option Nat :=
  match s with
  | [] => none
  | '0' :: 'x' :: rest | '0' :: 'X' :: rest => numeral 16 rest
  | '0' :: c :: rest => numeral 8 (c :: rest)
  | digits => numeral 10 digits

/-- The parts between points, without an empty last one. -/
def ipv4Parts (host : String) : List (List Char) :=
  let parts := (host.splitOn ".").map String.toList
  if parts.length > 1 ∧ parts.getLast? = some [] then parts.dropLast else parts

/-- Whether the last part of a domain is a number, so that all of it must be an
IPv4 address. -/
def endsInNumber (host : String) : Bool :=
  match (ipv4Parts host).getLast? with
  | some part => !part.isEmpty && (part.all Char.isDigit || (ipv4Number part).isSome)
  | none => false

def readIpv4 (host : String) : Except UrlFault Nat := do
  let parts := ipv4Parts host
  if parts.length > 4 then throw .invalidIpv4
  let some numbers := parts.mapM ipv4Number | throw .invalidIpv4
  let some last := numbers.getLast? | throw .invalidIpv4
  let leading := numbers.dropLast
  if last ≥ 2 ^ (8 * (4 - leading.length)) then throw .invalidIpv4
  if leading.any (· > 255) then throw .invalidIpv4
  return leading.zipIdx.foldl (fun total (n, i) => total + n * 2 ^ (8 * (3 - i))) last

/-- The last four bytes of an IPv6 address in decimal, as two pieces. -/
def ipv4Tail (s : List Char) : Option (List Nat) := do
  let parts := (String.ofList s).splitOn "."
  if parts.length ≠ 4 then none
  let bytes ← parts.mapM fun part =>
    let digits := part.toList
    if digits.isEmpty || (digits.length > 1 && digits.head? = some '0') then none
    else (numeral 10 digits).filter (· < 256)
  match bytes with
  | [a, b, c, d] => some [a * 256 + b, c * 256 + d]
  | _ => none

def ipv6Piece (s : List Char) : Option Nat :=
  if s.isEmpty || s.length > 4 then none else numeral 16 s

/-- Pieces between colons, of which the last may be an IPv4 address. -/
def ipv6Pieces : List (List Char) → Option (List Nat)
  | [] => some []
  | [last] => if last.contains '.' then ipv4Tail last else (ipv6Piece last).map ([·])
  | piece :: rest => do return (← ipv6Piece piece) :: (← ipv6Pieces rest)

def colonList (s : String) : List (List Char) :=
  if s = "" then [] else (s.splitOn ":").map String.toList

def readIpv6 (s : String) : Except UrlFault (List Nat) :=
  let result : Option (List Nat) :=
    match s.splitOn "::" with
    | [whole] => (ipv6Pieces (colonList whole)).filter (·.length = 8)
    | [before, after] => do
      let front ← (colonList before).mapM ipv6Piece
      let back ← ipv6Pieces (colonList after)
      if front.length + back.length ≤ 7 then
        some (front ++ List.replicate (8 - front.length - back.length) 0 ++ back)
      else none
    | _ => none
  result.elim (throw .invalidIpv6) pure

end Url
end Rulebook
