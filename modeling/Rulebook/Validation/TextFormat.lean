import Rulebook.Json.Reader
import Rulebook.Pattern.Named
import Rulebook.Url.Address
import Rulebook.Validation.Draft
import Rulebook.Validation.Identifier

/-!
The formats of texts that a schema may ask for: dates and times, addresses,
identifiers and pointers. Formats that are not listed accept every text.
-/

namespace Rulebook
namespace TextFormat

/-! ### Dates and times -/

def takeNumber (count : Nat) (s : List Char) : Option (Nat × List Char) :=
  let digits := s.take count
  if digits.length = count ∧ digits.all Char.isDigit then
    some (digits.foldl (fun n c => n * 10 + (c.toNat - 48)) 0, s.drop count)
  else none

def skip (expected : Char) : List Char → Option (List Char)
  | c :: rest => if c = expected then some rest else none
  | [] => none

def isLeapYear (year : Nat) : Bool := year % 4 == 0 && (year % 100 != 0 || year % 400 == 0)

def daysIn (year month : Nat) : Nat :=
  if month = 2 then (if isLeapYear year then 29 else 28)
  else if [4, 6, 9, 11].contains month then 30
  else 31

def takeDate (s : List Char) : Option (List Char) := do
  let (year, s) ← takeNumber 4 s
  let (month, s) ← takeNumber 2 (← skip '-' s)
  let (day, s) ← takeNumber 2 (← skip '-' s)
  if 1 ≤ month ∧ month ≤ 12 ∧ 1 ≤ day ∧ day ≤ daysIn year month then some s else none

def isDate (s : List Char) : Bool := takeDate s == some []

/-- The minutes by which local time is ahead, given at the end of a text. -/
def offset? (s : List Char) : Option Int :=
  match s with
  | ['Z'] | ['z'] => some 0
  | sign :: rest => do
    let (hours, rest) ← takeNumber 2 rest
    let (minutes, rest) ← takeNumber 2 (← skip ':' rest)
    if !rest.isEmpty ∨ 23 < hours ∨ 59 < minutes then none
    let total : Int := hours * 60 + minutes
    if sign = '+' then some total else if sign = '-' then some (-total) else none
  | [] => none

def skipFraction (s : List Char) : Option (List Char) :=
  match s with
  | '.' :: rest =>
    match rest.takeWhile Char.isDigit with
    | [] => none
    | _ => some (rest.dropWhile Char.isDigit)
  | s => some s

/-- A time with its offset. A leap second ends a day of universal time. -/
def isTime (s : List Char) : Bool :=
  let minuteOfDay? : Option Bool := do
    let (hour, s) ← takeNumber 2 s
    let (minute, s) ← takeNumber 2 (← skip ':' s)
    let (second, s) ← takeNumber 2 (← skip ':' s)
    let ahead ← offset? (← skipFraction s)
    if 23 < hour ∨ 59 < minute ∨ 60 < second then none
    let universal : Int := hour * 60 + minute - ahead
    return second < 60 || universal % 1440 == 1439
  minuteOfDay?.getD false

def isDateTime (s : List Char) : Bool :=
  match takeDate s with
  | some ('T' :: time) | some ('t' :: time) => isTime time
  | _ => false

/-! ### Hosts and mail -/

def isIpv4 (s : String) : Bool := (Url.ipv4Tail s.toList).isSome

def isIpv6 (s : String) : Bool := (Url.readIpv6 s).toOption.isSome

def isLetterOrNumber (c : Char) : Bool :=
  if c.toNat < 128 then c.isAlphanum
  else
    ((CharSet.property? "alpha").getD []).contains c ||
      ((CharSet.category? "n").getD []).contains c

def isHostname (s : String) : Bool :=
  let letters := s.toList
  !letters.isEmpty && letters.head? != some '-' && letters.getLast? != some '-' &&
    decide (letters.length ≤ 255) &&
    letters.all (fun c => isLetterOrNumber c || c == '-' || c == '.') &&
    (s.splitOn ".").all fun part => decide (part.length ≤ 63)

def isAtomChar (c : Char) : Bool :=
  c.isAlphanum || "!#$%&'*+-/=?^_`\x7b|\x7d~".contains c || 128 ≤ c.toNat

/-- Whether a quoted local part is closed by its last quote only. -/
def isQuotedRest : List Char → Bool
  | ['"'] => true
  | '\\' :: _ :: rest => isQuotedRest rest
  | c :: rest => c != '"' && 32 ≤ c.toNat && isQuotedRest rest
  | [] => false

def isLocalPart (s : String) : Bool :=
  match s.toList with
  | '"' :: rest => isQuotedRest rest
  | _ => decide (s.utf8ByteSize ≤ 64) &&
      (s.splitOn ".").all fun atom => !atom.isEmpty && atom.toList.all isAtomChar

def cutAtLast (c : Char) (s : String) : Option (String × String) :=
  let letters := s.toList
  let after := (letters.reverse.takeWhile (· != c)).reverse
  if after.length = letters.length then none
  else some (String.ofList (letters.take (letters.length - after.length - 1)), String.ofList after)

def isEmail (s : String) : Bool :=
  match cutAtLast '@' s with
  | none => false
  | some (localPart, domain) =>
    isLocalPart localPart &&
      match domain.toList with
      | '[' :: 'I' :: 'P' :: 'v' :: '6' :: ':' :: rest =>
        rest.getLast? == some ']' && isIpv6 (String.ofList rest.dropLast)
      | '[' :: rest => rest.getLast? == some ']' && isIpv4 (String.ofList rest.dropLast)
      | _ => isHostname domain

/-! ### Identifiers and pointers -/

def isReference (s : String) : Bool := (Identifier.fault? s).isNone

def isUri (s : String) : Bool := isReference s && (Identifier.splitScheme s.toList).isSome

def toAsciiLetters (s : String) : String :=
  String.ofList (s.toList.map fun c => if c.toNat < 128 then c else 'a')

def tildesEscape : List Char → Bool
  | [] => true
  | '~' :: c :: rest => (c == '0' || c == '1') && tildesEscape rest
  | ['~'] => false
  | _ :: rest => tildesEscape rest

def isPointer (s : List Char) : Bool := s.isEmpty || (s.head? == some '/' && tildesEscape s)

/-- A number of levels to go up, and a pointer or a hash sign. -/
def isRelativePointer (s : List Char) : Bool :=
  let digits := s.takeWhile Char.isDigit
  let rest := s.dropWhile Char.isDigit
  !digits.isEmpty && (digits.length == 1 || digits.head? != some '0') &&
    (rest == ['#'] || isPointer rest)

def bracesMatch (inside : Bool) : List Char → Bool
  | [] => !inside
  | '\x7b' :: rest => !inside && bracesMatch true rest
  | '\x7d' :: rest => inside && bracesMatch false rest
  | _ :: rest => bracesMatch inside rest

/-- Whether a text has a format; `isRegex` says which texts are expressions. -/
def accepts (isRegex : String → Bool) (draft : Draft) (format s : String) : Bool :=
  let letters := s.toList
  match format with
  | "date" => isDate letters
  | "time" => isTime letters
  | "date-time" => isDateTime letters
  | "email" | "idn-email" => isEmail s
  | "hostname" => isHostname s
  | "idn-hostname" => !draft.since .seven || isHostname s
  | "ipv4" => isIpv4 s
  | "ipv6" => isIpv6 s
  | "uri" => isUri s
  | "uri-reference" => !draft.since .six || isReference s
  | "iri" => !draft.since .seven || isUri (toAsciiLetters s)
  | "iri-reference" => !draft.since .seven || isReference (toAsciiLetters s)
  | "uri-template" => !draft.since .six || bracesMatch false letters
  | "json-pointer" => !draft.since .six || isPointer letters
  | "relative-json-pointer" => !draft.since .seven || isRelativePointer letters
  | "regex" => isRegex s
  | _ => true

/-! ### Encoded contents -/

def isBase64Char (c : Char) : Bool := c.isAlphanum || c == '+' || c == '/'

/-- The bytes of a group of base 64: unused bits are zero. -/
def base64Value (c : Char) : Nat :=
  if 'A' ≤ c ∧ c ≤ 'Z' then c.toNat - 65
  else if 'a' ≤ c ∧ c ≤ 'z' then c.toNat - 71
  else if c.isDigit then c.toNat + 4
  else if c = '+' then 62
  else 63

def base64Bytes : List Char → Option (List UInt8)
  | [] => some []
  | [a, b, '=', '='] =>
    if [a, b].all isBase64Char ∧ base64Value b % 16 = 0 then
      some [UInt8.ofNat (base64Value a * 4 + base64Value b / 16)]
    else none
  | [a, b, c, '='] =>
    if [a, b, c].all isBase64Char ∧ base64Value c % 4 = 0 then
      let n := base64Value a * 1024 + base64Value b * 16 + base64Value c / 4
      some [UInt8.ofNat (n / 256), UInt8.ofNat n]
    else none
  | a :: b :: c :: d :: rest =>
    if [a, b, c, d].all isBase64Char then
      let n := ((base64Value a * 64 + base64Value b) * 64 + base64Value c) * 64 + base64Value d
      (base64Bytes rest).map fun more =>
        UInt8.ofNat (n / 65536) :: UInt8.ofNat (n / 256) :: UInt8.ofNat n :: more
    else none
  | _ => none

end TextFormat
end Rulebook
