import Rulebook.Json.Members

/-!
Reading JSON text. A failure names its cause and the line and byte column at
which reading stopped. Nesting is limited to 127 arrays and objects, and a key
that occurs twice keeps its first position and its last value.
-/

namespace Rulebook
namespace Json

inductive ReadFault where
  | endInList | endInObject | endInString | endInValue
  | expectedColon | expectedListSeparator | expectedObjectSeparator
  | expectedWord | expectedValue | invalidEscape | invalidNumber | numberOutOfRange
  | controlCharacter | keyNotString | loneSurrogate | trailingComma | trailingText
  | unfinishedSurrogate | tooDeep
deriving DecidableEq

def ReadFault.message : ReadFault → String
  | .endInList => "EOF while parsing a list"
  | .endInObject => "EOF while parsing an object"
  | .endInString => "EOF while parsing a string"
  | .endInValue => "EOF while parsing a value"
  | .expectedColon => "expected `:`"
  | .expectedListSeparator => "expected `,` or `]`"
  | .expectedObjectSeparator => "expected `,` or `\x7d`"
  | .expectedWord => "expected ident"
  | .expectedValue => "expected value"
  | .invalidEscape => "invalid escape"
  | .invalidNumber => "invalid number"
  | .numberOutOfRange => "number out of range"
  | .controlCharacter =>
    "control character (\\u0000-\\u001F) found while parsing a string"
  | .keyNotString => "key must be a string"
  | .loneSurrogate => "lone leading surrogate in hex escape"
  | .trailingComma => "trailing comma"
  | .trailingText => "trailing characters"
  | .unfinishedSurrogate => "unexpected end of hex escape"
  | .tooDeep => "recursion limit exceeded"

structure ReadError where
  fault : ReadFault
  line : Nat
  column : Nat
deriving DecidableEq

def ReadError.message (e : ReadError) : String :=
  e.fault.message ++ " at line " ++ toString e.line ++ " column " ++ toString e.column

abbrev Input := List UInt8

/-- A failure inside the text, with the number of bytes that were left. -/
structure Stop where
  fault : ReadFault
  left : Nat

abbrev Step (α : Type) := Input → Except Stop (α × Input)

namespace Reader

def stop {α : Type} (fault : ReadFault) (rest : Input) : Except Stop α :=
  .error ⟨fault, rest.length⟩

/-- Fail at the next byte, which counts as reached. -/
def stopAt {α : Type} (fault : ReadFault) (rest : Input) : Except Stop α :=
  .error ⟨fault, rest.length - 1⟩

def isBlank (b : UInt8) : Bool := b == 32 || b == 10 || b == 9 || b == 13

def skipBlank (rest : Input) : Input := rest.dropWhile isBlank

def isDigit (b : UInt8) : Bool := 48 ≤ b && b ≤ 57

def digitValue (b : UInt8) : Nat := b.toNat - 48

def word (value : Json) : List UInt8 → Step Json
  | [], rest => .ok (value, rest)
  | _ :: _, [] => stop .endInValue []
  | expected :: more, b :: rest =>
    if b = expected then word value more rest else stop .expectedWord rest

/-- The largest significand that is kept; further digits only count. -/
def maxSignificand : Nat := 2 ^ 64 - 1

def maxExponent : Int := 2 ^ 31 - 1

def clampExponent (e : Int) : Int := max (-2 ^ 31) (min maxExponent e)

/-- Digits before the point: those that fit a 64-bit significand, and the
number of those that follow. -/
def wholeDigits (digits : List Nat) : Nat × Nat :=
  digits.foldl (fun (s, dropped) d =>
    if dropped = 0 ∧ s * 10 + d ≤ maxSignificand then (s * 10 + d, 0) else (s, dropped + 1)) (0, 0)

/-- Digits after the point: the first one that does not fit ends the
significand, the others are skipped. -/
def fractionDigits (significand : Nat) (exponent : Int) : List Nat → Nat × Int
  | [] => (significand, exponent)
  | d :: rest =>
    if significand * 10 + d ≤ maxSignificand then
      fractionDigits (significand * 10 + d) (exponent - 1) rest
    else (significand, exponent)

def powerOfTen (k : Nat) : Binary64 := (Binary64.ofDecimal false 1 k).getD default

/-- The double for `significand * 10 ^ exponent`: the significand and the power
are doubles each, and their product or quotient is rounded once more. A power
below the smallest is split off first. -/
def scaleSignificand (significand : Nat) (exponent : Int) : Option Binary64 := do
  let s ← Binary64.ofInt? significand
  if s.isZero then return s
  if exponent > 308 then none
  else if exponent ≥ 0 then s.mul (powerOfTen exponent.toNat)
  else if exponent ≥ -308 then s.div (powerOfTen (-exponent).toNat)
  else
    let s ← s.div (powerOfTen 308)
    if exponent + 308 ≥ -308 then s.div (powerOfTen (-(exponent + 308)).toNat)
    else return Binary64.zero false

def double (positive : Bool) (significand : Nat) (exponent : Int) (rest : Input) :
    Except Stop (Json × Input) :=
  (scaleSignificand significand exponent).elim (stop .numberOutOfRange rest) fun x =>
    .ok (.number (.double (if positive then x else x.neg)), rest)

/-- The digits of an exponent, up to the first that makes it too large. -/
def exponentDigits (e : Int) : Input → Int × Bool × Input
  | [] => (e, false, [])
  | b :: rest =>
    if isDigit b then
      if e * 10 + digitValue b > maxExponent then (e, true, rest)
      else exponentDigits (e * 10 + digitValue b) rest
    else (e, false, b :: rest)

def exponent (positive : Bool) (significand : Nat) (start : Int) (rest : Input) :
    Except Stop (Json × Input) :=
  let (positiveExponent, rest) := match rest with
    | 43 :: rest => (true, rest)
    | 45 :: rest => (false, rest)
    | rest => (true, rest)
  match rest with
  | [] => stop .endInValue []
  | b :: rest =>
    if isDigit b then
      let (e, tooLarge, rest) := exponentDigits (digitValue b) rest
      if tooLarge then
        if significand ≠ 0 ∧ positiveExponent then stop .numberOutOfRange rest
        else .ok (.number (.double (Binary64.zero !positive)), rest.dropWhile isDigit)
      else
        double positive significand
          (clampExponent (if positiveExponent then start + e else start - e)) rest
    else stop .invalidNumber rest

def fraction (positive : Bool) (significand : Nat) (start : Int) (rest : Input) :
    Except Stop (Json × Input) :=
  let digits := rest.takeWhile isDigit
  let after := rest.dropWhile isDigit
  if digits.isEmpty then
    stopAt (if rest.isEmpty then .endInValue else .invalidNumber) rest
  else
    let (significand, e) := fractionDigits significand start (digits.map digitValue)
    match after with
    | 101 :: rest => exponent positive significand e rest
    | 69 :: rest => exponent positive significand e rest
    | rest => double positive significand e rest

/-- An integer literal: 64 bits exactly, a double otherwise, and so is minus
zero. -/
def whole (positive : Bool) (significand : Nat) (rest : Input) : Except Stop (Json × Input) :=
  let n : Int := if positive then significand else -significand
  if h : fitsWord n ∧ (positive ∨ significand ≠ 0) then .ok (.number (.integer n h.1), rest)
  else double positive significand 0 rest

def number (positive : Bool) (rest : Input) : Except Stop (Json × Input) :=
  match rest with
  | [] => stop .endInValue []
  | b :: more =>
    if !isDigit b then stop .invalidNumber more
    else if b = 48 ∧ (more.head?.any isDigit) then stopAt .invalidNumber more
    else
      let (significand, dropped) := wholeDigits ((rest.takeWhile isDigit).map digitValue)
      match rest.dropWhile isDigit with
      | 46 :: rest => fraction positive significand dropped rest
      | 101 :: rest => exponent positive significand dropped rest
      | 69 :: rest => exponent positive significand dropped rest
      | rest =>
        if dropped = 0 then whole positive significand rest
        else double positive significand dropped rest

def hexValue (b : UInt8) : Option Nat :=
  if isDigit b then some (digitValue b)
  else if 97 ≤ b ∧ b ≤ 102 then some (b.toNat - 87)
  else if 65 ≤ b ∧ b ≤ 70 then some (b.toNat - 55)
  else none

def hexEscape : Step Nat
  | a :: b :: c :: d :: rest =>
    match hexValue a, hexValue b, hexValue c, hexValue d with
    | some a, some b, some c, some d => .ok (((a * 16 + b) * 16 + c) * 16 + d, rest)
    | _, _, _, _ => stop .invalidEscape rest
  | _ => stop .endInString []

def isLeading (n : Nat) : Bool := 0xD800 ≤ n && n ≤ 0xDBFF

def isTrailing (n : Nat) : Bool := 0xDC00 ≤ n && n ≤ 0xDFFF

/-- What follows a backslash and a `u`: one unit, or a pair of surrogates. -/
def unicodeEscape : Step Char := fun rest => do
  let (n, rest) ← hexEscape rest
  if isTrailing n then stop .loneSurrogate rest
  else if !isLeading n then return (Char.ofNat n, rest)
  else
    match rest with
    | [] => stop .endInString []
    | 92 :: [] => stop .endInString []
    | 92 :: 117 :: rest =>
      let (m, rest) ← hexEscape rest
      if isTrailing m then
        return (Char.ofNat ((n - 0xD800) * 1024 + (m - 0xDC00) + 0x10000), rest)
      else stop .loneSurrogate rest
    | 92 :: _ :: rest => stop .unfinishedSurrogate rest
    | _ :: rest => stop .unfinishedSurrogate rest

def escapeSequence : Step Char
  | [] => stop .endInString []
  | b :: rest =>
    if b = 34 ∨ b = 92 ∨ b = 47 then .ok (Char.ofNat b.toNat, rest)
    else if b = 98 then .ok (Char.ofNat 8, rest)
    else if b = 102 then .ok (Char.ofNat 12, rest)
    else if b = 110 then .ok ('\n', rest)
    else if b = 114 then .ok ('\r', rest)
    else if b = 116 then .ok ('\t', rest)
    else if b = 117 then unicodeEscape rest
    else stop .invalidEscape rest

/-- The bytes of a text up to its closing quote. Every round reads a byte, so
as many rounds as there are bytes are enough. -/
def textBytes : Nat → ByteArray → Step ByteArray
  | 0, _, rest => stop .endInString rest
  | _ + 1, _, [] => stop .endInString []
  | rounds + 1, acc, b :: rest =>
    if b = 34 then .ok (acc, rest)
    else if b = 92 then do
      let (c, rest) ← escapeSequence rest
      textBytes rounds (acc ++ (String.singleton c).toUTF8) rest
    else if b < 32 then stop .controlCharacter rest
    else textBytes rounds (acc.push b) rest

def text : Step String := fun rest => do
  let (bytes, rest) ← textBytes (rest.length + 1) ByteArray.empty rest
  return ((String.fromUTF8? bytes).getD "", rest)

def items (value : Step Json) : Nat → List Json → Step (List Json)
  | 0, _, rest => stop .endInList rest
  | rounds + 1, acc, rest =>
    match skipBlank rest with
    | [] => stop .endInList []
    | b :: more =>
      if b = 93 then .ok (acc.reverse, more)
      else if acc.isEmpty then do
        let (v, rest) ← value (b :: more)
        items value rounds (v :: acc) rest
      else if b = 44 then
        match skipBlank more with
        | [] => stop .endInValue []
        | c :: rest =>
          if c = 93 then stop .trailingComma rest
          else do
            let (v, rest) ← value (c :: rest)
            items value rounds (v :: acc) rest
      else stop .expectedListSeparator more

def member (value : Step Json) : Step (String × Json) := fun rest => do
  let (key, rest) ← text rest
  match skipBlank rest with
  | [] => stop .endInObject []
  | b :: rest =>
    if b = 58 then
      let (v, rest) ← value rest
      return ((key, v), rest)
    else stop .expectedColon rest

def members (value : Step Json) : Nat → Bool → Members → Step Members
  | 0, _, _, rest => stop .endInObject rest
  | rounds + 1, first, acc, rest =>
    match skipBlank rest with
    | [] => stop .endInObject []
    | b :: more =>
      if b = 125 then .ok (acc, more)
      else if first then
        if b = 34 then do
          let ((k, v), rest) ← member value more
          members value rounds false (acc.insert k v) rest
        else stop .keyNotString more
      else if b = 44 then
        match skipBlank more with
        | [] => stop .endInValue []
        | c :: rest =>
          if c = 34 then do
            let ((k, v), rest) ← member value rest
            members value rounds false (acc.insert k v) rest
          else if c = 125 then stop .trailingComma rest
          else stop .keyNotString rest
      else stop .expectedObjectSeparator more

/-- Read a value inside which at most `depth` further arrays and objects nest. -/
def value (depth : Nat) (rest : Input) : Except Stop (Json × Input) :=
  match skipBlank rest with
  | [] => stop .endInValue []
  | b :: more =>
    if b = 110 then word .null [117, 108, 108] more
    else if b = 116 then word (.bool true) [114, 117, 101] more
    else if b = 102 then word (.bool false) [97, 108, 115, 101] more
    else if b = 45 then number false more
    else if isDigit b then number true (b :: more)
    else if b = 34 then do
      let (s, rest) ← text more
      return (.string s, rest)
    else if b = 91 then
      match depth with
      | 0 => stop .tooDeep more
      | depth + 1 => do
        let (vs, rest) ← items (value depth) (more.length + 1) [] more
        return (.array vs, rest)
    else if b = 123 then
      match depth with
      | 0 => stop .tooDeep more
      | depth + 1 => do
        let (ms, rest) ← members (value depth) (more.length + 1) true [] more
        return (.object ms, rest)
    else stop .expectedValue more

def maxDepth : Nat := 127

def document (bytes : Input) : Except Stop Json := do
  let (v, rest) ← value maxDepth bytes
  match skipBlank rest with
  | [] => return v
  | _ :: more => stop .trailingText more

def position (bytes : Input) (count : Nat) : Nat × Nat :=
  let before := bytes.take count
  (before.count 10 + 1, (before.reverse.takeWhile (· != 10)).length)

end Reader

/-- Read a text as one JSON value. -/
def read (s : String) : Except ReadError Json :=
  let bytes := s.toUTF8.toList
  match Reader.document bytes with
  | .ok v => .ok v
  | .error e =>
    let (line, column) := Reader.position bytes (bytes.length - e.left)
    .error ⟨e.fault, line, column⟩

end Json
end Rulebook
