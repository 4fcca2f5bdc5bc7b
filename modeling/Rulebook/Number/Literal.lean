import Rulebook.Number.Binary64

/-!
Numbers as people write them in a text: an optional sign, digits with an
optional point among or beside them, and an optional exponent; or the words
for infinity and for what is not a number.
-/

namespace Rulebook

inductive Literal where
  | finite (x : Binary64)
  | infinite (negative : Bool)
  | undefined
deriving DecidableEq

namespace Literal

def digitsValue (digits : List Char) : Nat :=
  digits.foldl (fun n c => n * 10 + (c.toNat - 48)) 0

def exponent? (s : List Char) : Option Int :=
  let (negative, digits) := match s with
    | '+' :: rest => (false, rest)
    | '-' :: rest => (true, rest)
    | rest => (false, rest)
  if digits.isEmpty || !digits.all Char.isDigit then none
  else some (if negative then -(digitsValue digits : Int) else digitsValue digits)

/-- A number without sign, as all its digits and a power of ten. -/
def decimal? (s : List Char) : Option (Nat × Int) :=
  let whole := s.takeWhile Char.isDigit
  let rest := s.dropWhile Char.isDigit
  let (fraction, rest) := match rest with
    | '.' :: rest => (rest.takeWhile Char.isDigit, rest.dropWhile Char.isDigit)
    | rest => ([], rest)
  if whole.isEmpty && fraction.isEmpty then none
  else
    let digits := digitsValue (whole ++ fraction)
    match rest with
    | [] => some (digits, -fraction.length)
    | 'e' :: rest | 'E' :: rest => (exponent? rest).map fun e => (digits, e - fraction.length)
    | _ => none

def unsigned? (negative : Bool) (s : List Char) : Option Literal :=
  match decimal? s with
  | some (digits, e) =>
    some ((Binary64.ofDecimal negative digits e).elim (.infinite negative) .finite)
  | none =>
    let word := String.ofList (s.map Char.toLower)
    if word = "inf" ∨ word = "infinity" then some (.infinite negative)
    else if word = "nan" then some .undefined
    else none

/-- Read a whole text as a number. -/
def read? (s : List Char) : Option Literal :=
  match s with
  | '-' :: rest => unsigned? true rest
  | '+' :: rest => unsigned? false rest
  | rest => unsigned? false rest

def isZero : Literal → Bool
  | .finite x => x.isZero
  | _ => false

def finite? : Literal → Option Binary64
  | .finite x => some x
  | _ => none

end Literal
end Rulebook
