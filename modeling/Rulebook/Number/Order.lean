import Rulebook.Json.Basic
import Rulebook.Number.Shortest

/-!
Order and divisibility of the numbers in JSON. Numbers are ordered by their
exact values; multiples are found with doubles.
-/

namespace Rulebook
namespace Number

/-- The exact value in units of `2 ^ -1074`. -/
def units : Number → Int
  | .integer n _ => n * Binary64.unit
  | .double x => x.scaled

def ltb (a b : Number) : Bool := decide (a.units < b.units)

def sameDouble (a b : Number) : Bool := a.toDouble.scaled == b.toDouble.scaled

/-- Whether two numbers differ by less than `2 ^ -52` as doubles. -/
def nearlyEqual (a b : Number) : Bool :=
  decide ((a.toDouble.scaled - b.toDouble.scaled).natAbs < 2 ^ 1022)

/-- A double as a quotient of integers, by its shortest decimal text. -/
def decimalQuotient (x : Binary64) : Nat × Nat :=
  if x.isZero then (0, 1)
  else
    let d := x.shortest
    if d.exponent < 0 then (d.digits, 10 ^ d.exponent.natAbs)
    else (d.digits * 10 ^ d.exponent.toNat, 1)

/-- Whether a number is a multiple of a positive one. An integral divisor takes
integral numbers only and is exact; otherwise the quotient, rounded to a double,
may miss an integer by `2 ^ -52`. Negative quotients pass. Where the quotient is
too large the decimal texts decide. -/
def isMultipleOf (n divisor : Number) : Bool :=
  let x := n.toDouble
  let d := divisor.toDouble
  if d.isInteger then x.isInteger && x.magnitude % d.magnitude == 0
  else
    match x.div d with
    | none =>
      let (a, b) := decimalQuotient x
      let (c, e) := decimalQuotient d
      a * e % (b * c) == 0
    | some q =>
      let remainder := q.magnitude % Binary64.unit
      q.negative || decide (remainder < 2 ^ 1022) ||
        decide (Binary64.unit - 2 ^ 1022 < remainder)

end Number

/-- Whole numbers are written without a point, and nothing with an exponent. -/
def Number.plainLayout : DecimalLayout where
  plainFrom := -400
  plainTo := 400
  integral := ""
  exponentMark := ""
  exponentPlus := ""

end Rulebook
