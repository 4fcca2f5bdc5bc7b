import Rulebook.Number.Binary64

/-!
The shortest decimal text of a double: the fewest digits that read back, and
of those the nearest. How the digits are laid out is a value of
`DecimalLayout`.
-/

namespace Rulebook

structure Decimal where
  digits : Nat
  exponent : Int
deriving DecidableEq

namespace Decimal

def digitCount (n : Nat) : Nat := (Nat.toDigits 10 n).length

def trimmed (d : Decimal) : Decimal :=
  let rec go : Nat → Nat → Int → Decimal
    | 0, n, e => ⟨n, e⟩
    | k + 1, n, e => if n % 10 == 0 && n != 0 then go k (n / 10) (e + 1) else ⟨n, e⟩
  go (digitCount d.digits) d.digits d.exponent

def leading (d : Decimal) : Int := digitCount d.digits - 1 + d.exponent

end Decimal

namespace Binary64

/-- Whether `num / den` units lie in the interval of numbers that round to the
magnitude of `x`. The ends belong to it when the significand is even. -/
def roundsTo (x : Binary64) (num den : Nat) : Bool :=
  let gap := 2 ^ x.scale
  let above := 4 * x.magnitude + 2 * gap
  let below := 4 * x.magnitude - (if x.significand == 2 ^ 52 && x.scale != 0 then gap else 2 * gap)
  let point := 4 * num
  if x.significand % 2 == 0 then decide (below * den ≤ point ∧ point ≤ above * den)
  else decide (below * den < point ∧ point < above * den)

def leadingExponent (num den : Nat) : Int :=
  if den ≤ num then (Nat.toDigits 10 (num / den)).length - 1
  else
    let n : Int := (Nat.toDigits 10 (den / num)).length
    if num * 10 ^ (n.toNat - 1) ≥ den then -(n - 1) else -n

/-- The nearest decimal number with its last digit at `10 ^ exponent` that
reads back as `x`, if there is one. -/
def onGrid (x : Binary64) (exponent : Int) : Option Decimal :=
  let num := if exponent < 0 then x.magnitude * 10 ^ (-exponent).toNat else x.magnitude
  let den := if exponent < 0 then unit else unit * 10 ^ exponent.toNat
  let lower := num / den
  let inUnits (d : Nat) : Nat × Nat :=
    if exponent < 0 then (d * unit, 10 ^ (-exponent).toNat) else (d * unit * 10 ^ exponent.toNat, 1)
  let reads (d : Nat) : Bool := let (n, k) := inUnits d; x.roundsTo n k
  match reads lower, reads (lower + 1) with
  | true, true => some ⟨roundHalfEven num den, exponent⟩
  | true, false => some ⟨lower, exponent⟩
  | false, true => some ⟨lower + 1, exponent⟩
  | false, false => none

/-- The shortest decimal number that reads back as the magnitude of `x`, which
is not zero. Seventeen digits are always enough. -/
def shortest (x : Binary64) : Decimal :=
  let top := leadingExponent x.magnitude unit
  let grids := (List.range 17).map fun (k : Nat) => x.onGrid (top - k)
  match grids.findSome? (Option.filter (·.digits != 0)) with
  | some d => d.trimmed
  | none => ⟨0, 0⟩

end Binary64

structure DecimalLayout where
  /-- The smallest exponent of the first digit that is written without exponent. -/
  plainFrom : Int
  /-- The largest such exponent. -/
  plainTo : Int
  /-- What follows an integral number in plain notation. -/
  integral : String
  exponentMark : String
  /-- What stands before an exponent that is not negative. -/
  exponentPlus : String

namespace DecimalLayout

private def zeros (n : Nat) : String := String.ofList (List.replicate n '0')

def write (layout : DecimalLayout) (d : Decimal) : String :=
  let digits := Nat.toDigits 10 d.digits
  let lead := d.leading
  if layout.plainFrom ≤ lead ∧ lead ≤ layout.plainTo then
    if d.exponent ≥ 0 then
      String.ofList digits ++ zeros d.exponent.toNat ++ layout.integral
    else if lead ≥ 0 then
      String.ofList (digits.take (lead.toNat + 1)) ++ "." ++
        String.ofList (digits.drop (lead.toNat + 1))
    else "0." ++ zeros ((-lead).toNat - 1) ++ String.ofList digits
  else
    let body := match digits with
      | [c] => String.singleton c
      | c :: rest => String.singleton c ++ "." ++ String.ofList rest
      | [] => ""
    body ++ layout.exponentMark ++ (if lead < 0 then "-" else layout.exponentPlus) ++
      toString lead.natAbs

end DecimalLayout

namespace Binary64

/-- The text of a double in a layout; zero is written as the digit and what
follows an integral number. -/
def text (layout : DecimalLayout) (x : Binary64) : String :=
  (if x.negative then "-" else "") ++
    (if x.isZero then "0" ++ layout.integral else layout.write x.shortest)

end Binary64
end Rulebook
