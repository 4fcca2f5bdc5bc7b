import Rulebook.Number.Rounding

/-!
Finite binary64 numbers as exact values: a number is
`± significand * 2 ^ scale / 2 ^ 1074`, so comparison, rounding and arithmetic
are statements about natural numbers. Rounding goes to the nearest number, a
half to the even significand.
-/

namespace Rulebook

/-- A finite double. Every value has one representation: the significand has
its full 53 bits unless the scale is the smallest one. -/
structure Binary64 where
  negative : Bool
  significand : Nat
  scale : Nat
  significand_lt : significand < 2 ^ 53
  normal : 2 ^ 52 ≤ significand ∨ scale = 0
  scale_le : scale ≤ 2045
deriving DecidableEq

namespace Binary64

def zero (negative : Bool) : Binary64 :=
  ⟨negative, 0, 0, by decide, .inr rfl, by decide⟩

instance : Inhabited Binary64 := ⟨zero false⟩

/-- The absolute value in units of `2 ^ -1074`. -/
def magnitude (x : Binary64) : Nat := x.significand * 2 ^ x.scale

def scaled (x : Binary64) : Int := if x.negative then -(x.magnitude : Int) else x.magnitude

def unit : Nat := 2 ^ 1074

theorem log2_mul_unit_le {a k : Nat} (h : a < 2 ^ k) (hk : 0 < k) :
    (a * unit).log2 ≤ k - 1 + 1074 := by
  unfold unit
  generalize 1074 = j
  by_cases h0 : a * 2 ^ j = 0
  · simp [h0]
  · have : (a * 2 ^ j).log2 < k + j := by
      rw [Nat.log2_lt h0, Nat.pow_add]
      exact Nat.mul_lt_mul_of_pos_right h (Nat.two_pow_pos _)
    omega

def isZero (x : Binary64) : Bool := x.significand == 0

def isInteger (x : Binary64) : Bool := x.magnitude % unit == 0

def truncated (x : Binary64) : Nat := x.magnitude / unit

def neg (x : Binary64) : Binary64 := { x with negative := !x.negative }

/-- The scale at which a value of `a / d` units keeps 53 significant bits. -/
def scaleFor (a d : Nat) : Nat := (a / d).log2 - 52

theorem quotient_at_scale_lt (a d : Nat) :
    a / (d * 2 ^ scaleFor a d) < 2 ^ 53 := by
  rw [← Nat.div_div_eq_div_mul]
  apply Nat.div_lt_of_lt_mul
  rw [← Nat.pow_add]
  have h : a / d < 2 ^ ((a / d).log2 + 1) := Nat.lt_log2_self
  exact Nat.lt_of_lt_of_le h (Nat.pow_le_pow_right (by decide) (by unfold scaleFor; omega))

theorem le_quotient_at_scale {a d : Nat} (h : scaleFor a d ≠ 0) :
    2 ^ 52 ≤ a / (d * 2 ^ scaleFor a d) := by
  have hl : 52 < (a / d).log2 := by unfold scaleFor at h; omega
  have h0 : a / d ≠ 0 := by intro h0; rw [h0] at hl; simp at hl
  rw [← Nat.div_div_eq_div_mul, Nat.le_div_iff_mul_le (Nat.two_pow_pos _), ← Nat.pow_add]
  have he : 52 + scaleFor a d = (a / d).log2 := by unfold scaleFor; omega
  rw [he]
  exact Nat.log2_self_le h0

/-- The double nearest to `a / d` units of `2 ^ -1074`; nothing when it is too
large to be finite. -/
def ofUnits (negative : Bool) (a d : Nat) : Option Binary64 :=
  let p := scaleFor a d
  let m := roundHalfEven a (d * 2 ^ p)
  if hm : m < 2 ^ 53 then
    if hp : p ≤ 2045 then
      some ⟨negative, m, p, hm, by
        by_cases h : p = 0
        · exact .inr h
        · exact .inl (Nat.le_trans (le_quotient_at_scale h) (div_le_roundHalfEven _ _)), hp⟩
    else none
  else if hp : p + 1 ≤ 2045 then
    some ⟨negative, 2 ^ 52, p + 1, by decide, .inl (Nat.le_refl _), hp⟩
  else none

def ofQuotient (negative : Bool) (a d : Nat) : Option Binary64 :=
  ofUnits negative (a * unit) d

def ofInt? (n : Int) : Option Binary64 := ofQuotient (decide (n < 0)) n.natAbs 1

/-- The double nearest to the decimal number `digits * 10 ^ exponent`. Far
exponents are settled before any power is taken. -/
def ofDecimal (negative : Bool) (digits : Nat) (exponent : Int) : Option Binary64 :=
  if digits = 0 then some (zero negative)
  else
    let top := (Nat.toDigits 10 digits).length + exponent
    if top > 310 then none
    else if top < -330 then some (zero negative)
    else if exponent ≥ 0 then ofQuotient negative (digits * 10 ^ exponent.toNat) 1
    else ofQuotient negative digits (10 ^ (-exponent).toNat)

def mul (x y : Binary64) : Option Binary64 :=
  ofUnits (x.negative != y.negative) (x.magnitude * y.magnitude) unit

def div (x y : Binary64) : Option Binary64 :=
  ofUnits (x.negative != y.negative) (x.magnitude * unit) y.magnitude

end Binary64
end Rulebook
