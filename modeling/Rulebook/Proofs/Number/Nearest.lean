import Mathlib.Algebra.Order.Field.Basic
import Mathlib.Data.Rat.Cast.Order
import Mathlib.Tactic.FieldSimp
import Mathlib.Tactic.Linarith
import Mathlib.Tactic.Ring
import Rulebook.Number.Binary64

/-!
Rounding gives the nearest double, and of two equally near ones the one with the even
significand. Distances are first compared as integers, in units of `2 ^ -1074` and times the
denominator of the number that is rounded.
-/

namespace Rulebook

/-- A multiple of `d` is one of two that follow each other, or at least `d` outside them. -/
theorem multiple_cases (k f : ℤ) {d : ℤ} (hd : 0 ≤ d) :
    k = f ∨ k = f + 1 ∨ k * d ≤ f * d - d ∨ f * d + 2 * d ≤ k * d := by
  obtain h | h | h | h : k = f ∨ k = f + 1 ∨ k ≤ f - 1 ∨ f + 2 ≤ k := by omega
  · exact .inl h
  · exact .inr (.inl h)
  · exact .inr (.inr (.inl (by nlinarith)))
  · exact .inr (.inr (.inr (by nlinarith)))

/-- The rounded quotient times the divisor is the nearest multiple of it. -/
theorem roundHalfEven_nearest (a : ℕ) {d : ℕ} (hd : 0 < d) (k : ℤ) :
    k = roundHalfEven a d ∨
      (roundHalfEven a d * d - a : ℤ).natAbs < (k * d - a).natAbs ∨
      (roundHalfEven a d * d - a : ℤ).natAbs = (k * d - a).natAbs ∧
        Even (roundHalfEven a d) ∧ Odd k := by
  have hdiv : (a / d : ℕ) * (d : ℤ) + (a % d : ℕ) = a := by
    exact_mod_cast Nat.div_add_mod' a d
  have hlt : a % d < d := Nat.mod_lt a hd
  have hcases := multiple_cases k (a / d : ℕ) (Int.natCast_nonneg d)
  have hnext : ((a / d : ℕ) + 1 : ℤ) * d = (a / d : ℕ) * (d : ℤ) + d := by ring
  unfold roundHalfEven
  split
  case isTrue hdown =>
    -- The quotient is rounded down: only the multiple after it can be as near, as an odd one.
    rcases hcases with rfl | rfl | h | h
    · exact .inl rfl
    · rw [hnext]
      rcases hdown with hless | ⟨hhalf, heven⟩
      · exact .inr (.inl (by omega))
      · refine .inr (.inr ⟨by omega, Nat.even_iff.2 heven, ?_⟩)
        rw [Int.odd_iff]
        omega
    · exact .inr (.inl (by omega))
    · exact .inr (.inl (by omega))
  case isFalse hup =>
    -- The quotient is rounded up: only the multiple before it can be as near, as an odd one.
    rw [Nat.cast_add_one, hnext]
    rcases hcases with rfl | rfl | h | h
    · obtain hless | hhalf : d < 2 * (a % d) ∨ 2 * (a % d) = d := by omega
      · exact .inr (.inl (by omega))
      · refine .inr (.inr ⟨by omega, ?_, ?_⟩)
        · rw [Nat.even_iff]
          omega
        · rw [Int.odd_iff]
          omega
    · exact .inl rfl
    · exact .inr (.inl (by omega))
    · exact .inr (.inl (by omega))

namespace Binary64

theorem unit_pos : 0 < unit := by
  unfold unit
  generalize 1074 = j
  exact Nat.two_pow_pos j

theorem unit_cast_pos : (0 : ℚ) < unit := by exact_mod_cast unit_pos

/-! ### Values -/

def value (x : Binary64) : ℚ := x.scaled / unit

theorem natAbs_scaled (x : Binary64) : x.scaled.natAbs = x.magnitude := by
  unfold scaled
  split <;> omega

@[simp] theorem scaled_neg (x : Binary64) : x.neg.scaled = -x.scaled := by
  cases hx : x.negative <;> simp [scaled, neg, magnitude, hx]

@[simp] theorem value_neg (x : Binary64) : x.neg.value = -x.value := by
  rw [value, scaled_neg, Int.cast_neg, neg_div, value]

@[simp] theorem scaled_zero (negative : Bool) : (zero negative).scaled = 0 := by
  cases negative <;> simp [scaled, zero, magnitude]

@[simp] theorem value_zero (negative : Bool) : (zero negative).value = 0 := by
  rw [value, scaled_zero, Int.cast_zero, zero_div]

theorem value_eq_iff {x y : Binary64} : x.value = y.value ↔ x.scaled = y.scaled := by
  unfold value
  rw [div_left_inj' unit_cast_pos.ne']
  exact Int.cast_inj

/-- A double is a multiple of a unit of `2 ^ p`, an odd one only with an odd significand, or
smaller than everything with 53 bits in that unit. -/
theorem grid (y : Binary64) (p : ℕ) :
    (∃ k : ℤ, y.scaled = k * 2 ^ p ∧ (Odd k → Odd y.significand)) ∨
      p ≠ 0 ∧ y.magnitude < 2 ^ 52 * 2 ^ p := by
  rcases Nat.lt_or_ge y.scale p with hp | hp
  · refine .inr ⟨by omega, ?_⟩
    calc y.magnitude < 2 ^ 53 * 2 ^ y.scale :=
          Nat.mul_lt_mul_of_pos_right y.significand_lt (Nat.two_pow_pos _)
      _ = 2 ^ 52 * 2 ^ (y.scale + 1) := by ring
      _ ≤ 2 ^ 52 * 2 ^ p := Nat.mul_le_mul_left _ (Nat.pow_le_pow_right (by decide) hp)
  · have hmagnitude : (y.magnitude : ℤ) = (y.significand * 2 ^ (y.scale - p) : ℕ) * 2 ^ p := by
      rw [magnitude, ← Nat.sub_add_cancel hp]
      push_cast
      rw [Nat.add_sub_cancel, pow_add, mul_assoc]
    have hodd : Odd (y.significand * 2 ^ (y.scale - p)) → Odd y.significand :=
      fun h => (Nat.odd_mul.1 h).1
    left
    cases hy : y.negative
    · refine ⟨_, by rw [scaled, hy]; exact hmagnitude, fun h => hodd ?_⟩
      exact_mod_cast h
    · refine ⟨-(y.significand * 2 ^ (y.scale - p) : ℕ), ?_, fun h => hodd ?_⟩
      · rw [scaled, hy, if_pos rfl, hmagnitude, neg_mul]
      · exact_mod_cast odd_neg.1 h

/-! ### Rounding -/

/-- No double is nearer to a number, and one as near has an odd significand where this one's is
even. -/
def IsNearest (x : Binary64) (q : ℚ) : Prop :=
  ∀ y : Binary64, y.value = x.value ∨ |x.value - q| < |y.value - q| ∨
    |x.value - q| = |y.value - q| ∧ Even x.significand ∧ Odd y.significand

variable {x y : Binary64} {q : ℚ} {negative : Bool} {a d : ℕ}

theorem isNearest_value (x : Binary64) : x.IsNearest x.value := by
  intro y
  by_cases h : y.value = x.value
  · exact .inl h
  · refine .inr (.inl ?_)
    rw [sub_self, abs_zero]
    exact abs_pos.2 (sub_ne_zero.2 h)

theorem IsNearest.dist_le (hx : x.IsNearest q) (y : Binary64) :
    |x.value - q| ≤ |y.value - q| := by
  rcases hx y with h | h | ⟨h, -, -⟩
  · rw [h]
  · exact h.le
  · exact h.le

/-- The nearest double is unique up to the sign of zero. -/
theorem IsNearest.value_eq (hx : x.IsNearest q) (hy : y.IsNearest q) : x.value = y.value := by
  rcases hx y with h | h | ⟨h, heven, hodd⟩
  · exact h.symm
  · rcases hy x with h' | h' | ⟨h', -, -⟩
    · exact h'
    · exact absurd h h'.asymm
    · exact absurd h' h.ne'
  · rcases hy x with h' | h' | ⟨-, heven', -⟩
    · exact h'
    · exact absurd h h'.ne'
    · exact absurd hodd (Nat.not_odd_iff_even.2 heven')

theorem IsNearest.neg (hx : x.IsNearest q) : x.neg.IsNearest (-q) := by
  intro y
  have hdist : ∀ z : Binary64, |z.neg.value - q| = |z.value - -q| := fun z => by
    rw [value_neg, ← abs_neg]
    ring_nf
  have hself : |x.neg.value - -q| = |x.value - q| := by
    rw [value_neg, ← abs_neg]
    ring_nf
  rw [hself, ← hdist y]
  rcases hx y.neg with h | h | h
  · left
    rw [value_neg] at h ⊢
    rw [← h, neg_neg]
  · exact .inr (.inl h)
  · exact .inr (.inr h)

/-- Nothing between a double and a number is rounded beyond the double. -/
theorem IsNearest.le_of_le (hx : x.IsNearest q) (hy : y.value ≤ q) : y.value ≤ x.value := by
  by_contra! hlt
  have hdist := hx.dist_le y
  rw [abs_of_nonpos (by linarith), abs_of_nonpos (by linarith)] at hdist
  linarith

theorem IsNearest.ge_of_ge (hx : x.IsNearest q) (hy : q ≤ y.value) : x.value ≤ y.value := by
  have h := hx.neg.le_of_le (y := y.neg) (by rw [value_neg]; exact neg_le_neg hy)
  rw [value_neg, value_neg] at h
  exact neg_le_neg_iff.1 h

/-- What rounding gives is the rounded quotient in the unit of its scale. -/
theorem parts_of_ofUnits (h : ofUnits negative a d = some x) :
    x.negative = negative ∧
      x.magnitude = roundHalfEven a (d * 2 ^ scaleFor a d) * 2 ^ scaleFor a d ∧
      (Even (roundHalfEven a (d * 2 ^ scaleFor a d)) → Even x.significand) := by
  have hle := roundHalfEven_le a (d * 2 ^ scaleFor a d)
  have hlt := quotient_at_scale_lt a d
  unfold ofUnits at h
  simp only at h
  split_ifs at h with hm
  · obtain rfl := Option.some.inj h
    exact ⟨rfl, rfl, id⟩
  · obtain rfl := Option.some.inj h
    have hfull : roundHalfEven a (d * 2 ^ scaleFor a d) = 2 ^ 53 := by omega
    refine ⟨rfl, ?_, fun _ => (Nat.even_pow.2 ⟨even_two, by decide⟩ : Even (2 ^ 52))⟩
    rw [hfull, magnitude]
    ring

theorem ofUnits_neg : ofUnits true a d = (ofUnits false a d).map neg := by
  unfold ofUnits
  simp only
  split_ifs <;> rfl

/-- Distances in units of `2 ^ -1074`, times the divisor. -/
theorem scaled_nearest_of_ofUnits (hd : 0 < d) (h : ofUnits false a d = some x) (y : Binary64) :
    y.scaled = x.scaled ∨
      (x.scaled * d - a).natAbs < (y.scaled * d - a).natAbs ∨
      (x.scaled * d - a).natAbs = (y.scaled * d - a).natAbs ∧
        Even x.significand ∧ Odd y.significand := by
  obtain ⟨hnegative, hmagnitude, heven⟩ := parts_of_ofUnits h
  have hquotient : scaleFor a d ≠ 0 → 2 ^ 52 ≤ a / (d * 2 ^ scaleFor a d) := le_quotient_at_scale
  generalize scaleFor a d = p at *
  have hD : 0 < d * 2 ^ p := Nat.mul_pos hd (Nat.two_pow_pos _)
  have hscaled : x.scaled = (roundHalfEven a (d * 2 ^ p) : ℤ) * 2 ^ p := by
    rw [scaled, hnegative, hmagnitude]
    push_cast
    rfl
  have hproduct : ∀ k : ℤ, k * 2 ^ p * d = k * (d * 2 ^ p : ℕ) := fun k => by push_cast; ring
  rw [hscaled, hproduct]
  rcases y.grid p with ⟨k, hk, hodd⟩ | ⟨hp, hsmall⟩
  · rw [hk, hproduct]
    rcases roundHalfEven_nearest a hD k with rfl | hless | ⟨htie, heven', hodd'⟩
    · exact .inl rfl
    · exact .inr (.inl hless)
    · exact .inr (.inr ⟨htie, heven heven', hodd hodd'⟩)
  · -- Such a `y` is below `2 ^ 52` units, which are no more than the quotient and not nearer.
    have hbelow : 2 ^ 52 * (d * 2 ^ p) ≤ a := (Nat.le_div_iff_mul_le hD).1 (hquotient hp)
    have hy : y.scaled.natAbs * d < 2 ^ 52 * (d * 2 ^ p) := by
      rw [natAbs_scaled]
      calc y.magnitude * d < 2 ^ 52 * 2 ^ p * d := Nat.mul_lt_mul_of_pos_right hsmall hd
        _ = 2 ^ 52 * (d * 2 ^ p) := by ring
    have hyd : y.scaled * d ≤ (y.scaled.natAbs * d : ℕ) := by
      push_cast
      exact mul_le_mul_of_nonneg_right (le_abs_self _) (Int.natCast_nonneg d)
    refine .inr (.inl ?_)
    rcases roundHalfEven_nearest a hD (2 ^ 52) with h52 | hless | ⟨htie, -, -⟩
    · rw [← h52]
      omega
    · omega
    · omega

def signed (negative : Bool) (q : ℚ) : ℚ := if negative then -q else q

private theorem isNearest_of_ofUnits_false (hd : 0 < d) (h : ofUnits false a d = some x) :
    x.IsNearest (a / (d * unit)) := by
  intro y
  have hd' : (0 : ℚ) < d := by exact_mod_cast hd
  have hunit : (0 : ℚ) < unit := unit_cast_pos
  have hpos : (0 : ℚ) < d * unit := mul_pos hd' hunit
  have hdist : ∀ z : Binary64, |z.value - a / (d * unit)| =
      (z.scaled * d - a).natAbs / (d * unit) := fun z => by
    have hsub : z.value - a / (d * unit) = ((z.scaled * d - a : ℤ) : ℚ) / (d * unit) := by
      unfold value
      push_cast
      field_simp
    rw [hsub, abs_div, abs_of_pos hpos, Nat.cast_natAbs, Int.cast_abs]
  rw [hdist, hdist, value_eq_iff, div_lt_div_iff_of_pos_right hpos, div_left_inj' hpos.ne',
    Nat.cast_lt, Nat.cast_inj]
  exact scaled_nearest_of_ofUnits hd h y

theorem isNearest_of_ofUnits (hd : 0 < d) (h : ofUnits negative a d = some x) :
    x.IsNearest (signed negative (a / (d * unit))) := by
  cases negative with
  | false => exact isNearest_of_ofUnits_false hd h
  | true =>
    rw [ofUnits_neg] at h
    obtain ⟨z, hz, rfl⟩ := Option.map_eq_some_iff.1 h
    exact (isNearest_of_ofUnits_false hd hz).neg

theorem isNearest_of_ofQuotient (hd : 0 < d) (h : ofQuotient negative a d = some x) :
    x.IsNearest (signed negative (a / d)) := by
  have hnearest := isNearest_of_ofUnits hd h
  push_cast at hnearest
  rwa [mul_div_mul_right _ _ unit_cast_pos.ne'] at hnearest

theorem two_pow_mul_unit (k : ℕ) : 2 ^ k * unit = 2 ^ (k + 1074) := by
  unfold unit
  generalize 1074 = j
  rw [pow_add]

theorem two_pow_mul_unit_cast (k : ℕ) : (2 ^ k * unit : ℚ) = 2 ^ (k + 1074) := by
  exact_mod_cast two_pow_mul_unit k

theorem two_mul_unit : (2 * unit : ℚ) = 2 ^ 1075 := by
  calc (2 * unit : ℚ) = 2 ^ 1 * unit := by rw [pow_one]
    _ = 2 ^ (1 + 1074) := two_pow_mul_unit_cast 1

/-- A quotient with a large scale is large. -/
theorem le_of_le_scaleFor {k : ℕ} (hd : 0 < d) (h : k + 1022 ≤ scaleFor (a * unit) d) :
    (2 ^ k : ℚ) ≤ a / d := by
  have hlog : k + 1074 ≤ (a * unit / d).log2 := by
    unfold scaleFor at h
    omega
  have hne : a * unit / d ≠ 0 := by
    intro h0
    simp [h0] at hlog
  have hunits : 2 ^ k * unit ≤ a * unit / d := by
    rw [two_pow_mul_unit]
    exact (Nat.le_log2 hne).1 hlog
  have hmul : 2 ^ k * d ≤ a := by
    refine Nat.le_of_mul_le_mul_right ?_ unit_pos
    rw [Nat.mul_right_comm]
    exact (Nat.le_div_iff_mul_le hd).1 hunits
  rw [le_div_iff₀ (by exact_mod_cast hd)]
  exact_mod_cast hmul

/-- Only what is at least `2 ^ 1023` is too large for a double. -/
theorem le_of_ofQuotient_eq_none (hd : 0 < d) (h : ofQuotient negative a d = none) :
    (2 ^ 1023 : ℚ) ≤ a / d := by
  refine le_of_le_scaleFor hd ?_
  unfold ofQuotient ofUnits at h
  simp only at h
  split_ifs at h <;> omega

/-! ### Halves -/

/-- The double after one that is not negative and has an even significand. -/
def next (x : Binary64) (heven : Even x.significand) : Binary64 where
  negative := false
  significand := x.significand + 1
  scale := x.scale
  significand_lt := by
    have hlt := x.significand_lt
    obtain ⟨k, hk⟩ := heven
    omega
  normal := x.normal.imp_left fun h => by omega
  scale_le := x.scale_le

theorem scaled_eq_of_nonneg (hx : x.negative = false) : x.scaled = x.significand * 2 ^ x.scale := by
  simp [scaled, hx, magnitude]

theorem value_next (hx : x.negative = false) (heven : Even x.significand) :
    (x.next heven).value = x.value + 2 ^ x.scale / unit := by
  rw [value, scaled_eq_of_nonneg rfl, value, scaled_eq_of_nonneg hx, ← add_div]
  push_cast [next]
  ring

/-- Between a double and the next one there is none, and the next one has an odd significand. -/
theorem above_of_lt (hx : x.negative = false) (heven : Even x.significand)
    (hlt : x.value < y.value) :
    y.value = (x.next heven).value ∧ Odd y.significand ∨ (x.next heven).value < y.value := by
  have hunit : (0 : ℚ) < unit := unit_cast_pos
  have hscaled : x.scaled < y.scaled := by
    rw [value, value, div_lt_div_iff_of_pos_right hunit] at hlt
    exact_mod_cast hlt
  rw [value_eq_iff, value, value, div_lt_div_iff_of_pos_right hunit, Int.cast_lt,
    scaled_eq_of_nonneg (x := x.next heven) rfl]
  rw [scaled_eq_of_nonneg hx] at hscaled
  have hpow : (0 : ℤ) < 2 ^ x.scale := by positivity
  rcases y.grid x.scale with ⟨k, hk, hodd⟩ | ⟨hp, hsmall⟩
  · rw [hk] at hscaled ⊢
    have hk' : (x.significand : ℤ) + 1 ≤ k := lt_of_mul_lt_mul_right hscaled hpow.le
    rcases hk'.eq_or_lt with rfl | hless
    · left
      refine ⟨by simp [next], hodd ?_⟩
      exact_mod_cast heven.add_one
    · right
      push_cast [next]
      exact mul_lt_mul_of_pos_right hless hpow
  · have hnormal : 2 ^ 52 ≤ x.significand := x.normal.resolve_right hp
    have hfull : 2 ^ 52 * 2 ^ x.scale ≤ x.significand * 2 ^ x.scale :=
      Nat.mul_le_mul_right _ hnormal
    have hy : y.scaled ≤ y.magnitude := by
      rw [← natAbs_scaled]
      exact Int.le_natAbs
    exfalso
    zify at hfull hsmall
    linarith

/-- What is at most half of the way to the next double is rounded down to an even one. -/
theorem isNearest_of_le_half (hx : x.negative = false) (heven : Even x.significand)
    (hq : x.value ≤ q) (hhalf : (q - x.value) * (2 * unit) ≤ 2 ^ x.scale) : x.IsNearest q := by
  have hunit : (0 : ℚ) < unit := unit_cast_pos
  have hnext : 2 * (q - x.value) ≤ (x.next heven).value - x.value := by
    rw [value_next hx, add_sub_cancel_left, le_div_iff₀ hunit]
    linarith
  have hdist : |x.value - q| = q - x.value := by
    rw [abs_of_nonpos (by linarith), neg_sub]
  intro y
  rw [hdist]
  rcases lt_trichotomy y.value x.value with hy | hy | hy
  · refine .inr (.inl ?_)
    rw [abs_of_nonpos (by linarith)]
    linarith
  · exact .inl hy
  · right
    rcases above_of_lt hx heven hy with ⟨heq, hodd⟩ | hless
    · rw [abs_of_nonneg (by linarith)]
      rcases (show q - x.value ≤ y.value - q by linarith).lt_or_eq with h | h
      · exact .inl h
      · exact .inr ⟨h, heven, hodd⟩
    · left
      rw [abs_of_nonneg (by linarith)]
      linarith

/-- The numbers that are rounded down to a double with an even significand. -/
theorem exists_isNearest_iff (hx : x.negative = false) (heven : Even x.significand)
    (hq : x.value ≤ q) :
    (∃ y : Binary64, y.IsNearest q ∧ y.value = x.value) ↔
      (q - x.value) * (2 * unit) ≤ 2 ^ x.scale := by
  constructor
  · rintro ⟨y, hy, hvalue⟩
    have hunit : (0 : ℚ) < unit := unit_cast_pos
    have hdist := hy.dist_le (x.next heven)
    have hgap : 0 < 2 ^ x.scale / (unit : ℚ) := by positivity
    rw [hvalue, value_next hx, abs_of_nonpos (by linarith)] at hdist
    have hle : 2 * (q - x.value) ≤ 2 ^ x.scale / unit := by
      rcases le_abs.1 hdist with h | h <;> linarith
    rw [le_div_iff₀ hunit] at hle
    linarith
  · exact fun h => ⟨x, isNearest_of_le_half hx heven hq h, rfl⟩

theorem isNearest_zero (hq : 0 ≤ q) (h : q * (2 * unit) ≤ 1) :
    (zero negative).IsNearest (signed negative q) := by
  have hzero : (zero false).IsNearest q := by
    refine isNearest_of_le_half rfl (by decide) (by rwa [value_zero]) ?_
    rw [value_zero, sub_zero]
    exact h
  cases negative with
  | false => exact hzero
  | true => exact hzero.neg

end Binary64
end Rulebook
