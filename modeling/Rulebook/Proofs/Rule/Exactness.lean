import Rulebook.Proofs.Number.Numeral
import Rulebook.Proofs.Number.Whole
import Rulebook.Proofs.Rule.Counts

/-!
Counts are read through doubles: a number is rounded, and kept when what it is rounded to is whole
and at most `2 ^ 64`, which itself is taken for the largest count. So a count is stored as it is
written when it has 53 significant bits, and what is no count is rejected unless it is rounded to
one.
-/

namespace Rulebook
namespace Json
open Binary64

variable {v : Json} {q : ℚ} {x : Binary64} {n k : ℕ}

/-- A value is a number, or a text that holds one between blanks. -/
inductive Spells : Json → ℚ → Prop where
  | integer (n : ℤ) (fits : fitsWord n) : Spells (.number (.integer n fits)) n
  | double (x : Binary64) : Spells (.number (.double x)) x.value
  | text {s : String} (before after : List Char) (numeral : Numeral)
      (htext : s.toList = before ++ numeral.text ++ after)
      (hbefore : ∀ c ∈ before, Text.isBlank c) (hafter : ∀ c ∈ after, Text.isBlank c) :
      Spells (.string s) numeral.value

/-- The decimal digits of a number spell it. -/
theorem spells_repr (n : ℕ) : Spells (.string n.repr) n := by
  rw [← Numeral.value_ofNat]
  refine .text [] [] (Numeral.ofNat n) ?_ (by simp) (by simp)
  rw [Numeral.text_ofNat, List.nil_append, List.append_nil]

/-- A number is read as the nearest double, if it is not too large for one. -/
theorem nearest_of_spells (hv : v.Spells q) :
    (∃ x, v.coerceNumber = some x ∧ x.IsNearest q) ∨
      v.coerceNumber = none ∧ (2 ^ 1023 : ℚ) ≤ |q| := by
  cases hv with
  | integer n fits =>
    refine .inl ⟨_, rfl, ?_⟩
    have h : ofQuotient (decide (n < 0)) n.natAbs 1 =
        some (Number.integer n fits).toDouble := (Option.some_get _).symm
    have hvalue : signed (decide (n < 0)) (n.natAbs / (1 : ℕ)) = n := by
      rw [Nat.cast_one, div_one, Nat.cast_natAbs, Int.cast_abs]
      by_cases hn : n < 0
      · have hcast : (n : ℚ) < 0 := by exact_mod_cast hn
        simp [signed, hn, abs_of_neg hcast]
      · have hcast : (0 : ℚ) ≤ n := by exact_mod_cast not_lt.1 hn
        simp [signed, hn, abs_of_nonneg hcast]
    rw [← hvalue]
    exact isNearest_of_ofQuotient one_pos h
  | double x => exact .inl ⟨x, rfl, isNearest_value x⟩
  | text before after numeral htext hbefore hafter =>
    rw [coerceNumber, htext, numeral.trim_text hbefore hafter]
    rcases numeral.nearest_of_read with ⟨x, hx, hnearest⟩ | ⟨hinfinite, hlarge⟩
    · exact .inl ⟨x, by simp [hx, Literal.finite?], hnearest⟩
    · exact .inr ⟨by simp [hinfinite, Literal.finite?], hlarge⟩

theorem countOfDouble_eq_some_iff :
    countOfDouble x = some n ↔ ∃ k : ℕ, x.value = k ∧ k ≤ 2 ^ 64 ∧ n = min k maxCount := by
  constructor
  · intro h
    unfold countOfDouble at h
    split at h
    case isTrue hcount =>
      obtain ⟨hnonneg, hwhole, hle⟩ := hcount
      refine ⟨x.truncated, ?_, hle, (Option.some.inj h).symm⟩
      have hdiv : x.truncated * unit = x.magnitude :=
        Nat.div_mul_cancel (Nat.dvd_of_mod_eq_zero (beq_iff_eq.1 hwhole))
      rw [value_eq_natCast_iff, ← Int.natAbs_of_nonneg hnonneg, natAbs_scaled, ← hdiv]
      exact Int.natCast_mul _ _
    case isFalse => cases h
  · rintro ⟨k, hvalue, hle, rfl⟩
    have hscaled := value_eq_natCast_iff.1 hvalue
    have hmagnitude := magnitude_of_value_eq hvalue
    have htruncated : x.truncated = k := by
      rw [truncated, hmagnitude, Nat.mul_div_cancel _ unit_pos]
    have hwhole : x.isInteger := by
      rw [isInteger, hmagnitude, Nat.mul_mod_left]
      rfl
    have hnonneg : 0 ≤ x.scaled := by
      rw [hscaled]
      exact_mod_cast Nat.zero_le (k * unit)
    rw [countOfDouble, htruncated, if_pos ⟨hnonneg, hwhole, hle⟩]

/-- The count that a number is taken for: the double it is rounded to, when that is whole, and the
largest count for `2 ^ 64`. -/
def RoundedCount (q : ℚ) (n : ℕ) : Prop :=
  ∃ (x : Binary64) (k : ℕ), x.IsNearest q ∧ x.value = k ∧ k ≤ 2 ^ 64 ∧ n = min k maxCount

theorem exists_roundedCount_iff_of_neg (hq : q < 0) :
    (∃ n, RoundedCount q n) ↔ -1 ≤ q * (2 * unit) := by
  have hhalf := exists_isNearest_iff (x := zero false) (q := -q) rfl (by decide)
    (by rw [value_zero]; linarith)
  rw [value_zero, sub_zero] at hhalf
  have hzero : (-q * (2 * unit) ≤ 2 ^ (zero false).scale) ↔ -1 ≤ q * (2 * unit) := by
    rw [zero, pow_zero, neg_mul, neg_le]
  rw [← hzero, ← hhalf]
  constructor
  · rintro ⟨-, x, k, hx, hvalue, -⟩
    have hle : x.value ≤ 0 := by
      have h := hx.ge_of_ge (y := zero false) (by rw [value_zero]; exact hq.le)
      rwa [value_zero] at h
    have hk : (0 : ℚ) ≤ k := Nat.cast_nonneg k
    exact ⟨x.neg, hx.neg, by rw [value_neg]; linarith⟩
  · rintro ⟨y, hy, hvalue⟩
    have hneg := hy.neg
    rw [neg_neg] at hneg
    exact ⟨0, y.neg, 0, hneg, by rw [value_neg, hvalue, neg_zero, Nat.cast_zero],
      Nat.zero_le _, rfl⟩

theorem exists_roundedCount_iff_of_ge (hq : 2 ^ 64 ≤ q) :
    (∃ n, RoundedCount q n) ↔ q ≤ 2 ^ 64 + 2 ^ 11 := by
  have hunit : (0 : ℚ) < 2 * unit := mul_pos two_pos unit_cast_pos
  have hle : twoPow64.value ≤ q := by rwa [value_twoPow64]
  have hhalf := exists_isNearest_iff rfl (by decide) hle
  have hscale : (2 : ℚ) ^ twoPow64.scale = 2 ^ 11 * (2 * unit) := by
    calc (2 : ℚ) ^ (12 + 1074) = 2 ^ 12 * unit := (two_pow_mul_unit_cast 12).symm
      _ = 2 ^ 11 * (2 * unit) := by ring
  rw [hscale, mul_le_mul_iff_left₀ hunit, value_twoPow64, sub_le_iff_le_add'] at hhalf
  rw [← hhalf]
  constructor
  · rintro ⟨-, x, k, hx, hvalue, hk, -⟩
    refine ⟨x, hx, le_antisymm ?_ ?_⟩
    · rw [hvalue]
      exact_mod_cast hk
    · rw [← value_twoPow64]
      exact hx.le_of_le hle
  · rintro ⟨x, hx, hvalue⟩
    exact ⟨_, x, 2 ^ 64, hx, by rw [hvalue]; norm_num, le_rfl, rfl⟩

/-- What is too large for a double, or too far below zero, is taken for no count. -/
theorem not_roundedCount_of_large (hq : (2 ^ 1023 : ℚ) ≤ |q|) : ¬∃ n, RoundedCount q n := by
  have hlarge : (2 : ℚ) ^ 65 ≤ |q| := (pow_le_pow_right₀ one_le_two (by norm_num)).trans hq
  clear hq
  rcases lt_or_ge q 0 with hneg | hpos
  · have hunit : (1 : ℚ) ≤ unit := by exact_mod_cast unit_pos
    rw [abs_of_neg hneg] at hlarge
    rw [exists_roundedCount_iff_of_neg hneg]
    nlinarith
  · rw [abs_of_nonneg hpos] at hlarge
    rw [exists_roundedCount_iff_of_ge (by linarith)]
    linarith

/-- A fraction below `2 ^ 64` is taken for a count when the nearest double is whole. -/
theorem exists_roundedCount_iff_of_lt (hq : q < 2 ^ 64) :
    (∃ n, RoundedCount q n) ↔ ∃ x : Binary64, x.IsNearest q ∧ ∃ k : ℕ, x.value = k := by
  constructor
  · rintro ⟨-, x, k, hx, hvalue, -⟩
    exact ⟨x, hx, k, hvalue⟩
  · rintro ⟨x, hx, k, hvalue⟩
    have hle : x.value ≤ 2 ^ 64 := by
      rw [← value_twoPow64]
      exact hx.ge_of_ge (by rw [value_twoPow64]; exact hq.le)
    refine ⟨_, x, k, hx, hvalue, ?_, rfl⟩
    rw [hvalue] at hle
    exact_mod_cast hle

/-- A value is used as the count that its number is taken for. -/
theorem coerceCount_eq_some_iff (hv : v.Spells q) : v.coerceCount = some n ↔ RoundedCount q n := by
  rcases nearest_of_spells hv with ⟨x, hx, hnearest⟩ | ⟨hnone, hlarge⟩
  · rw [coerceCount, hx, Option.bind_some, countOfDouble_eq_some_iff]
    constructor
    · rintro ⟨k, h⟩
      exact ⟨x, k, hnearest, h⟩
    · rintro ⟨y, k, hy, hvalue, h⟩
      exact ⟨k, (hnearest.value_eq hy).trans hvalue, h⟩
  · rw [coerceCount, hnone]
    exact iff_of_false (by simp) fun h => not_roundedCount_of_large hlarge ⟨n, h⟩

/-! ### Whole numbers -/

theorem exists_isNearest_natCast (hn : n < 2 ^ 64) : ∃ x : Binary64, x.IsNearest n := by
  rcases nearest_of_spells (.integer n ⟨by omega, by omega⟩) with ⟨x, -, hx⟩ | ⟨hnone, -⟩
  · exact ⟨x, by exact_mod_cast hx⟩
  · cases hnone

/-- Every whole number below `2 ^ 64` is taken for some count. -/
theorem exists_roundedCount_natCast (hn : n < 2 ^ 64) : ∃ m, RoundedCount n m := by
  have hlt : (n : ℚ) < 2 ^ 64 := by exact_mod_cast hn
  obtain ⟨x, hx⟩ := exists_isNearest_natCast hn
  rw [exists_roundedCount_iff_of_lt hlt]
  rcases Nat.le_total n (2 ^ 53) with hsmall | hlarge
  · obtain ⟨y, hy⟩ := exists_value_eq (hasDoubleBits_of_le hsmall) hn
    exact ⟨y, hy ▸ isNearest_value y, n, hy⟩
  · obtain ⟨y, hy⟩ := exists_value_eq (hasDoubleBits_of_le le_rfl) (by decide : 2 ^ 53 < 2 ^ 64)
    have hle : (2 ^ 53 : ℕ) ≤ x.value := by
      rw [← hy]
      exact hx.le_of_le (by rw [hy]; exact_mod_cast hlarge)
    exact ⟨x, hx, exists_natCast_of_le hle⟩

theorem roundedCount_self_iff (hn : n < 2 ^ 64) :
    RoundedCount n n ↔ HasDoubleBits n ∨ n = maxCount := by
  constructor
  · rintro ⟨x, k, -, hvalue, hk, hmin⟩
    rcases min_choice k maxCount with h | h
    · left
      rw [hmin, h]
      exact hasDoubleBits_of_value_eq hvalue
    · exact .inr (hmin.trans h)
  · rintro (h | rfl)
    · obtain ⟨x, hx⟩ := exists_value_eq h hn
      exact ⟨x, n, hx ▸ isNearest_value x, hx, hn.le, (Nat.min_eq_left (Nat.le_pred_of_lt hn)).symm⟩
    · have hquotient : ofQuotient false maxCount 1 = some twoPow64 := by decide +kernel
      have hnearest := isNearest_of_ofQuotient one_pos hquotient
      rw [signed, if_neg Bool.false_ne_true, Nat.cast_one, div_one] at hnearest
      exact ⟨twoPow64, 2 ^ 64, hnearest, by rw [value_twoPow64]; norm_num, le_rfl, rfl⟩

/-- The numbers that rounding does not turn into another count: counts of 53 significant bits and
the largest one, what is further below zero than half of the least double, what is more than half
of a gap above `2 ^ 64`, and the fractions between whose nearest double is no whole number. -/
structure KeptByRounding (q : ℚ) : Prop where
  count : ∀ n : ℕ, n < 2 ^ 64 → q = n → HasDoubleBits n ∨ n = maxCount
  negative : q < 0 → q * 2 ^ 1075 < -1
  large : 2 ^ 64 ≤ q → 2 ^ 64 + 2 ^ 11 < q
  fraction : 0 < q → q < 2 ^ 64 → (∀ n : ℕ, q ≠ n) →
    ∀ x : Binary64, x.IsNearest q → ∀ k : ℕ, x.value ≠ k

theorem keptByRounding_natCast (hn : n ≤ 2 ^ 53) : KeptByRounding n where
  count := fun m _ hq => .inl (hasDoubleBits_of_le ((Nat.cast_inj.1 hq) ▸ hn))
  negative := fun h => absurd h (not_lt.2 (Nat.cast_nonneg n))
  large := fun h => by
    have hle : (n : ℚ) ≤ 2 ^ 53 := by exact_mod_cast hn
    norm_num at h hle
    linarith
  fraction := fun _ _ hne => absurd rfl (hne n)

/-- A number is kept when it is taken for itself as a count, and otherwise for none. -/
theorem keptByRounding_iff :
    KeptByRounding q ↔ (∀ n : ℕ, n < 2 ^ 64 → q = n → RoundedCount q n) ∧
      ((∀ n : ℕ, n < 2 ^ 64 → q ≠ n) → ¬∃ n, RoundedCount q n) := by
  constructor
  · intro h
    refine ⟨fun n hn hq => ?_, fun hnone => ?_⟩
    · have hself := (roundedCount_self_iff hn).2 (h.count n hn hq)
      rwa [← hq] at hself
    · rcases lt_or_ge q 0 with hneg | hpos
      · rw [exists_roundedCount_iff_of_neg hneg, two_mul_unit]
        exact not_le.2 (h.negative hneg)
      rcases lt_or_ge q (2 ^ 64) with hlt | hge
      · have hne : ∀ n : ℕ, q ≠ n := fun n hq => by
          refine hnone n ?_ hq
          rw [hq] at hlt
          exact_mod_cast hlt
        have hzero : q ≠ 0 := by exact_mod_cast hne 0
        rw [exists_roundedCount_iff_of_lt hlt]
        rintro ⟨x, hx, k, hk⟩
        exact h.fraction (lt_of_le_of_ne hpos hzero.symm) hlt hne x hx k hk
      · rw [exists_roundedCount_iff_of_ge hge]
        exact not_le.2 (h.large hge)
  · rintro ⟨hcount, hnone⟩
    refine ⟨fun n hn hq => ?_, fun hneg => ?_, fun hge => ?_, fun _ hlt hne x hx k hk => ?_⟩
    · have hself := hcount n hn hq
      rw [hq] at hself
      exact (roundedCount_self_iff hn).1 hself
    · rw [← two_mul_unit, ← not_le, ← exists_roundedCount_iff_of_neg hneg]
      refine hnone fun n _ hq => ?_
      rw [hq] at hneg
      exact absurd hneg (not_lt.2 (Nat.cast_nonneg n))
    · rw [← not_le, ← exists_roundedCount_iff_of_ge hge]
      refine hnone fun n hn hq => ?_
      rw [hq] at hge
      exact absurd hn (not_lt.2 (by exact_mod_cast hge))
    · exact hnone (fun n _ => hne n) ((exists_roundedCount_iff_of_lt hlt).2 ⟨x, hx, k, hk⟩)

end Json

namespace CountKeyword
open Json Binary64

variable {v : Json} {q : ℚ}

/-- A value that spells a number is stored as that number when it is a count, and is rejected when
it is none. -/
def Exact (field : CountKeyword) (v : Json) (q : ℚ) : Prop :=
  (∀ n : ℕ, n < 2 ^ 64 → q = n → field.Stores v n) ∧
    ((∀ n : ℕ, n < 2 ^ 64 → q ≠ n) → field.Rejects v)

theorem rejects_iff_not_roundedCount (field : CountKeyword) (hv : v.Spells q) :
    field.Rejects v ↔ ¬∃ n, RoundedCount q n := by
  simp only [rejects_iff, Option.eq_none_iff_forall_ne_some, ne_eq, coerceCount_eq_some_iff hv,
    not_exists]

/-- A count of 53 significant bits, and the largest one, is stored as it is, whether it is written
as an integer or as a text of its digits. -/
theorem stores_of_hasDoubleBits (field : CountKeyword) {n : ℕ} (fits : fitsWord n)
    (h : HasDoubleBits n ∨ n = maxCount) :
    field.Stores (.number (.integer n fits)) n ∧ field.Stores (.string n.repr) n := by
  have hn : n < 2 ^ 64 := by exact_mod_cast fits.2
  have hrounded : RoundedCount n n := (roundedCount_self_iff hn).2 h
  have hinteger : Spells (.number (.integer n fits)) n := by
    exact_mod_cast Spells.integer (n : ℤ) fits
  exact ⟨stores_iff.2 ((coerceCount_eq_some_iff hinteger).2 hrounded),
    stores_iff.2 ((coerceCount_eq_some_iff (spells_repr n)).2 hrounded)⟩

/-- Counts are exact for what rounding keeps, and for nothing else. Every value is stored as the
count that its number is rounded to and rejected when it is rounded to none, and no count is
rejected. -/
theorem exact_iff_keptByRounding (field : CountKeyword) (hv : v.Spells q) :
    (field.Exact v q ↔ KeptByRounding q) ∧
      (∀ n, RoundedCount q n → field.Stores v n) ∧
      ((¬∃ n, RoundedCount q n) → field.Rejects v) ∧
      ∀ n : ℕ, n < 2 ^ 64 → q = n → ∃ m, RoundedCount q m := by
  refine ⟨?_, fun n hn => ?_, (field.rejects_iff_not_roundedCount hv).2, fun n hn hq => ?_⟩
  · simp only [Exact, stores_iff, coerceCount_eq_some_iff hv, field.rejects_iff_not_roundedCount hv]
    exact keptByRounding_iff.symm
  · exact stores_iff.2 ((coerceCount_eq_some_iff hv).2 hn)
  · rw [hq]
    exact exists_roundedCount_natCast hn

def scaledNumeral : Numeral where
  sign := .absent
  whole := ['1', '2']
  fraction := some ['5', '0']
  exponent := some ⟨'e', .plus, ['1'], .inl rfl, List.all_eq_true.1 (by decide), by decide⟩
  isDigit_whole := List.all_eq_true.1 (by decide)
  isDigit_fraction := List.all_eq_true.1 (by decide)
  ne_nil := by decide

theorem value_scaledNumeral : scaledNumeral.value = 125 := by
  have hwhole : Nat.ofDigitChars 10 ['1', '2'] 0 = 12 := rfl
  have hfraction : Nat.ofDigitChars 10 ['5', '0'] 0 = 50 := rfl
  have hexponent : Nat.ofDigitChars 10 ['1'] 0 = 1 := rfl
  simp only [scaledNumeral, Numeral.value, Numeral.magnitude, Exponent.value, Sign.isMinus, signed,
    Option.getD_some, Option.elim_some, hwhole, hfraction, hexponent]
  norm_num

def spacedText : Json := .string " 12.50e+1\n"

theorem spells_spacedText : spacedText.Spells 125 := by
  rw [← value_scaledNumeral]
  exact .text [' '] ['\n'] scaledNumeral rfl
    (List.all_eq_true.1 (by decide)) (List.all_eq_true.1 (by decide))

theorem exact_iff_keptByRounding_spaced :
    spacedText.Spells 125 ∧ KeptByRounding 125 ∧ minItems.Stores spacedText 125 := by
  have hkept : KeptByRounding 125 := by exact_mod_cast keptByRounding_natCast (n := 125) (by decide)
  have hexact := (exact_iff_keptByRounding minItems spells_spacedText).1.2 hkept
  exact ⟨spells_spacedText, hkept, hexact.1 125 (by decide) (by norm_num)⟩

def oddCount : Json := .number (.ofNat (2 ^ 53 + 1))

def pastCount : Json := .number (.double twoPow64)

/-- A count of 54 bits is stored as the one before it, and `2 ^ 64` as the largest count. -/
theorem not_exact_of_rounding :
    oddCount.Spells (2 ^ 53 + 1) ∧ ¬minItems.Exact oddCount (2 ^ 53 + 1) ∧
      (∃ rule, Rule.ofNode "n" (minItems.only oddCount) false false = .ok rule ∧
        rule.minCount = some (2 ^ 53)) ∧
    pastCount.Spells (2 ^ 64) ∧ ¬maxItems.Exact pastCount (2 ^ 64) ∧
      ∃ rule, Rule.ofNode "n" (maxItems.only pastCount) false false = .ok rule ∧
        rule.maxCount = some (2 ^ 64 - 1) := by
  have hodd : oddCount.coerceCount = some (2 ^ 53) := by decide +kernel
  have hpast : pastCount.coerceCount = some (2 ^ 64 - 1) := by decide +kernel
  refine ⟨?_, fun h => ?_, ?_, ?_, fun h => ?_, ?_⟩
  · exact_mod_cast Spells.integer ((2 ^ 53 + 1 : ℕ) : ℤ) _
  · have hstored := stores_iff.1 (h.1 (2 ^ 53 + 1) (by decide) (by norm_num))
    rw [hodd] at hstored
    exact absurd hstored (by decide)
  · exact (stores_iff.2 hodd).count?_only "n" false false
  · rw [← value_twoPow64]
    exact .double twoPow64
  · have hrejected := rejects_iff.1 (h.2 fun n hn hq => ?_)
    · rw [hpast] at hrejected
      cases hrejected
    · have hn' : (n : ℚ) < 2 ^ 64 := by exact_mod_cast hn
      exact absurd hq hn'.ne'
  · exact (stores_iff.2 hpast).count?_only "n" false false

end CountKeyword
end Rulebook
