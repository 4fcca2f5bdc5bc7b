import Rulebook.Proofs.Number.Nearest

/-! The whole numbers among the doubles: those with 53 significant bits. -/

namespace Rulebook

/-- A natural number with at most 53 significant bits. -/
def HasDoubleBits (n : ℕ) : Prop := ∃ m < 2 ^ 53, ∃ j, n = m * 2 ^ j

theorem hasDoubleBits_of_le {n : ℕ} (h : n ≤ 2 ^ 53) : HasDoubleBits n := by
  rcases h.lt_or_eq with hlt | rfl
  · exact ⟨n, hlt, 0, by rw [pow_zero, mul_one]⟩
  · exact ⟨1, by decide, 53, by rw [one_mul]⟩

namespace Binary64

variable {x : Binary64} {k m e : ℕ}

theorem two_pow_le_unit (h : e ≤ 1074) : 2 ^ e ≤ unit := by
  unfold unit
  revert h
  generalize 1074 = j
  exact fun h => Nat.pow_le_pow_right (by decide) h

theorem value_eq_natCast_iff : x.value = k ↔ x.scaled = k * unit := by
  rw [value, div_eq_iff unit_cast_pos.ne']
  exact_mod_cast Iff.rfl

theorem magnitude_of_value_eq (h : x.value = k) : x.magnitude = k * unit := by
  rw [← natAbs_scaled, value_eq_natCast_iff.1 h]
  exact_mod_cast Int.natAbs_natCast (k * unit)

/-- Shifting the bits up until the leading one is in place gives a double. -/
theorem exists_scaled_eq (hm : m < 2 ^ 53) (he : e ≤ 2045) :
    ∃ x : Binary64, x.scaled = (m * 2 ^ e : ℕ) := by
  induction e generalizing m with
  | zero => exact ⟨⟨false, m, 0, hm, .inr rfl, he⟩, rfl⟩
  | succ e ih =>
    by_cases hfull : 2 ^ 52 ≤ m
    · exact ⟨⟨false, m, e + 1, hm, .inl hfull, he⟩, rfl⟩
    · obtain ⟨x, hx⟩ := ih (m := 2 * m) (by omega) (by omega)
      exact ⟨x, by rw [hx]; ring_nf⟩

/-- A number below `2 ^ 64` with 53 significant bits is a double. -/
theorem exists_value_eq (hk : HasDoubleBits k) (hlt : k < 2 ^ 64) :
    ∃ x : Binary64, x.value = k := by
  obtain ⟨m, hm, j, rfl⟩ := hk
  have hj : ∃ i ≤ 64, m * 2 ^ j = m * 2 ^ i := by
    rcases Nat.eq_zero_or_pos m with rfl | hpos
    · exact ⟨0, by decide, by simp⟩
    · refine ⟨j, ?_, rfl⟩
      have hpow : 2 ^ j < 2 ^ 64 := (Nat.le_mul_of_pos_left _ hpos).trans_lt hlt
      exact ((Nat.pow_lt_pow_iff_right (by decide)).1 hpow).le
  obtain ⟨i, hi, heq⟩ := hj
  obtain ⟨x, hx⟩ := exists_scaled_eq (e := i + 1074) hm (by omega)
  refine ⟨x, value_eq_natCast_iff.2 ?_⟩
  rw [hx, heq, ← two_pow_mul_unit]
  push_cast
  ring

/-- A double whose last unit is whole. -/
theorem magnitude_of_le_scale (h : 1074 ≤ x.scale) :
    x.magnitude = x.significand * 2 ^ (x.scale - 1074) * unit := by
  rw [mul_assoc, two_pow_mul_unit, Nat.sub_add_cancel h, magnitude]

/-- A whole double has 53 significant bits. -/
theorem hasDoubleBits_of_value_eq (h : x.value = k) : HasDoubleBits k := by
  have hmagnitude := magnitude_of_value_eq h
  have hlt := x.significand_lt
  rcases Nat.le_total 1074 x.scale with hscale | hscale
  · refine ⟨x.significand, hlt, x.scale - 1074, Nat.eq_of_mul_eq_mul_right unit_pos ?_⟩
    rw [← hmagnitude, magnitude_of_le_scale hscale]
  · -- The last unit is at most one, so that the number is no larger than the significand.
    refine hasDoubleBits_of_le (le_trans ?_ hlt.le)
    refine Nat.le_of_mul_le_mul_right ?_ unit_pos
    rw [← hmagnitude]
    exact Nat.mul_le_mul_left _ (two_pow_le_unit hscale)

/-- From `2 ^ 53` on every double is whole. -/
theorem exists_natCast_of_le (h : (2 ^ 53 : ℕ) ≤ x.value) : ∃ k : ℕ, x.value = k := by
  have hscaled : (2 ^ 53 * unit : ℕ) ≤ x.scaled := by
    rw [value, le_div_iff₀ unit_cast_pos] at h
    exact_mod_cast h
  have hnatAbs := x.natAbs_scaled
  have hscale : 1074 ≤ x.scale := by
    by_contra! hlt
    have hsmall : x.magnitude < 2 ^ 53 * unit :=
      Nat.mul_lt_mul_of_lt_of_le x.significand_lt (two_pow_le_unit hlt.le) unit_pos
    omega
  refine ⟨x.significand * 2 ^ (x.scale - 1074), value_eq_natCast_iff.2 ?_⟩
  have hnonneg : x.scaled = x.scaled.natAbs := by omega
  rw [hnonneg, hnatAbs, magnitude_of_le_scale hscale]
  exact Int.natCast_mul _ _

theorem value_of_scale (hx : x.negative = false) (hscale : x.scale = e + 1074) :
    x.value = (x.significand * 2 ^ e : ℕ) := by
  have hmagnitude := magnitude_of_le_scale (x := x) (by omega)
  rw [hscale, Nat.add_sub_cancel] at hmagnitude
  have hscaled : x.scaled = x.magnitude := by simp [scaled, hx]
  rw [value_eq_natCast_iff, hscaled, hmagnitude]
  exact Int.natCast_mul _ _

theorem leadingBit_lt : 2 ^ 52 < 2 ^ 53 := by decide

def twoPow64 : Binary64 := ⟨false, 2 ^ 52, 1086, leadingBit_lt, .inl (Nat.le_refl _), by decide⟩

theorem value_twoPow64 : twoPow64.value = 2 ^ 64 := by
  rw [value_of_scale (e := 12) rfl rfl]
  norm_num [twoPow64]

end Binary64
end Rulebook
