import Rulebook.Number.Power

/-!
Rounding a quotient of natural numbers to the nearest natural number, a half
going to the even neighbour.
-/

namespace Rulebook

/-- The natural number nearest to `a / d`; of two equally near ones, the even. -/
def roundHalfEven (a d : Nat) : Nat :=
  if 2 * (a % d) < d ∨ (2 * (a % d) = d ∧ a / d % 2 = 0) then a / d else a / d + 1

theorem div_le_roundHalfEven (a d : Nat) : a / d ≤ roundHalfEven a d := by
  unfold roundHalfEven; split <;> omega

theorem roundHalfEven_le (a d : Nat) : roundHalfEven a d ≤ a / d + 1 := by
  unfold roundHalfEven; split <;> omega

end Rulebook
