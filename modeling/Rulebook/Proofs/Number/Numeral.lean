import Mathlib.Algebra.Order.Field.Power
import Mathlib.Data.List.TakeWhile
import Rulebook.Number.Literal
import Rulebook.Proofs.Number.Nearest
import Rulebook.Text.Blank

/-!
Decimal numbers as they are written, and what they are read as: the nearest double, or infinite
when they are too large for one.
-/

namespace Rulebook

/-! ### How numbers are written -/

inductive Sign where
  | absent | plus | minus
deriving DecidableEq

namespace Sign

def text : Sign → List Char
  | absent => []
  | plus => ['+']
  | minus => ['-']

def isMinus : Sign → Bool
  | minus => true
  | _ => false

end Sign

structure Exponent where
  mark : Char
  sign : Sign
  digits : List Char
  mark_eq : mark = 'e' ∨ mark = 'E'
  isDigit : ∀ c ∈ digits, c.isDigit
  ne_nil : digits ≠ []

namespace Exponent

def text (e : Exponent) : List Char := e.mark :: (e.sign.text ++ e.digits)

def value (e : Exponent) : ℤ :=
  if e.sign.isMinus then -(Nat.ofDigitChars 10 e.digits 0 : ℕ)
  else (Nat.ofDigitChars 10 e.digits 0 : ℕ)

end Exponent

/-- A decimal number: digits, a point with more digits, and an exponent. Either side of the
point may be empty, but not both. -/
structure Numeral where
  sign : Sign
  whole : List Char
  fraction : Option (List Char)
  exponent : Option Exponent
  isDigit_whole : ∀ c ∈ whole, c.isDigit
  isDigit_fraction : ∀ c ∈ fraction.getD [], c.isDigit
  ne_nil : whole ++ fraction.getD [] ≠ []

namespace Numeral

def unsignedText (n : Numeral) : List Char :=
  n.whole ++ (n.fraction.elim [] ('.' :: ·) ++ n.exponent.elim [] Exponent.text)

def text (n : Numeral) : List Char := n.sign.text ++ n.unsignedText

def magnitude (n : Numeral) : ℚ :=
  (Nat.ofDigitChars 10 n.whole 0 +
    Nat.ofDigitChars 10 (n.fraction.getD []) 0 / 10 ^ (n.fraction.getD []).length) *
    10 ^ n.exponent.elim 0 Exponent.value

def value (n : Numeral) : ℚ := Binary64.signed n.sign.isMinus n.magnitude

def ofNat (n : ℕ) : Numeral where
  sign := .absent
  whole := Nat.toDigits 10 n
  fraction := none
  exponent := none
  isDigit_whole := fun _ hc => Nat.isDigit_of_mem_toDigits (by decide) (by decide) hc
  isDigit_fraction := fun _ hc => absurd hc List.not_mem_nil
  ne_nil := by simp

theorem value_ofNat (n : ℕ) : (ofNat n).value = n := by
  simp [value, magnitude, ofNat, Sign.isMinus, Binary64.signed]

theorem text_ofNat (n : ℕ) : (ofNat n).text = n.repr.toList := by
  simp [text, unsignedText, ofNat, Sign.text]

end Numeral

/-! ### Rounding a decimal number -/

namespace Binary64

theorem digits_bounds {n : ℕ} (hn : n ≠ 0) :
    10 ^ ((Nat.toDigits 10 n).length - 1) ≤ n ∧ n < 10 ^ (Nat.toDigits 10 n).length := by
  have hlength : 0 < (Nat.toDigits 10 n).length := Nat.length_toDigits_pos
  refine ⟨?_, (Nat.length_toDigits_le_iff (by decide) hlength).1 le_rfl⟩
  rcases Nat.eq_zero_or_pos ((Nat.toDigits 10 n).length - 1) with h | h
  · rw [h, pow_zero]
    exact Nat.pos_of_ne_zero hn
  · by_contra! hlt
    have hle := (Nat.length_toDigits_le_iff (by decide) h).2 hlt
    omega

variable {negative : Bool} {digits : ℕ} {e : ℤ}

/-- A number with more than 310 digits before the point is too large for a double. -/
theorem le_of_top (hn : digits ≠ 0) (htop : 310 < (Nat.toDigits 10 digits).length + e) :
    (2 ^ 1023 : ℚ) ≤ digits * 10 ^ e := by
  -- The powers are too large to be evaluated, but they are fifth powers of ones that are not.
  have hpow : (2 ^ 1023 : ℚ) ≤ 10 ^ ((62 * 5 : ℕ) : ℤ) := by
    calc (2 ^ 1023 : ℚ) ≤ 2 ^ (205 * 5) := pow_le_pow_right₀ (by norm_num) (by norm_num)
      _ = (2 ^ 205) ^ 5 := pow_mul _ _ _
      _ ≤ (10 ^ 62) ^ 5 := pow_le_pow_left₀ (by positivity) (by norm_num) 5
      _ = 10 ^ ((62 * 5 : ℕ) : ℤ) := by rw [zpow_natCast, pow_mul]
  have hlength : 0 < (Nat.toDigits 10 digits).length := Nat.length_toDigits_pos
  have hdigits : (10 : ℚ) ^ (((Nat.toDigits 10 digits).length - 1 : ℕ) : ℤ) ≤ digits := by
    rw [zpow_natCast]
    exact_mod_cast (digits_bounds hn).1
  calc (2 ^ 1023 : ℚ) ≤ 10 ^ ((62 * 5 : ℕ) : ℤ) := hpow
    _ ≤ 10 ^ ((((Nat.toDigits 10 digits).length - 1 : ℕ) : ℤ) + e) :=
      zpow_le_zpow_right₀ (by norm_num) (by omega)
    _ = 10 ^ (((Nat.toDigits 10 digits).length - 1 : ℕ) : ℤ) * 10 ^ e := zpow_add₀ (by norm_num) _ _
    _ ≤ digits * 10 ^ e := mul_le_mul_of_nonneg_right hdigits (by positivity)

/-- A number that begins 330 digits after the point is less than half of the least double. -/
theorem le_one_of_top (hn : digits ≠ 0) (htop : (Nat.toDigits 10 digits).length + e < -330) :
    digits * 10 ^ e * (2 * unit : ℚ) ≤ 1 := by
  have hunit : (2 * unit : ℚ) ≤ 10 ^ ((66 * 5 : ℕ) : ℤ) := by
    calc (2 * unit : ℚ) = 2 ^ 1075 := two_mul_unit
      _ = (2 ^ 215) ^ 5 := by rw [← pow_mul]
      _ ≤ (10 ^ 66) ^ 5 := pow_le_pow_left₀ (by positivity) (by norm_num) 5
      _ = 10 ^ ((66 * 5 : ℕ) : ℤ) := by rw [zpow_natCast, pow_mul]
  have hdigits : (digits : ℚ) ≤ 10 ^ ((Nat.toDigits 10 digits).length : ℤ) := by
    rw [zpow_natCast]
    exact_mod_cast (digits_bounds hn).2.le
  have hsmall : (digits * 10 ^ e : ℚ) ≤ 10 ^ (-((66 * 5 : ℕ) : ℤ)) := by
    calc (digits * 10 ^ e : ℚ) ≤ 10 ^ ((Nat.toDigits 10 digits).length : ℤ) * 10 ^ e :=
          mul_le_mul_of_nonneg_right hdigits (by positivity)
      _ = 10 ^ ((Nat.toDigits 10 digits).length + e) := (zpow_add₀ (by norm_num) _ _).symm
      _ ≤ 10 ^ (-((66 * 5 : ℕ) : ℤ)) := zpow_le_zpow_right₀ (by norm_num) (by omega)
  calc digits * 10 ^ e * (2 * unit : ℚ) ≤
        10 ^ (-((66 * 5 : ℕ) : ℤ)) * 10 ^ ((66 * 5 : ℕ) : ℤ) :=
          mul_le_mul hsmall hunit (mul_nonneg zero_le_two (Nat.cast_nonneg _)) (by positivity)
    _ = 1 := by rw [← zpow_add₀ (by norm_num), neg_add_cancel, zpow_zero]

/-- A decimal number is rounded to the nearest double, unless it is too large for one. -/
theorem nearest_of_ofDecimal (negative : Bool) (digits : ℕ) (e : ℤ) :
    (∃ x, ofDecimal negative digits e = some x ∧
        x.IsNearest (signed negative (digits * 10 ^ e))) ∨
      ofDecimal negative digits e = none ∧ (2 ^ 1023 : ℚ) ≤ digits * 10 ^ e := by
  have hquotient : ∀ a d : ℕ, 0 < d → (a / d : ℚ) = digits * 10 ^ e →
      (∃ x, ofQuotient negative a d = some x ∧
        x.IsNearest (signed negative (digits * 10 ^ e))) ∨
      ofQuotient negative a d = none ∧ (2 ^ 1023 : ℚ) ≤ digits * 10 ^ e := by
    intro a d hd heq
    rw [← heq]
    cases h : ofQuotient negative a d with
    | none => exact .inr ⟨rfl, le_of_ofQuotient_eq_none hd h⟩
    | some x => exact .inl ⟨x, rfl, isNearest_of_ofQuotient hd h⟩
  unfold ofDecimal
  simp only
  split_ifs with hzero hlarge hsmall hwhole
  · refine .inl ⟨_, rfl, ?_⟩
    rw [hzero, Nat.cast_zero, zero_mul]
    exact isNearest_zero le_rfl (by rw [zero_mul]; exact zero_le_one)
  · exact .inr ⟨rfl, le_of_top hzero hlarge⟩
  · exact .inl ⟨_, rfl, isNearest_zero (by positivity) (le_one_of_top hzero hsmall)⟩
  · refine hquotient _ 1 one_pos ?_
    obtain ⟨k, rfl⟩ := Int.eq_ofNat_of_zero_le hwhole
    simp
  · refine hquotient _ _ (Nat.pow_pos (by decide)) ?_
    obtain ⟨k, rfl⟩ : ∃ k : ℕ, e = -k := ⟨(-e).toNat, by omega⟩
    simp [div_eq_mul_inv]

end Binary64

namespace Literal

theorem digitsValue_eq (s : List Char) : digitsValue s = Nat.ofDigitChars 10 s 0 := by
  simp only [digitsValue, Nat.ofDigitChars_eq_foldl, Nat.mul_comm, Char.reduceToNat]

theorem digitsValue_append (s t : List Char) :
    digitsValue (s ++ t) = digitsValue s * 10 ^ t.length + digitsValue t := by
  simp only [digitsValue_eq, Nat.ofDigitChars_append]
  rw [Nat.ofDigitChars_eq_ofDigitChars_zero, Nat.mul_comm]

end Literal

/-! ### Reading -/

theorem takeWhile_append_of_head {p : Char → Bool} {s t : List Char} (hs : ∀ c ∈ s, p c)
    (ht : ∀ c ∈ t.head?, ¬p c) : (s ++ t).takeWhile p = s := by
  rw [List.takeWhile_append_of_pos hs]
  cases t with
  | nil => simp
  | cons c rest => simp [ht c rfl]

theorem dropWhile_append_of_head {p : Char → Bool} {s t : List Char} (hs : ∀ c ∈ s, p c)
    (ht : ∀ c ∈ t.head?, ¬p c) : (s ++ t).dropWhile p = t := by
  rw [List.dropWhile_append_of_pos hs]
  cases t with
  | nil => simp
  | cons c rest => simp [ht c rfl]

namespace Literal

theorem exponent?_eq (e : Exponent) : exponent? (e.sign.text ++ e.digits) = some e.value := by
  have hall : e.digits.all Char.isDigit := List.all_eq_true.2 e.isDigit
  unfold exponent? Exponent.value
  cases e.sign with
  | plus => simp [Sign.text, Sign.isMinus, e.ne_nil, hall, digitsValue_eq]
  | minus => simp [Sign.text, Sign.isMinus, e.ne_nil, hall, digitsValue_eq]
  | absent =>
    have hhead : ∀ c ∈ e.digits.head?, c ≠ '+' ∧ c ≠ '-' := fun c hc => by
      have hdigit := e.isDigit c (List.mem_of_mem_head? hc)
      constructor <;> rintro rfl <;> simp at hdigit
    rw [Sign.text, List.nil_append]
    split
    rename_i negative digits hsplit
    split at hsplit
    case h_1 h => exact absurd rfl (hhead '+' (by simp [h])).1
    case h_2 h => exact absurd rfl (hhead '-' (by simp [h])).2
    case h_3 =>
      obtain ⟨rfl, rfl⟩ := Prod.mk.inj hsplit
      simp [Sign.isMinus, e.ne_nil, hall, digitsValue_eq]

end Literal

namespace Numeral

variable (n : Numeral)

/-- What is read after the digits. -/
theorem exponentText_cases (exponent : Option Exponent) :
    exponent = none ∧ exponent.elim [] Exponent.text = [] ∨
      ∃ e, exponent = some e ∧
        (exponent.elim [] Exponent.text = 'e' :: (e.sign.text ++ e.digits) ∨
          exponent.elim [] Exponent.text = 'E' :: (e.sign.text ++ e.digits)) := by
  cases exponent with
  | none => exact .inl ⟨rfl, rfl⟩
  | some e =>
    refine .inr ⟨e, rfl, e.mark_eq.imp (fun h => ?_) fun h => ?_⟩
    · simp [Exponent.text, h]
    · simp [Exponent.text, h]

theorem decimal?_unsignedText :
    Literal.decimal? n.unsignedText =
      some (Literal.digitsValue (n.whole ++ n.fraction.getD []),
        n.exponent.elim 0 Exponent.value - (n.fraction.getD []).length) := by
  obtain ⟨-, whole, fraction, exponent, hwhole, hfraction, hne⟩ := n
  have hmark : ∀ c ∈ (exponent.elim [] Exponent.text).head?, ¬c.isDigit := fun c hc => by
    rcases exponentText_cases exponent with ⟨-, h⟩ | ⟨e, -, h | h⟩
    · simp [h] at hc
    · obtain rfl : 'e' = c := by simpa [h] using hc
      decide
    · obtain rfl : 'E' = c := by simpa [h] using hc
      decide
  have htail : ∀ c ∈ (fraction.elim [] ('.' :: ·) ++ exponent.elim [] Exponent.text).head?,
      ¬c.isDigit := fun c hc => by
    cases fraction with
    | none => exact hmark c hc
    | some fraction =>
      obtain rfl : '.' = c := by simpa using hc
      decide
  simp only [Literal.decimal?, unsignedText, takeWhile_append_of_head hwhole htail,
    dropWhile_append_of_head hwhole htail]
  cases fraction with
  | none =>
    have hwhole' : whole ≠ [] := by simpa using hne
    rcases exponentText_cases exponent with ⟨rfl, h⟩ | ⟨e, rfl, h | h⟩ <;>
      simp [h, hwhole', Literal.exponent?_eq]
  | some fraction =>
    have hne' : whole = [] → fraction ≠ [] := by simpa using hne
    have htake := takeWhile_append_of_head hfraction hmark
    have hdrop := dropWhile_append_of_head hfraction hmark
    simp only [Option.getD_some] at htake hdrop
    simp only [Option.elim_some, List.cons_append, htake, hdrop, Option.getD_some]
    rcases exponentText_cases exponent with ⟨rfl, h⟩ | ⟨e, rfl, h | h⟩ <;>
      simpa [h, Literal.exponent?_eq] using hne'

/-- The digits and the power of ten that are read make up the number. -/
theorem digits_mul_eq_magnitude :
    (Literal.digitsValue (n.whole ++ n.fraction.getD []) : ℚ) *
      10 ^ (n.exponent.elim 0 Exponent.value - (n.fraction.getD []).length) = n.magnitude := by
  have hten : (10 : ℚ) ≠ 0 := by norm_num
  rw [Literal.digitsValue_append, magnitude, zpow_sub₀ hten, zpow_natCast,
    Literal.digitsValue_eq, Literal.digitsValue_eq]
  push_cast
  field_simp

/-- A number without sign is read as the nearest double, or as infinite. -/
theorem unsigned?_unsignedText (negative : Bool) :
    (∃ x, Literal.unsigned? negative n.unsignedText = some (.finite x) ∧
        x.IsNearest (Binary64.signed negative n.magnitude)) ∨
      Literal.unsigned? negative n.unsignedText = some (.infinite negative) ∧
        (2 ^ 1023 : ℚ) ≤ n.magnitude := by
  rw [Literal.unsigned?, decimal?_unsignedText, ← digits_mul_eq_magnitude]
  rcases Binary64.nearest_of_ofDecimal negative
    (Literal.digitsValue (n.whole ++ n.fraction.getD []))
    (n.exponent.elim 0 Exponent.value - (n.fraction.getD []).length) with
    ⟨x, hx, hnearest⟩ | ⟨hnone, hlarge⟩
  · exact .inl ⟨x, by simp [hx], hnearest⟩
  · exact .inr ⟨by simp [hnone], hlarge⟩

/-- What follows the sign begins with a digit or the point. -/
theorem exists_unsignedText :
    ∃ c rest, n.unsignedText = c :: rest ∧ (c.isDigit ∨ c = '.') := by
  cases hwhole : n.whole with
  | cons c rest =>
    have hc : c.isDigit := n.isDigit_whole c (by simp [hwhole])
    exact ⟨c, _, by rw [unsignedText, hwhole, List.cons_append], .inl hc⟩
  | nil =>
    have hne := n.ne_nil
    cases hfraction : n.fraction with
    | none => simp [hwhole, hfraction] at hne
    | some fraction =>
      refine ⟨'.', fraction ++ n.exponent.elim [] Exponent.text, ?_, .inr rfl⟩
      simp [unsignedText, hwhole, hfraction]

theorem read?_text :
    Literal.read? n.text = Literal.unsigned? n.sign.isMinus n.unsignedText := by
  unfold text
  cases n.sign with
  | plus => rfl
  | minus => rfl
  | absent =>
    obtain ⟨c, rest, htext, hc⟩ := n.exists_unsignedText
    have hsign : c ≠ '-' ∧ c ≠ '+' := by
      constructor <;> rintro rfl <;> simp at hc
    rw [Sign.text, List.nil_append, htext, Literal.read?]
    · rfl
    · exact fun _ h => hsign.1 (List.cons.inj h).1
    · exact fun _ h => hsign.2 (List.cons.inj h).1

/-- A written number is read as the nearest double, or as infinite when it is too large for
one. -/
theorem nearest_of_read :
    (∃ x, Literal.read? n.text = some (.finite x) ∧ x.IsNearest n.value) ∨
      Literal.read? n.text = some (.infinite n.sign.isMinus) ∧ (2 ^ 1023 : ℚ) ≤ |n.value| := by
  rw [read?_text, value]
  refine (n.unsigned?_unsignedText n.sign.isMinus).imp_right fun h => ⟨h.1, ?_⟩
  refine h.2.trans (le_trans (le_abs_self _) ?_)
  unfold Binary64.signed
  split
  · rw [abs_neg]
  · exact le_rfl

/-! ### Blanks around a number -/

theorem not_isBlank_of_isDigit {c : Char} (hc : c.isDigit) : ¬Text.isBlank c := by
  simp only [Char.isDigit_iff_toNat, Char.reduceToNat] at hc
  simp only [Text.isBlank, Text.blanks, List.any_cons, List.any_nil, Bool.or_false, Bool.or_eq_true,
    Bool.and_eq_true, decide_eq_true_eq]
  omega

theorem not_isBlank_of_mem_text : ∀ c ∈ n.text, ¬Text.isBlank c := by
  have hsign : ∀ sign : Sign, ∀ c ∈ sign.text, ¬Text.isBlank c := by
    intro sign c hc
    cases sign <;> simp [Sign.text] at hc <;> rw [hc] <;> decide
  have hdigits := fun c hc => not_isBlank_of_isDigit (n.isDigit_whole c hc)
  have hfraction := fun c hc => not_isBlank_of_isDigit (n.isDigit_fraction c hc)
  have hexponent : ∀ c ∈ n.exponent.elim [] Exponent.text, ¬Text.isBlank c := by
    cases n.exponent with
    | none => simp
    | some e =>
      simp only [Option.elim_some, Exponent.text, List.forall_mem_cons, List.forall_mem_append]
      refine ⟨?_, hsign e.sign, fun c hc => not_isBlank_of_isDigit (e.isDigit c hc)⟩
      rcases e.mark_eq with h | h <;> rw [h] <;> decide
  simp only [text, unsignedText, List.forall_mem_append]
  refine ⟨hsign n.sign, hdigits, ?_, hexponent⟩
  cases h : n.fraction with
  | none => simp
  | some fraction =>
    rw [h] at hfraction
    exact List.forall_mem_cons.2 ⟨by decide, hfraction⟩

theorem trim_text {before after : List Char} (hbefore : ∀ c ∈ before, Text.isBlank c)
    (hafter : ∀ c ∈ after, Text.isBlank c) : Text.trim (before ++ n.text ++ after) = n.text := by
  have hne : n.text ≠ [] := by
    obtain ⟨c, rest, htext, -⟩ := n.exists_unsignedText
    simp [text, htext]
  have hfirst : ∀ c ∈ (n.text ++ after).head?, ¬Text.isBlank c := fun c hc => by
    rw [List.head?_append_of_ne_nil _ hne] at hc
    exact n.not_isBlank_of_mem_text c (List.mem_of_mem_head? hc)
  have hlast : ∀ c ∈ n.text.reverse.head?, ¬Text.isBlank c := fun c hc =>
    n.not_isBlank_of_mem_text c (List.mem_reverse.1 (List.mem_of_mem_head? hc))
  rw [Text.trim, List.append_assoc, dropWhile_append_of_head hbefore hfirst, List.reverse_append,
    dropWhile_append_of_head (fun c hc => hafter c (List.mem_reverse.1 hc)) hlast,
    List.reverse_reverse]

end Numeral

end Rulebook
