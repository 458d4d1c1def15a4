/-
  SqlDialect.Proofs.Number.Rounding
  ────────────────────────────────
  **WHEN A QUOTIENT IS TOO LARGE.**

  A quotient has a finite floating-point value next to it below a threshold
  half a unit above the greatest one, and none from there on; the tie goes to
  infinity, as the greatest significand is odd:

      (ofRatio negative num den).isFinite ↔ num / den < 2^1024 - 2^970
-/
import Mathlib.Algebra.Order.Field.Power
import Mathlib.Algebra.Order.Field.Rat
import Mathlib.Tactic.Linarith
import SqlDialect.Number.Binary64

namespace SqlDialect.Number

/-! ## §1. Rounding to a whole number. -/

/-- A quotient is rounded up from an odd number as soon as it is halfway to the
next one. -/
theorem lt_roundDiv_iff {num den k : ℕ} (hden : 0 < den) (hodd : k % 2 = 1) :
    k < roundDiv num den ↔ (2 * k + 1) * den ≤ 2 * num := by
  have hsplit : den * (num / den) + num % den = num := Nat.div_add_mod num den
  have hrest : num % den < den := Nat.mod_lt num hden
  unfold roundDiv
  dsimp only
  generalize num / den = q at *
  generalize num % den = r at *
  -- the quotient is rounded to `q` or `q + 1`, so only `q = k` looks at the rest
  obtain hlt | rfl | hgt := Nat.lt_trichotomy q k
  · have hle : den * (q + 1) ≤ den * k := Nat.mul_le_mul_left den hlt
    refine iff_of_false ?_ (by nlinarith)
    split <;> omega
  · have hhalf : (2 * q + 1) * den ≤ 2 * num ↔ den ≤ 2 * r := by
      rw [← hsplit]
      constructor <;> intro h <;> nlinarith
    rw [hhalf]
    split <;> omega
  · have hle : den * (k + 1) ≤ den * q := Nat.mul_le_mul_left den hgt
    refine iff_of_true ?_ (by nlinarith)
    split <;> omega

/-- What is below a whole number is rounded to it at most. -/
theorem roundDiv_le {num den k : ℕ} (h : num < k * den) : roundDiv num den ≤ k := by
  have hquotient : num / den < k := Nat.div_lt_of_lt_mul (by rwa [mul_comm])
  unfold roundDiv
  dsimp only
  split <;> omega

namespace Binary64

variable {num den : ℕ} {e : ℤ}

/-! ## §2. The exponent. -/

/-- The power that is computed is the power. -/
theorem power_two_eq (n : ℕ) : ((power 2 n : ℕ) : ℚ) = 2 ^ n := by
  show ((2 ^ n : ℕ) : ℚ) = 2 ^ n
  push_cast
  rfl

/-- A ratio fits at an exponent exactly if 53 binary digits from there on reach
above it. -/
theorem fitsAt_iff (hden : 0 < den) (e : ℤ) :
    fitsAt num den e = true ↔ (num : ℚ) / den < 2 ^ (53 + e) := by
  have hden' : (0 : ℚ) < den := Nat.cast_pos.2 hden
  have hbits : ((2 : ℚ) ^ (53 : ℤ)) = 2 ^ 53 := zpow_natCast 2 53
  have hfits : fitsAt num den e = true ↔
      (num : ℚ) * 2 ^ (-e).toNat < 2 ^ 53 * (den * 2 ^ e.toNat) := by
    rw [fitsAt, decide_eq_true_iff, ← power_two_eq 53, ← power_two_eq e.toNat,
      ← power_two_eq (-e).toNat]
    exact_mod_cast Iff.rfl
  rw [hfits, zpow_add₀ two_ne_zero, hbits, div_lt_iff₀ hden']
  obtain ⟨k, rfl | rfl⟩ := e.eq_nat_or_neg
  · have hk : (-(k : ℤ)).toNat = 0 := by omega
    rw [hk, Int.toNat_natCast, pow_zero, mul_one, zpow_natCast, mul_assoc, mul_comm (den : ℚ)]
  · have hk : (-(k : ℤ)).toNat = 0 := by omega
    have hpos : (0 : ℚ) < 2 ^ k := pow_pos two_pos k
    rw [hk, neg_neg, Int.toNat_natCast, pow_zero, mul_one, zpow_neg, zpow_natCast,
      ← div_eq_mul_inv, div_mul_eq_mul_div, lt_div_iff₀ hpos]

/-- The binary logarithm rounds down. -/
theorem two_zpow_log2_le {n : ℕ} (hn : 0 < n) : (2 : ℚ) ^ (n.log2 : ℤ) ≤ n := by
  rw [zpow_natCast]
  exact_mod_cast Nat.log2_self_le (Nat.ne_of_gt hn)

/-- The binary logarithm is off by less than one. -/
theorem lt_two_zpow_log2 (n : ℕ) : (n : ℚ) < 2 ^ ((n.log2 : ℤ) + 1) := by
  have h : n < 2 ^ (n.log2 + 1) := Nat.lt_log2_self
  exact_mod_cast h

/-- Logarithms bound a quotient from above. -/
theorem ratio_lt (hden : 0 < den) :
    (num : ℚ) / den < 2 ^ ((num.log2 : ℤ) - den.log2 + 1) := by
  have hsum : (num.log2 : ℤ) + 1 = num.log2 - den.log2 + 1 + den.log2 := by omega
  rw [div_lt_iff₀ (Nat.cast_pos.2 hden)]
  calc (num : ℚ)
    _ < 2 ^ ((num.log2 : ℤ) - den.log2 + 1) * 2 ^ (den.log2 : ℤ) := by
        rw [← zpow_add₀ two_ne_zero, ← hsum]
        exact lt_two_zpow_log2 num
    _ ≤ 2 ^ ((num.log2 : ℤ) - den.log2 + 1) * den :=
        mul_le_mul_of_nonneg_left (two_zpow_log2_le hden) (zpow_pos two_pos _).le

/-- Logarithms bound a quotient from below. -/
theorem lt_ratio (hnum : 0 < num) (hden : 0 < den) :
    (2 : ℚ) ^ ((num.log2 : ℤ) - den.log2 - 1) < num / den := by
  have hsum : (num.log2 : ℤ) = num.log2 - den.log2 - 1 + (den.log2 + 1) := by omega
  rw [lt_div_iff₀ (Nat.cast_pos.2 hden)]
  calc (2 : ℚ) ^ ((num.log2 : ℤ) - den.log2 - 1) * den
    _ < 2 ^ ((num.log2 : ℤ) - den.log2 - 1) * 2 ^ ((den.log2 : ℤ) + 1) :=
        mul_lt_mul_of_pos_left (lt_two_zpow_log2 den) (zpow_pos two_pos _)
    _ ≤ num := by
        rw [← zpow_add₀ two_ne_zero, ← hsum]
        exact two_zpow_log2_le hnum

/-- Every ratio fits the exponent that is chosen for it. -/
theorem fitsAt_exponentFor (hden : 0 < den) : fitsAt num den (exponentFor num den) = true := by
  unfold exponentFor
  dsimp only
  generalize he : max minExponent ((num.log2 : ℤ) - den.log2 - 53) = e
  split
  next hfits => exact hfits
  next =>
    have hexp : (num.log2 : ℤ) - den.log2 + 1 ≤ 53 + (e + 1) := by omega
    rw [fitsAt_iff hden]
    exact (ratio_lt hden).trans_le (zpow_le_zpow_right₀ one_le_two hexp)

/-- **The exponent is the least at which the quotient fits.**  For numbers below
one it may be the least of all. -/
theorem exponentFor_le_iff (hden : 0 < den) (he : -52 ≤ e) :
    exponentFor num den ≤ e ↔ fitsAt num den e = true := by
  have hmono : ∀ {a b : ℤ}, a ≤ b → fitsAt num den a = true → fitsAt num den b = true := by
    intro a b hab ha
    rw [fitsAt_iff hden] at ha ⊢
    exact ha.trans_le (zpow_le_zpow_right₀ one_le_two (by omega))
  refine ⟨fun h => hmono h (fitsAt_exponentFor hden), fun hfits => ?_⟩
  -- the quotient has too many digits for an exponent that is too small
  have hdigits : (num.log2 : ℤ) - den.log2 - 1 < 53 + e := by
    obtain rfl | hnum := Nat.eq_zero_or_pos num
    · rw [Nat.log2_zero]
      omega
    · rw [fitsAt_iff hden] at hfits
      exact (zpow_lt_zpow_iff_right₀ one_lt_two).1 ((lt_ratio hnum hden).trans hfits)
  have hleast : minExponent = -1074 := rfl
  unfold exponentFor
  dsimp only
  generalize he' : max minExponent ((num.log2 : ℤ) - den.log2 - 53) = e'
  split
  next => omega
  next hnot =>
    have hne : ¬ e ≤ e' := fun hle => hnot (hmono hle hfits)
    omega

/-! ## §3. The significand. -/

/-- The significand that a quotient is rounded to, before it is carried. -/
def significandFor (num den : ℕ) : ℕ :=
  roundDiv (num * power 2 (-exponentFor num den).toNat) (den * power 2 (exponentFor num den).toNat)

/-- The value is finite if its exponent is small enough after the carry. -/
theorem isFinite_ofRatio (negative : Bool) (num den : ℕ) :
    (ofRatio negative num den).isFinite = true ↔
      exponentFor num den + (if significandFor num den = power 2 53 then 1 else 0)
        ≤ maxExponent := by
  unfold ofRatio
  dsimp only
  rw [← significandFor]
  -- rounding up may carry into the next exponent
  by_cases hcarry : significandFor num den = power 2 53
  · rw [if_pos hcarry, if_pos hcarry]
    dsimp only
    split
    next h => exact iff_of_false nofun (not_le.2 h)
    next h => exact iff_of_true (by split <;> rfl) (not_lt.1 h)
  · rw [if_neg hcarry, if_neg hcarry, add_zero]
    dsimp only
    split
    next h => exact iff_of_false nofun (not_le.2 h)
    next h => exact iff_of_true (by split <;> rfl) (not_lt.1 h)

/-! ## §4. The threshold. -/

/-- The least magnitude that is rounded to infinity: half a unit above the
greatest value. -/
def overflowThreshold : ℚ := 2 ^ 1024 - 2 ^ 970

/-- The threshold lies between two powers of two. -/
theorem overflowThreshold_bounds :
    (2 : ℚ) ^ 1023 < overflowThreshold ∧ overflowThreshold < 2 ^ 1024 := by
  have hlow : (2 : ℚ) ^ 1023 = 2 ^ 53 * 2 ^ 970 := by rw [← pow_add]
  have hhigh : (2 : ℚ) ^ 1024 = 2 ^ 54 * 2 ^ 970 := by rw [← pow_add]
  have hunit : ∀ unit : ℚ, 0 < unit →
      2 ^ 53 * unit < 2 ^ 54 * unit - unit ∧ 2 ^ 54 * unit - unit < 2 ^ 54 * unit :=
    fun unit hpos => ⟨by linarith, by linarith⟩
  rw [overflowThreshold, hlow, hhigh]
  exact hunit _ (pow_pos two_pos 970)

/-- The greatest significand is odd, so halfway above it is rounded up. -/
theorem lt_roundDiv_top_iff (hden : 0 < den) :
    2 ^ 53 - 1 < roundDiv num (den * power 2 971) ↔ overflowThreshold ≤ (num : ℚ) / den := by
  have hden' : (0 : ℚ) < den := Nat.cast_pos.2 hden
  have hthreshold : overflowThreshold = (2 ^ 54 - 1) * 2 ^ 970 := by
    rw [overflowThreshold, sub_mul, one_mul, ← pow_add]
  have hcast : (2 * (2 ^ 53 - 1) + 1) * (den * power 2 971) ≤ 2 * num ↔
      (2 ^ 54 - 1) * (den * (2 ^ 970 * 2)) ≤ 2 * (num : ℚ) := by
    have hodd : ((2 ^ 54 - 1 : ℕ) : ℚ) = 2 ^ 54 - 1 := by norm_num
    rw [← pow_succ, ← power_two_eq 971, ← hodd]
    exact_mod_cast Iff.rfl
  rw [lt_roundDiv_iff (Nat.mul_pos hden (power_pos two_pos 971)) rfl, hcast, le_div_iff₀ hden',
    hthreshold]
  generalize (2 : ℚ) ^ 970 = unit
  constructor <;> intro h <;> linarith

/-- At the greatest exponent the significand is carried from the threshold on. -/
theorem significandFor_eq_iff (hden : 0 < den) (h : exponentFor num den = 971) :
    significandFor num den = power 2 53 ↔ overflowThreshold ≤ (num : ℚ) / den := by
  have hnum : num * power 2 (-971 : ℤ).toNat = num := Nat.mul_one num
  have hfits : fitsAt num den 971 = true := h ▸ fitsAt_exponentFor hden
  have hsmall := of_decide_eq_true hfits
  rw [hnum] at hsmall
  have hround : roundDiv num (den * power 2 971) ≤ 2 ^ 53 := roundDiv_le hsmall
  rw [significandFor, h, hnum, ← lt_roundDiv_top_iff hden]
  show roundDiv num (den * power 2 971) = 2 ^ 53 ↔ _
  omega

/-- **A quotient is rounded to a finite value below the threshold only.** -/
theorem isFinite_ofRatio_iff (negative : Bool) (hden : 0 < den) :
    (ofRatio negative num den).isFinite = true ↔ (num : ℚ) / den < overflowThreshold := by
  have hmax : maxExponent = 971 := rfl
  obtain ⟨hlow, hhigh⟩ := overflowThreshold_bounds
  have hle : ∀ {k : ℤ}, -52 ≤ k →
      (exponentFor num den ≤ k ↔ (num : ℚ) / den < 2 ^ (53 + k)) := fun hk => by
    rw [exponentFor_le_iff hden hk, fitsAt_iff hden]
  have hbelow : exponentFor num den ≤ 970 ↔ (num : ℚ) / den < 2 ^ 1023 := hle (by decide)
  have hat : exponentFor num den ≤ 971 ↔ (num : ℚ) / den < 2 ^ 1024 := hle (by decide)
  rw [isFinite_ofRatio]
  -- below the greatest exponent it is finite, above it is not
  obtain hexp | hexp | hexp := lt_trichotomy (exponentFor num den) 971
  · refine iff_of_true (by rw [hmax]; split <;> omega) ?_
    exact (hbelow.1 (by omega)).trans hlow
  · -- the carry decides
    rw [hexp, hmax, ← not_le, ← significandFor_eq_iff hden hexp]
    split
    next h => exact iff_of_false (by omega) (not_not.2 h)
    next h => exact iff_of_true (by omega) h
  · refine iff_of_false (by rw [hmax]; split <;> omega) fun hlt => ?_
    exact absurd (hat.2 (hlt.trans hhigh)) (by omega)

end Binary64

end SqlDialect.Number
