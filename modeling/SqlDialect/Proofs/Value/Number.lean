/-
  SqlDialect.Proofs.Value.Number
  ────────────────────────────────
  **THE NUMBER THAT A VALUE DENOTES.**

  Truth values, whole numbers, floats, decimals and fractions denote rational
  numbers.  Each kind is compared with one in its own way; all of these ways
  ask whether the number that is denoted is 1:

      v.isOne? = some (decide (v.number? = some 1))
-/
import Mathlib.Algebra.Field.Rat
import Mathlib.Algebra.Order.Field.Basic
import Mathlib.Algebra.Order.Ring.Rat
import SqlDialect.Proofs.Number.Digits
import SqlDialect.Value.Basic

namespace SqlDialect

open SqlDialect.Number

/-! ## §1. Numbers. -/

namespace Value

/-- The rational number of a fraction times a power of ten. -/
def ScaledRatio.toRat (r : ScaledRatio) : ℚ :=
  r.num / r.den * 10 ^ r.exponent

/-- The number that a value denotes; infinities and NaNs denote none. -/
def number? (v : Value) : Option ℚ :=
  v.ratio?.map ScaledRatio.toRat

/-- The value can be compared with one.  A signaling NaN cannot; a fraction is
in lowest terms. -/
def IsComparable : Value → Prop
  | .decimal (.nan _ signaling _) => signaling = false
  | .fraction n d => 0 < d ∧ n.natAbs.Coprime d
  | _ => True

/-- A ratio is one exactly if both its parts are the same. -/
theorem ScaledRatio.toRat_eq_one_iff {n : ℤ} {d : ℕ} (hd : 0 < d) :
    ScaledRatio.toRat { num := n, den := d } = 1 ↔ n = d := by
  have hden : (d : ℚ) ≠ 0 := Nat.cast_ne_zero.2 (Nat.ne_of_gt hd)
  rw [toRat, zpow_zero, mul_one, div_eq_one_iff_eq hden]
  exact_mod_cast Iff.rfl

end Value

/-! ## §2. Ones of each kind. -/

namespace Number

/-- A float counts as one exactly if it is the number. -/
theorem Binary64.isOne_iff (x : Binary64) :
    x.isOne = true ↔ (Value.float x).number? = some 1 := by
  cases x with
  | nan => exact iff_of_false nofun nofun
  | infinity negative => exact iff_of_false nofun nofun
  | finite negative m e =>
      show _ ↔ some _ = some _
      rw [Option.some_inj, Value.ScaledRatio.toRat_eq_one_iff (power_pos (by decide) _)]
      exact beq_iff_eq

/-- Ten to the power of `k` has `k + 1` digits. -/
theorem length_natText_power (k : ℕ) : (natText (power 10 k)).length = k + 1 := by
  have hle : (natText (power 10 k)).length ≤ k + 1 :=
    (length_natText_le_iff _ (Nat.succ_pos k)).2
      (Nat.pow_lt_pow_right (by decide) (Nat.lt_succ_self k))
  have hpos : 0 < (natText (power 10 k)).length :=
    List.length_pos_iff.2 (natText_ne_nil _)
  have hlt : 0 < k → ¬ (natText (power 10 k)).length ≤ k := fun hk h =>
    Nat.lt_irrefl _ ((length_natText_le_iff _ hk).1 h)
  omega

/-- A whole number with zeros behind it is no one; with places behind its point
it is a one exactly if it is the power of ten that belongs to the places. -/
theorem mul_zpow_eq_one_iff (n e : ℤ) :
    (n : ℚ) * 10 ^ e = 1 ↔ e ≤ 0 ∧ n = (power 10 (-e).toNat : ℕ) := by
  have hten : ∀ k : ℕ, ((10 : ℚ) ^ k) ≠ 0 := fun k => pow_ne_zero k (by decide)
  obtain ⟨k, rfl | rfl⟩ := e.eq_nat_or_neg
  · rw [zpow_natCast]
    cases k with
    | zero =>
        show (n : ℚ) * 10 ^ 0 = 1 ↔ (0 : ℤ) ≤ 0 ∧ n = 1
        rw [pow_zero, mul_one]
        exact ⟨fun h => ⟨le_refl _, by exact_mod_cast h⟩, fun h => by rw [h.2]; rfl⟩
    | succ k =>
        refine iff_of_false (fun h => ?_) (fun h => absurd h.1 (by omega))
        have hint : n * 10 ^ (k + 1) = 1 := by exact_mod_cast h
        rw [pow_succ, ← mul_assoc] at hint
        omega
  · have hpower : (-(-(k : ℤ))).toNat = k := by omega
    rw [zpow_neg, zpow_natCast, ← div_eq_mul_inv, div_eq_one_iff_eq (hten k), hpower]
    show (n : ℚ) = 10 ^ k ↔ _ ∧ n = ((10 ^ k : ℕ) : ℤ)
    -- a power of the base is a divisor of it, or a multiple
    constructor
    · intro h
      exact ⟨by omega, by exact_mod_cast h⟩
    · rintro ⟨-, rfl⟩
      push_cast
      rfl

/-- A decimal counts as one exactly if it is the number. -/
theorem Decimal.isOne_iff (d : Decimal) :
    d.isOne = true ↔ (Value.decimal d).number? = some 1 := by
  cases d with
  | infinity negative => exact iff_of_false nofun nofun
  | nan negative signaling payload => exact iff_of_false nofun nofun
  | finite negative c e =>
      have hnumber : (Value.decimal (.finite negative c e)).number?
          = some ((signed negative c : ℚ) * 10 ^ e) := by
        show some _ = some _
        rw [Value.ScaledRatio.toRat, Nat.cast_one, div_one]
      rw [hnumber, Option.some_inj, mul_zpow_eq_one_iff]
      cases negative with
      | true =>
          -- below zero is no one
          refine iff_of_false nofun fun ⟨_, h⟩ => ?_
          have hpos := power_pos (by decide : 0 < 10) (-e).toNat
          have hneg : signed true c = -(c : ℤ) := rfl
          omega
      | false =>
          have hsigned : signed false c = (c : ℤ) := rfl
          simp only [isOne, Bool.and_eq_true, decide_eq_true_eq, beq_iff_eq, hsigned,
            Int.natCast_inj]
          constructor
          · rintro ⟨⟨he, -⟩, hc⟩
            exact ⟨he, hc⟩
          · rintro ⟨he, rfl⟩
            exact ⟨⟨he, length_natText_power _⟩, rfl⟩

end Number

/-! ## §3. Ones. -/

namespace Value

/-- Of the fractions in lowest terms only one over one is a one. -/
theorem fraction_isOne_iff {n : ℤ} {d : ℕ} (hd : 0 < d) (h : n.natAbs.Coprime d) :
    (n == 1 && d == 1) = true ↔ (Value.fraction n d).number? = some 1 := by
  show _ ↔ some _ = some _
  rw [Option.some_inj, ScaledRatio.toRat_eq_one_iff hd, Bool.and_eq_true, beq_iff_eq, beq_iff_eq]
  constructor
  · rintro ⟨rfl, rfl⟩
    rfl
  · rintro rfl
    have hone : d = 1 := (Nat.coprime_self d).1 h
    exact ⟨by rw [hone]; rfl, hone⟩

/-- **A value is compared with one by the number that it denotes.** -/
theorem isOne?_eq {v : Value} (h : v.IsComparable) :
    v.isOne? = some (decide (v.number? = some 1)) := by
  have hdecide : ∀ {b : Bool}, (b = true ↔ v.number? = some 1) →
      b = decide (v.number? = some 1) := fun hb => by
    rw [Bool.eq_iff_iff, hb, decide_eq_true_iff]
  cases v with
  | bool b =>
      refine congrArg some (hdecide ?_)
      show _ ↔ some _ = some _
      rw [Option.some_inj, ScaledRatio.toRat_eq_one_iff Nat.one_pos]
      cases b <;> decide
  | int n =>
      refine congrArg some (hdecide ?_)
      show _ ↔ some _ = some _
      rw [Option.some_inj, ScaledRatio.toRat_eq_one_iff Nat.one_pos, beq_iff_eq]
      rfl
  | float x => exact congrArg some (hdecide x.isOne_iff)
  | decimal d =>
      have hd := hdecide d.isOne_iff
      rw [← hd]
      cases d with
      | finite negative c e => rfl
      | infinity negative => rfl
      -- a signaling one is not comparable
      | nan negative signaling payload =>
          obtain rfl : signaling = false := h
          rfl
  | fraction n d => exact congrArg some (hdecide (fraction_isOne_iff h.1 h.2))
  | null => rfl
  | text s => rfl
  | date d => rfl
  | time c o => rfl
  | moment m => rfl
  | list items => rfl
  | map entries => rfl
  | member e n v => rfl

end Value

end SqlDialect
