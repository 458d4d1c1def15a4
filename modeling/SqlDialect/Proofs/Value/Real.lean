/-
  SqlDialect.Proofs.Value.Real
  ────────────────────────────────
  **REAL NUMBERS AMONG VALUES.**

  Whole numbers, floating-point numbers and fractions are cut towards zero.  No
  finite floating-point number is next to some of the whole numbers and
  fractions:

      v.hasFloat = true ↔ ¬ v.IsOverlarge
-/
import Mathlib.Data.Rat.Floor
import Mathlib.Tactic.Linarith
import SqlDialect.Proofs.Number.Rounding
import SqlDialect.Proofs.Value.Number

namespace SqlDialect

open SqlDialect.Number

/-! ## §1. Numbers cut towards zero. -/

/-- The whole number next to a number towards zero. -/
def truncation (q : ℚ) : ℤ := if 0 ≤ q then ⌊q⌋ else ⌈q⌉

/-- Truncating a quotient is dividing towards zero. -/
theorem truncation_div (n : ℤ) (d : ℕ) : truncation (n / d) = n.tdiv d := by
  unfold truncation
  split
  next h =>
    rw [Rat.floor_intCast_div_natCast]
    -- a quotient by zero is zero, as the division is
    obtain rfl | hd := Nat.eq_zero_or_pos d
    · simp
    have hn : 0 ≤ n := by
      rw [le_div_iff₀ (Nat.cast_pos.2 hd), zero_mul] at h
      exact_mod_cast h
    exact (Int.tdiv_eq_ediv_of_nonneg hn).symm
  next h =>
    -- below zero the ceiling is what is cut
    obtain rfl | hd := Nat.eq_zero_or_pos d
    · simp
    have hn : 0 ≤ -n := by
      rw [not_le, div_lt_iff₀ (Nat.cast_pos.2 hd), zero_mul] at h
      have hneg : n < 0 := by exact_mod_cast h
      omega
    rw [Rat.ceil_intCast_div_natCast, ← Int.tdiv_eq_ediv_of_nonneg hn, Int.neg_tdiv, neg_neg]

/-- A whole number is its own truncation. -/
theorem truncation_intCast (n : ℤ) : truncation n = n := by
  have h := truncation_div n 1
  rwa [Nat.cast_one, div_one, Nat.cast_one, Int.tdiv_one] at h

/-- A number is truncated to zero exactly if it is below one in size. -/
theorem truncation_eq_zero_iff {q : ℚ} : truncation q = 0 ↔ |q| < 1 := by
  rw [abs_lt, truncation]
  split
  next h =>
    rw [Int.floor_eq_zero_iff, Set.mem_Ico]
    exact ⟨fun hq => ⟨by linarith, hq.2⟩, fun hq => ⟨h, hq.2⟩⟩
  next h =>
    rw [Int.ceil_eq_zero_iff, Set.mem_Ioc]
    rw [not_le] at h
    exact ⟨fun hq => ⟨hq.1, by linarith⟩, fun hq => ⟨hq.1, h.le⟩⟩

/-- Truncation drops less than one. -/
theorem lt_natAbs_truncation (q : ℚ) : |q| < (truncation q).natAbs + 1 := by
  rw [Nat.cast_natAbs, Int.cast_abs, truncation]
  split
  next h =>
    rw [abs_of_nonneg h, abs_of_nonneg (Int.cast_nonneg (Int.floor_nonneg.2 h))]
    exact Int.lt_floor_add_one q
  next h =>
    have hneg : q ≤ 0 := (not_le.1 h).le
    have hceil : ((⌈q⌉ : ℤ) : ℚ) ≤ 0 := by exact_mod_cast Int.ceil_le.2 (by exact_mod_cast hneg)
    rw [abs_of_nonpos hneg, abs_of_nonpos hceil]
    have hlt := Int.ceil_lt_add_one q
    linarith

/-! ## §2. Whole numbers, floating-point numbers and fractions. -/

namespace Value

/-- Whole numbers, floating-point numbers and fractions.  Truth values and
decimals denote numbers too but are of other kinds. -/
def IsReal : Value → Prop
  | .int _ | .float _ | .fraction .. => True
  | _ => False

/-- The number that a value of one of these kinds denotes. -/
def real? (v : Value) : Option ℚ :=
  match v with
  | .int _ | .float _ | .fraction .. => v.number?
  | _ => none

/-- A whole number stands for itself. -/
theorem real?_int (n : ℤ) : (Value.int n).real? = some (n : ℚ) := by
  show some (ScaledRatio.toRat { num := n, den := 1 }) = _
  rw [ScaledRatio.toRat, Nat.cast_one, div_one, zpow_zero, mul_one]

/-- A fraction stands for its quotient. -/
theorem real?_fraction (n : ℤ) (d : ℕ) : (Value.fraction n d).real? = some (n / d : ℚ) := by
  show some (ScaledRatio.toRat { num := n, den := d }) = _
  rw [ScaledRatio.toRat, zpow_zero, mul_one]

/-- A float stands for its ratio, if it is finite. -/
theorem real?_float (x : Binary64) :
    (Value.float x).real? = x.ratio?.map fun r => (r.1 / r.2 : ℚ) := by
  show (x.ratio?.map _).map _ = _
  cases x.ratio? with
  | none => rfl
  | some r =>
      show some (ScaledRatio.toRat { num := r.1, den := r.2 }) = _
      rw [ScaledRatio.toRat, zpow_zero, mul_one]
      rfl

/-- No floating-point number is next to the whole number or fraction. -/
def IsOverlarge : Value → Prop
  | .int n => Binary64.overflowThreshold ≤ |(n : ℚ)|
  | .fraction n d => Binary64.overflowThreshold ≤ |(n / d : ℚ)|
  | _ => False

/-- A finite floating-point number is next to the whole number or fraction. -/
def hasFloat : Value → Bool
  | .int n => (Binary64.ofInt n).isFinite
  | .fraction n d => (Binary64.ofRatio false n.natAbs d).isFinite
  | _ => true

/-- A float is next to every value but the overlarge ones. -/
theorem hasFloat_iff {v : Value} (hv : ∀ n d, v = .fraction n d → 0 < d) :
    v.hasFloat = true ↔ ¬ v.IsOverlarge := by
  cases v with
  | int n =>
      show (Binary64.ofInt n).isFinite = true ↔ _
      rw [Binary64.ofInt, Binary64.isFinite_ofRatio_iff _ Nat.one_pos, Nat.cast_one, div_one,
        Nat.cast_natAbs, Int.cast_abs, ← not_le]
      rfl
  | fraction n d =>
      show (Binary64.ofRatio false n.natAbs d).isFinite = true ↔ _
      rw [Binary64.isFinite_ofRatio_iff _ (hv n d rfl), Nat.cast_natAbs, Int.cast_abs, ← not_le,
        ← Nat.abs_cast d, ← abs_div]
      rfl
  | _ => exact iff_of_true rfl id

/-- A value that is too large for floats is a number. -/
theorem IsOverlarge.isReal {v : Value} (h : v.IsOverlarge) : v.IsReal := by
  cases v <;> first | exact trivial | exact h

/-- A value that is too large for floats reaches the threshold. -/
theorem IsOverlarge.exists_real? {v : Value} (h : v.IsOverlarge) :
    ∃ q, v.real? = some q ∧ Binary64.overflowThreshold ≤ |q| := by
  cases v with
  | int n => exact ⟨n, real?_int n, h⟩
  | fraction n d => exact ⟨n / d, real?_fraction n d, h⟩
  | _ => exact h.elim

/-- A number that is too large is out of range. -/
theorem IsOverlarge.lt_natAbs {v : Value} (h : v.IsOverlarge) {q : ℚ} (hq : v.real? = some q) :
    1000000 < (truncation q).natAbs := by
  obtain ⟨q', hq', hlarge⟩ := h.exists_real?
  obtain rfl := Option.some.inj (hq.symm.trans hq')
  have hcast : (1000001 : ℚ) < (truncation q).natAbs + 1 := calc (1000001 : ℚ)
    _ ≤ 2 ^ 20 := by norm_num
    _ ≤ 2 ^ 1023 := pow_le_pow_right₀ one_le_two (by decide)
    _ < Binary64.overflowThreshold := Binary64.overflowThreshold_bounds.1
    _ ≤ |q| := hlarge
    _ < (truncation q).natAbs + 1 := lt_natAbs_truncation q
  have hnat : 1000001 < (truncation q).natAbs + 1 := by exact_mod_cast hcast
  omega

end Value

end SqlDialect
