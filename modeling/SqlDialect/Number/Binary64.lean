/-
  SqlDialect.Number.Binary64
  ────────────────────────────────
  **BINARY FLOATING POINT WITH 53 BITS.**

  A finite value is ± significand · 2^exponent; the significand is below
  2^53, and at least 2^52 unless the exponent is the least one, -1074.
  Everything is computed exactly on naturals and rounded once, to nearest
  and on a tie to the even significand.
-/

namespace SqlDialect.Number

/-- A binary floating-point value of 64 bits. -/
inductive Binary64 where
  | nan
  | infinity (negative : Bool)
  | finite (negative : Bool) (significand : Nat) (exponent : Int)
  deriving Repr, DecidableEq

/-- The base multiplied with itself as often as the exponent tells. -/
def power (base exponent : Nat) : Nat := Nat.pow base exponent

/-- One factor more. -/
theorem power_succ (base n : Nat) : power base (n + 1) = power base n * base := rfl

/-- A power of a positive number is positive. -/
theorem power_pos {base : Nat} (h : 0 < base) (n : Nat) : 0 < power base n :=
  Nat.pow_pos h

/-- The whole number nearest to a quotient; on a tie the even one. -/
def roundDiv (num den : Nat) : Nat :=
  let q := num / den
  let r := num % den
  if 2 * r < den ∨ (2 * r = den ∧ q % 2 = 0) then q else q + 1

namespace Binary64

/-! ## §1. Rounding. -/

/-- The least exponent of a finite value. -/
def minExponent : Int := -1074

/-- The greatest exponent of a finite value. -/
def maxExponent : Int := 971

/-- `num / den` is below 2^53 · 2^e. -/
def fitsAt (num den : Nat) (e : Int) : Bool :=
  num * power 2 (-e).toNat < power 2 53 * (den * power 2 e.toNat)

/-- The exponent at which `num / den` has a significand of 53 bits, or the
least exponent. -/
def exponentFor (num den : Nat) : Int :=
  let e := max minExponent ((num.log2 : Int) - den.log2 - 53)
  if fitsAt num den e then e else e + 1

/-- The value nearest to `num / den`. -/
def ofRatio (negative : Bool) (num den : Nat) : Binary64 :=
  let e := exponentFor num den
  let m := roundDiv (num * power 2 (-e).toNat) (den * power 2 e.toNat)
  let (m, e) := if m = power 2 53 then (power 2 52, e + 1) else (m, e)
  if e > maxExponent then .infinity negative
  else if m = 0 then .finite negative 0 minExponent
  else .finite negative m e

/-- The value nearest to `digits · 10^exponent`. -/
def ofDecimal (negative : Bool) (digits : Nat) (exponent : Int) : Binary64 :=
  let magnitude := exponent + (Nat.toDigits 10 digits).length
  if digits = 0 ∨ magnitude < -330 then .finite negative 0 minExponent
  else if magnitude > 310 then .infinity negative
  else ofRatio negative (digits * power 10 exponent.toNat) (power 10 (-exponent).toNat)

/-- The value nearest to a whole number. -/
def ofInt (n : Int) : Binary64 :=
  ofRatio (n < 0) n.natAbs 1

/-! ## §2. Exact views. -/

/-- A finite value as a numerator over a denominator. -/
def ratio? : Binary64 → Option (Int × Nat)
  | .finite negative m e =>
      let n : Int := m * power 2 e.toNat
      some (if negative then -n else n, power 2 (-e).toNat)
  | _ => none

/-- Neither infinite nor NaN. -/
def isFinite : Binary64 → Bool
  | .finite .. => true
  | _ => false

/-- The whole number left when the places after the point are dropped. -/
def trunc? (x : Binary64) : Option Int :=
  x.ratio?.map fun r => r.1.tdiv r.2

/-! ## §3. Arithmetic. -/

/-- The product with a natural number. -/
def scale (k : Nat) : Binary64 → Binary64
  | .nan => .nan
  | .infinity negative => if k = 0 then .nan else .infinity negative
  | .finite negative m e => ofRatio negative (k * m * power 2 e.toNat) (power 2 (-e).toNat)

/-- Zero of either sign. -/
def isZero : Binary64 → Bool
  | .finite _ m _ => m == 0
  | _ => false

/-- Equal to one. -/
def isOne (x : Binary64) : Bool :=
  match x.ratio? with
  | some (n, d) => n == d
  | none => false

end Binary64

end SqlDialect.Number
