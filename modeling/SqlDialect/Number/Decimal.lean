/-
  SqlDialect.Number.Decimal
  ────────────────────────────────
  **DECIMAL NUMBERS.**

  A finite decimal is ± coefficient · 10^exponent and keeps its trailing
  zeros, so 1.0 and 1.00 are different.  It is written positionally while
  the exponent is not positive and at most five zeros follow the point,
  otherwise in scientific notation.  Arithmetic keeps 28 digits.
-/
import SqlDialect.Number.Binary64
import SqlDialect.Number.Integer
import SqlDialect.Text.Segment

namespace SqlDialect.Number

open SqlDialect.Text

/-- A decimal number; a NaN may carry digits for diagnosis, 0 for none. -/
inductive Decimal where
  | finite (negative : Bool) (coefficient : Nat) (exponent : Int)
  | infinity (negative : Bool)
  | nan (negative : Bool) (signaling : Bool) (payload : Nat)
  deriving Repr, DecidableEq

namespace Decimal

/-! ## §1. Writing. -/

/-- A coefficient with its exponent. -/
def magnitudeText (coefficient : Nat) (exponent : Int) : List Char :=
  let ds := natText coefficient
  let point : Int := ds.length + exponent
  if exponent ≤ 0 ∧ -6 < point then
    if exponent = 0 then ds
    else if point ≤ 0 then ['0', '.'] ++ List.replicate (-point).toNat '0' ++ ds
    else ds.take point.toNat ++ ['.'] ++ ds.drop point.toNat
  else
    let e := point - 1
    let mantissa := match ds with
      | c :: d :: rest => c :: '.' :: d :: rest
      | s => s
    if e = 0 then mantissa
    else mantissa ++ ['E', if e < 0 then '-' else '+'] ++ natText e.natAbs

/-- The text of a decimal. -/
def text (d : Decimal) : List Char :=
  let sign (negative : Bool) : List Char := if negative then ['-'] else []
  match d with
  | .finite negative c e => sign negative ++ magnitudeText c e
  | .infinity negative => sign negative ++ "Infinity".toList
  | .nan negative signaling payload =>
      sign negative ++ (if signaling then "sNaN" else "NaN").toList
        ++ if payload = 0 then [] else natText payload

/-! ## §2. Reading. -/

/-- The digits of a run, all of which are digits. -/
def plainRun? (s : List Char) : Option (List Nat) :=
  s.mapM digit?

/-- The greatest exponent of the leading digit that is read. -/
def greatestRead : Int := 999999999999999999

/-- The least exponent that is read. -/
def leastRead : Int := -1999999999999999997

/-- A coefficient with its exponent, if the number is neither too large nor
too small. -/
def held? (negative : Bool) (coefficient : Nat) (exponent : Int) : Option Decimal :=
  if leastRead ≤ exponent ∧ (natText coefficient).length + exponent - 1 ≤ greatestRead then
    some (.finite negative coefficient exponent)
  else none

/-- A finite magnitude: digits with a point among them and an exponent. -/
def finite? (negative : Bool) (s : List Char) : Option Decimal := do
  let mark := fun c => c == 'e' || c == 'E'
  let mantissa := s.takeWhile (!mark ·)
  let e ← match s.dropWhile (!mark ·) with
    | [] => some 0
    | _ :: rest =>
        let (down, digits) := splitSign rest
        if digits.isEmpty then none else (plainRun? digits).map fun ds => signed down (ofDigits ds)
  let (whole, places) := (cut? '.' mantissa).getD (mantissa, [])
  let ds ← plainRun? (whole ++ places)
  if ds.isEmpty then none else held? negative (ofDigits ds) (e - places.length)

/-- The decimal that a text stands for; underscores do not count. -/
def read? (s : List Char) : Option Decimal :=
  let (negative, body) := splitSign ((trim s).filter (· != '_'))
  let word := body.map Char.toLower
  if word = "inf".toList ∨ word = "infinity".toList then some (.infinity negative)
  else match dropFront? "nan".toList word, dropFront? "snan".toList word with
    | some digits, _ => (plainRun? digits).map (.nan negative false <| ofDigits ·)
    | _, some digits => (plainRun? digits).map (.nan negative true <| ofDigits ·)
    | none, none => finite? negative body

/-! ## §3. Powers of ten. -/

/-- A number without its last `k` digits. -/
def dropDigits (n k : Nat) : Nat :=
  if n.log2 < k then 0 else n / power 10 k

/-- `x` with `k` zeros after it is `y`. -/
def equalWithZeros (x y : Int) (k : Nat) : Bool :=
  if x = 0 then y == 0 else k ≤ y.natAbs.log2 && x * power 10 k == y

/-! ## §4. Exact views. -/

/-- Neither infinite nor NaN. -/
def isFinite : Decimal → Bool
  | .finite .. => true
  | _ => false

/-- The coefficient of a finite decimal with its sign, and the exponent. -/
def scaled? : Decimal → Option (Int × Int)
  | .finite negative c e => some (signed negative c, e)
  | _ => none

/-- The whole number left when the places after the point are dropped. -/
def trunc? : Decimal → Option Int
  | .finite negative c e =>
      some (signed negative (dropDigits (c * power 10 e.toNat) (-e).toNat))
  | _ => none

/-- Equal to one: a one with as many zeros as places after the point. -/
def isOne : Decimal → Bool
  | .finite false c e =>
      e ≤ 0 && (natText c).length == (-e).toNat + 1 && c == power 10 (-e).toNat
  | _ => false

/-- Zero of either sign. -/
def isZero : Decimal → Bool
  | .finite _ c _ => c == 0
  | _ => false

/-- Below zero. -/
def isNegative : Decimal → Bool
  | .finite negative c _ => negative && c != 0
  | .infinity negative => negative
  | .nan .. => false

/-! ## §5. Rounding to the working precision. -/

/-- The digits that arithmetic keeps. -/
def precision : Nat := 28

/-- The greatest exponent of the leading digit. -/
def maxExponent : Int := 999999

/-- The exponent of the last digit that is kept however small the number. -/
def leastExponent : Int := -1000026

/-- A magnitude rounded to the working precision, on a tie to the even
digit; `none` if it is too large. -/
def rounded? (coefficient : Nat) (exponent : Int) : Option Decimal :=
  let width := (natText coefficient).length
  if coefficient = 0 then some (.finite false 0 (max leastExponent (min exponent maxExponent)))
  else
    let least := max leastExponent (width + exponent - precision)
    let (c, e) :=
      if width + exponent < least then (0, least)
      else if exponent < least then
        (roundDiv coefficient (power 10 (least - exponent).toNat), least)
      else (coefficient, exponent)
    let (c, e) := if (natText c).length > precision then (c / 10, e + 1) else (c, e)
    if (natText c).length + e - 1 > maxExponent then none else some (.finite false c e)

/-- The number without its sign, in the working precision. -/
def abs? : Decimal → Option Decimal
  | .finite _ c e => rounded? c e
  | .infinity _ => some (.infinity false)
  | .nan .. => none

end Decimal

end SqlDialect.Number
