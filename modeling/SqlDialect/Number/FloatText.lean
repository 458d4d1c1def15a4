/-
  SqlDialect.Number.FloatText
  ────────────────────────────────
  **FLOATING-POINT NUMBERS AS TEXT.**

  A finite value is written with the fewest digits that read back.  The
  reals that round to m · 2^q form an interval, ends included exactly when m
  is even.  For 1, 2, … 17 digits the value has two neighbours on that
  decimal grid; the first grid with a neighbour inside the interval wins, of
  two such neighbours the closer one, and of two equally close the even one.

  Values from 10^-4 up to below 10^16 are written positionally and keep a
  digit after the point; all others have a signed exponent of two digits or
  more.  Reading takes any decimal text and rounds once.
-/
import SqlDialect.Number.Binary64
import SqlDialect.Number.Integer
import SqlDialect.Text.Segment

namespace SqlDialect.Number

open SqlDialect.Text

/-- The decimal number `digits · 10^exponent`. -/
structure Scaled where
  digits : Nat
  exponent : Int
  deriving Repr, DecidableEq

namespace Shortest

/-! ## §1. One grid. -/

/-- `d` grid steps lie in the interval of reals that round to `m · 2^q`,
where the value is `num / den` grid steps. -/
def readsBack (m : Nat) (narrowBelow : Bool) (num den d : Nat) : Bool :=
  let below := if narrowBelow then 4 * m - 1 else 4 * m - 2
  let at_ := 4 * m * d * den
  if m % 2 = 0 then below * num ≤ at_ && at_ ≤ (4 * m + 2) * num
  else below * num < at_ && at_ < (4 * m + 2) * num

/-- The better of the two neighbours of `num / den` grid steps that read back. -/
def neighbour? (m : Nat) (narrowBelow : Bool) (num den : Nat) : Option Nat :=
  let f := num / den
  match readsBack m narrowBelow num den f, readsBack m narrowBelow num den (f + 1) with
  | true, true => some (roundDiv num den)
  | true, false => some f
  | false, true => some (f + 1)
  | false, false => none

/-! ## §2. The search. -/

/-- The number of digits before the point of `m · 2^q`, negative for zeros
after the point. -/
def scale (m : Nat) (q : Int) : Int :=
  let places : Nat := 350
  let digits := Nat.toDigits 10 (m * power 2 q.toNat * power 10 places / power 2 (-q).toNat)
  (digits.length : Int) - places

/-- The closest decimal with `n` digits that reads back. -/
def withDigits? (m : Nat) (q : Int) (n : Nat) : Option Scaled :=
  let e := scale m q - n
  let num := m * power 2 q.toNat * power 10 (-e).toNat
  let den := power 2 (-q).toNat * power 10 e.toNat
  let narrowBelow := m == power 2 52 && q > Binary64.minExponent
  (neighbour? m narrowBelow num den).map (⟨·, e⟩)

/-- Move the trailing zeros of the digits into the exponent. -/
def strip : Nat → Scaled → Scaled
  | 0, d => d
  | fuel + 1, d =>
      if d.digits ≠ 0 ∧ d.digits % 10 = 0 then strip fuel ⟨d.digits / 10, d.exponent + 1⟩ else d

/-- The exact decimal value of `m · 2^q`. -/
def exact (m : Nat) (q : Int) : Scaled :=
  ⟨m * power 2 q.toNat * power 5 (-q).toNat, -((-q).toNat : Int)⟩

end Shortest

/-- The shortest decimal that reads back as `m · 2^q`. -/
def shortest (m : Nat) (q : Int) : Scaled :=
  match (List.range 17).findSome? fun i => Shortest.withDigits? m q (i + 1) with
  | some d => Shortest.strip 17 d
  | none => Shortest.exact m q

/-! ## §3. Writing. -/

/-- The digits with a point after the first, if there is more than one. -/
def leadingPoint : List Char → List Char
  | c :: d :: rest => c :: '.' :: d :: rest
  | s => s

/-- A positive decimal in floating-point notation. -/
def Scaled.floatText (d : Scaled) : List Char :=
  let ds := natText d.digits
  let point : Int := ds.length + d.exponent
  if point < -3 ∨ 16 < point then
    let e := point - 1
    leadingPoint ds ++ ['e', if e < 0 then '-' else '+'] ++ paddedText 2 e.natAbs
  else if point ≤ 0 then
    ['0', '.'] ++ List.replicate (-point).toNat '0' ++ ds
  else if d.exponent < 0 then
    ds.take point.toNat ++ ['.'] ++ ds.drop point.toNat
  else
    ds ++ List.replicate d.exponent.toNat '0' ++ ['.', '0']

namespace Binary64

/-- The text of a value. -/
def text : Binary64 → List Char
  | .nan => "nan".toList
  | .infinity negative => (if negative then "-inf" else "inf").toList
  | .finite negative m q =>
      (if negative then ['-'] else [])
        ++ if m = 0 then "0.0".toList else (shortest m q).floatText

/-! ## §4. Reading. -/

/-- The digits of a run that may be missing. -/
def optionalRun? : List Char → Option (List Nat)
  | [] => some []
  | s => digitRun? s

/-- The whole number after an exponent mark. -/
def exponent? (s : List Char) : Option Int :=
  let (negative, digits) := splitSign s
  (digitRun? digits).map fun ds => signed negative (ofDigits ds)

/-- A decimal number without sign: its digits and the power of ten they count. -/
def decimal? (s : List Char) : Option (List Nat × Int) := do
  let mark := fun c => c == 'e' || c == 'E'
  let mantissa := s.takeWhile (!mark ·)
  let e ← match s.dropWhile (!mark ·) with
    | [] => some 0
    | _ :: rest => exponent? rest
  match cut? '.' mantissa with
  | none => return (← digitRun? mantissa, e)
  | some (whole, places) =>
      let ws ← optionalRun? whole
      let ps ← optionalRun? places
      if ws.isEmpty && ps.isEmpty then none else return (ws ++ ps, e - ps.length)

/-- The value that a text stands for. -/
def read? (s : List Char) : Option Binary64 :=
  let (negative, body) := splitSign (trimWhile isSpace s)
  let word := body.map Char.toLower
  if word = "nan".toList then some .nan
  else if word = "inf".toList ∨ word = "infinity".toList then some (.infinity negative)
  else (decimal? body).map fun r => ofDecimal negative (ofDigits r.1) r.2

end Binary64

end SqlDialect.Number
