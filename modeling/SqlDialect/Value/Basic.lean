/-
  SqlDialect.Value.Basic
  ────────────────────────────────
  **VALUES OF UNKNOWN KIND.**

  What a database returns, what a configuration file holds and what a
  caller passes on unchecked.  Numbers of different kinds that denote the
  same number are the same; a truth value counts as 0 or 1.
-/
import SqlDialect.Number.Binary64
import SqlDialect.Number.Decimal
import SqlDialect.Calendar.Moment

namespace SqlDialect

open SqlDialect.Number SqlDialect.Calendar

/-- A value whose kind is known only when the program runs. -/
inductive Value where
  | null
  | bool (b : Bool)
  | int (n : Int)
  | float (x : Binary64)
  | decimal (d : Decimal)
  /-- A fraction in lowest terms. -/
  | fraction (num : Int) (den : Nat)
  | text (s : String)
  | date (d : Date)
  | time (c : Clock) (offset : Option Offset)
  | moment (m : Moment)
  | list (items : List Value)
  | map (entries : List (Value × Value))
  /-- A named constant of an enumeration, with the text it stands for. -/
  | member (enumeration name value : String)
  deriving Repr, Inhabited

namespace Value

/-! ## §1. Truth and kind. -/

/-- A list or a map, which is looked for among no others. -/
def isCollection : Value → Bool
  | .list _ | .map _ => true
  | _ => false

/-- Everything counts as true but null, zero, and what is empty. -/
def isTruthy : Value → Bool
  | .null => false
  | .bool b => b
  | .int n => n != 0
  | .float x => !x.isZero
  | .decimal d => !d.isZero
  | .fraction n _ => n != 0
  | .text s => !s.isEmpty
  | .list items => !items.isEmpty
  | .map entries => !entries.isEmpty
  | _ => true

/-- The name of the kind of a value. -/
def kindName : Value → String
  | .null => "NoneType"
  | .bool _ => "bool"
  | .int _ => "int"
  | .float _ => "float"
  | .decimal _ => "decimal.Decimal"
  | .fraction .. => "Fraction"
  | .text _ => "str"
  | .date _ => "datetime.date"
  | .time .. => "datetime.time"
  | .moment _ => "datetime.datetime"
  | .list _ => "list"
  | .map _ => "dict"
  | .member enumeration _ _ => enumeration

/-! ## §2. Equality. -/

/-- A finite number: a fraction times a power of ten. -/
structure ScaledRatio where
  num : Int
  den : Nat
  exponent : Int := 0
  deriving Repr

/-- The two denote the same number. -/
def ScaledRatio.same (r r' : ScaledRatio) : Bool :=
  let x := r.num * r'.den
  let x' := r'.num * r.den
  let k := r.exponent - r'.exponent
  if 0 ≤ k then Decimal.equalWithZeros x x' k.toNat else Decimal.equalWithZeros x' x (-k).toNat

/-- The finite number that a value denotes. -/
def ratio? : Value → Option ScaledRatio
  | .bool b => some { num := if b then 1 else 0, den := 1 }
  | .int n => some { num := n, den := 1 }
  | .float x => x.ratio?.map fun (n, d) => { num := n, den := d }
  | .decimal d => d.scaled?.map fun (n, e) => { num := n, den := 1, exponent := e }
  | .fraction n d => some { num := n, den := d }
  | _ => none

/-- Whether a value is infinite, and if so below zero. -/
def infiniteSign? : Value → Option Bool
  | .float (.infinity negative) | .decimal (.infinity negative) => some negative
  | _ => none

/-- The values are the same key: equal numbers, texts, dates, times or
constants.  A NaN is no key twice. -/
def same (a b : Value) : Bool :=
  match a.ratio?, b.ratio? with
  | some r, some r' => r.same r'
  | some _, none | none, some _ => false
  | none, none => match a.infiniteSign?, b.infiniteSign? with
    | some negative, some negative' => negative == negative'
    | some _, none | none, some _ => false
    | none, none => match a, b with
      | .null, .null => true
      | .text s, .text t => s == t
      | .date d, .date d' => d == d'
      | .time c o, .time c' o' => c.sameTime o c' o'
      | .moment m, .moment m' => m.same m'
      | .member e n _, .member e' n' _ => e == e' && n == n'
      | _, _ => false

/-- Whether a value equals one; no answer for a signaling NaN, which cannot
be compared. -/
def isOne? : Value → Option Bool
  | .bool b => some b
  | .int n => some (n == 1)
  | .float x => some x.isOne
  | .decimal (.nan _ true _) => none
  | .decimal d => some d.isOne
  | .fraction n d => some (n == 1 && d == 1)
  | _ => some false

/-- A text is a value of its own. -/
instance : Coe String Value := ⟨.text⟩

end Value

end SqlDialect
