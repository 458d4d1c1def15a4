/-
  SqlDialect.Transport.Timeout
  ────────────────────────────────
  **TIMEOUTS IN MILLISECONDS.**

  A timeout is a number of seconds of any kind; what is left of a
  millisecond is dropped.  A text is repeated a thousand times and read as a
  whole number.
-/
import SqlDialect.Number.Integer
import SqlDialect.Value.Text

namespace SqlDialect

open SqlDialect.Text SqlDialect.Number

/-- Why a timeout is no number of milliseconds. -/
inductive TimeoutFault where
  /-- A NaN, as a float or as a decimal. -/
  | notANumber (isFloat : Bool)
  /-- A signaling NaN cannot be multiplied. -/
  | signaling
  /-- An infinity, as a float or as a decimal. -/
  | infinite (isFloat : Bool)
  /-- The product is greater than any decimal. -/
  | tooLarge
  /-- The repeated text is no whole number. -/
  | malformed (repeated : List Char)
  /-- More digits than are read, which are counted, or written. -/
  | tooManyDigits (count : Option Nat)
  | kind (given : Value)
  deriving Repr

/-- How much is shown of a text that is no whole number. -/
def shownLength : Nat := 200

/-- What to say about a timeout that is no number of milliseconds. -/
def TimeoutFault.message : TimeoutFault → String
  | .notANumber isFloat =>
      "cannot convert " ++ (if isFloat then "float " else "") ++ "NaN to integer"
  | .signaling => "[<class 'decimal.InvalidOperation'>]"
  | .infinite isFloat =>
      "cannot convert " ++ (if isFloat then "float infinity" else "Infinity") ++ " to integer"
  | .tooLarge => "[<class 'decimal.Overflow'>]"
  | .malformed repeated =>
      "invalid literal for int() with base 10: "
        ++ String.ofList ((quoted repeated).take shownLength)
  | .tooManyDigits count => digitLimitMessage count
  | .kind v => "unsupported operand type(s) for *: '" ++ v.kindName ++ "' and 'int'"

namespace Timeout

/-- Milliseconds in a second. -/
def perSecond : Nat := 1000

/-- The whole milliseconds of a decimal, after rounding the product to the
working precision. -/
def ofDecimal (d : Decimal) : Except TimeoutFault Int :=
  match d with
  | .finite negative c e => match Decimal.rounded? (c * perSecond) e with
    | some product => .ok (signed negative (product.trunc?.getD 0).natAbs)
    | none => .error .tooLarge
  | .infinity _ => .error (.infinite false)
  | .nan _ signaling _ => .error (if signaling then .signaling else .notANumber false)

/-- The whole number that a text stands for when it is repeated. -/
def ofText (s : List Char) : Except TimeoutFault Int :=
  let repeated := (List.replicate perSecond s).flatten
  (readInt repeated).mapError fun
    | .malformed => .malformed repeated
    | .tooManyDigits count => .tooManyDigits (some count)

/-- A timeout in whole milliseconds, toward zero. -/
def milliseconds (timeout : Value) : Except TimeoutFault Int :=
  match timeout with
  | .bool b => .ok (if b then perSecond else 0)
  | .int n => .ok (n * perSecond)
  | .float x => match x.scale perSecond with
    | .nan => .error (.notANumber true)
    | .infinity _ => .error (.infinite true)
    | ms => .ok (ms.trunc?.getD 0)
  | .decimal d => ofDecimal d
  | .fraction n d => .ok ((n * perSecond).tdiv d)
  | .text s => ofText s.toList
  | v => .error (.kind v)

/-- The text of a timeout in milliseconds. -/
def text (timeout : Value) : Except TimeoutFault String := do
  let ms ← milliseconds timeout
  if isWritable ms then return String.ofList (intText ms) else throw (.tooManyDigits none)

end Timeout

end SqlDialect
