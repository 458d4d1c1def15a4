/-
  SqlDialect.Toml.Scalar
  ────────────────────────────────
  **SIMPLE VALUES OF A DOCUMENT.**

  Truth values, dates and times, whole numbers in four bases and
  floating-point numbers.  A single underscore may stand between digits.
-/
import SqlDialect.Calendar.Reading
import SqlDialect.Number.FloatText
import SqlDialect.Number.Integer
import SqlDialect.Text.Segment
import SqlDialect.Toml.Text
import SqlDialect.Value.Basic

namespace SqlDialect.Toml

open SqlDialect.Text SqlDialect.Number SqlDialect.Calendar

/-- Why a text is no document. -/
inductive ReadError where
  | malformed
  /-- A decimal number has more digits than are read. -/
  | tooManyDigits (count : Nat)
  deriving Repr, DecidableEq

/-- What to say about a number with too many digits. -/
def ReadError.message : ReadError → String
  | .malformed => "The text is no document"
  | .tooManyDigits count => digitLimitMessage (some count)

/-! ## §1. Dates and times. -/

/-- An offset `Z` or `+HH:MM`. -/
def takeOffset? (s : List Char) : Option (Offset × List Char) :=
  match s with
  | 'Z' :: rest | 'z' :: rest => some (.utc, rest)
  | sign :: rest => do
      let negative ← if sign = '-' then some true else if sign = '+' then some false else none
      let (h, rest) ← takeField? 2 rest
      let (m, rest) ← takeField? 2 (← takeMark? ':' rest)
      if 23 < h ∨ 59 < m then none
      let us : Nat := (h * 60 + m) * 60000000
      return (← Offset.ofMicroseconds? (signed negative us), rest)
  | [] => none

/-- A time of day behind a date, with or without an offset. -/
def takeDayTime? (date : Date) (s : List Char) : Option (Value × List Char) :=
  match s with
  | sep :: rest =>
      if sep = 'T' ∨ sep = 't' ∨ sep = ' ' then
        (takeClock? rest).map fun (clock, rest) => match takeOffset? rest with
          | some (o, rest) => (.moment ⟨date, clock, some o⟩, rest)
          | none => (.moment ⟨date, clock, none⟩, rest)
      else none
  | [] => none

/-- A date, a moment or a time of day. -/
def takeTime? (s : List Char) : Option (Value × List Char) :=
  match takeDate? s with
  | some (date, rest) => some ((takeDayTime? date rest).getD (.date date, rest))
  | none => (takeClock? s).map fun (clock, rest) => (.time clock none, rest)

/-! ## §2. Numbers. -/

/-- Digits as far as they go, with single underscores between them. -/
def takeRun (isDigit : Char → Bool) : List Char → List Char × List Char
  | '_' :: c :: rest =>
      if isDigit c then
        let (run, rest) := takeRun isDigit rest
        (c :: run, rest)
      else ([], '_' :: c :: rest)
  | c :: rest =>
      if isDigit c then
        let (run, rest) := takeRun isDigit rest
        (c :: run, rest)
      else ([], c :: rest)
  | [] => ([], [])

/-- At least one digit, and no underscore before it. -/
def takeDigits? (isDigit : Char → Bool) (s : List Char) : Option (List Char × List Char) :=
  match s with
  | c :: _ => if isDigit c then some (takeRun isDigit s) else none
  | [] => none

/-- The value of digits in a base. -/
def digitsValue (base : Nat) (digits : List Char) : Nat :=
  (digits.filterMap hexDigit?).foldl (fun n d => base * n + d) 0

/-- A whole number in the base that a letter stands for. -/
def takeBased? : List Char → Option (Value × List Char)
  | '0' :: letter :: rest => do
      let base ← match letter with
        | 'x' => some 16
        | 'o' => some 8
        | 'b' => some 2
        | _ => none
      let inBase (c : Char) : Bool := (hexDigit? c).any (· < base)
      let (digits, rest) ← takeDigits? inBase rest
      return (.int (digitsValue base digits), rest)
  | _ => none

/-- The whole digits of a decimal number: a zero alone, or digits that
start with another one. -/
def takeWhole? : List Char → Option (List Char × List Char)
  | '0' :: rest => some (['0'], rest)
  | s => takeDigits? Char.isDigit s

/-- The places of a decimal number, with the point. -/
def takePoint (s : List Char) : List Char × List Char :=
  match s with
  | '.' :: rest => match takeDigits? Char.isDigit rest with
    | some (digits, rest) => ('.' :: digits, rest)
    | none => ([], s)
  | _ => ([], s)

/-- The exponent of a decimal number, with its letter. -/
def takeExponent (s : List Char) : List Char × List Char :=
  match s with
  | letter :: rest =>
      if letter = 'e' ∨ letter = 'E' then
        let (sign, digits) := match rest with
          | '-' :: t => (['-'], t)
          | '+' :: t => ([], t)
          | t => ([], t)
        match takeDigits? Char.isDigit digits with
        | some (ds, rest) => ('e' :: sign ++ ds, rest)
        | none => ([], s)
      else ([], s)
  | [] => ([], s)

/-- A decimal number: a whole one without places and exponent. -/
def takeDecimal (s : List Char) : Except ReadError (Value × List Char) := do
  let (negative, t) := splitSign s
  let some (whole, rest) := takeWhole? t | throw .malformed
  let (places, rest) := takePoint rest
  let (exponent, rest) := takeExponent rest
  if places.isEmpty && exponent.isEmpty then
    if maxDigits < whole.length then throw (.tooManyDigits whole.length)
    return (.int (signed negative (digitsValue 10 whole)), rest)
  else
    let sign := if negative then ['-'] else []
    match Binary64.read? (sign ++ whole ++ places ++ exponent) with
    | some x => return (.float x, rest)
    | none => throw .malformed

/-- A number that is infinite or none. -/
def takeSpecial? (s : List Char) : Option (Value × List Char) :=
  let (negative, t) := splitSign s
  match dropFront? "inf".toList t with
  | some rest => some (.float (.infinity negative), rest)
  | none => (dropFront? "nan".toList t).map fun rest => (.float .nan, rest)

/-! ## §3. Simple values. -/

/-- A truth value. -/
def takeBool? (s : List Char) : Option (Value × List Char) :=
  match dropFront? "true".toList s with
  | some rest => some (.bool true, rest)
  | none => (dropFront? "false".toList s).map fun rest => (.bool false, rest)

/-- A value that is neither a text nor made of others. -/
def takeScalar (s : List Char) : Except ReadError (Value × List Char) :=
  match takeBool? s with
  | some r => .ok r
  | none => match takeTime? s with
    | some r => .ok r
    | none => match takeBased? s with
      | some r => .ok r
      | none => match takeSpecial? s with
        | some r => .ok r
        | none => takeDecimal s

end SqlDialect.Toml
