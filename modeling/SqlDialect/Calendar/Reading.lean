/-
  SqlDialect.Calendar.Reading
  ────────────────────────────────
  **DATES AND TIMES FROM TEXT.**

  Reads the written form back: fields of a fixed number of ASCII digits and
  the marks between them.  Each reader also gives what follows.
-/
import SqlDialect.Calendar.Moment

namespace SqlDialect.Calendar

open SqlDialect.Text SqlDialect.Number

/-! ## §1. Fields. -/

/-- A number of exactly `n` ASCII digits. -/
def takeField? (n : Nat) (s : List Char) : Option (Nat × List Char) :=
  if (s.take n).length = n then
    ((s.take n).mapM asciiDigit?).map fun ds => (ofDigits ds, s.drop n)
  else none

/-- What follows the mark `c`. -/
def takeMark? (c : Char) : List Char → Option (List Char)
  | d :: rest => if d = c then some rest else none
  | [] => none

/-- Microseconds from the digits after the point; those beyond the sixth do
not count. -/
def microseconds (places : List Nat) : Nat :=
  ofDigits ((places ++ List.replicate 6 0).take 6)

/-- The places after the second, if a point and a digit follow. -/
def takePlaces (s : List Char) : Nat × List Char :=
  match s with
  | '.' :: rest =>
      let digits := rest.takeWhile Char.isDigit
      if digits.isEmpty then (0, s)
      else (microseconds (digits.filterMap asciiDigit?), rest.dropWhile Char.isDigit)
  | _ => (0, s)

/-! ## §2. Dates, times and offsets. -/

/-- A date `YYYY-MM-DD`. -/
def takeDate? (s : List Char) : Option (Date × List Char) := do
  let (y, s) ← takeField? 4 s
  let (m, s) ← takeField? 2 (← takeMark? '-' s)
  let (d, s) ← takeField? 2 (← takeMark? '-' s)
  return (← (Date.ofFields y m d).toOption, s)

/-- A time of day `HH:MM:SS`, with or without places after the second. -/
def takeClock? (s : List Char) : Option (Clock × List Char) := do
  let (h, s) ← takeField? 2 s
  let (m, s) ← takeField? 2 (← takeMark? ':' s)
  let (sec, s) ← takeField? 2 (← takeMark? ':' s)
  let (us, s) := takePlaces s
  return (← (Clock.ofFields h m sec us).toOption, s)

/-- An offset `+HH:MM`, with or without seconds. -/
def takeOffset? (s : List Char) : Option (Offset × List Char) := do
  let negative ← match s with
    | '-' :: _ => some true
    | '+' :: _ => some false
    | _ => none
  let (h, s) ← takeField? 2 (s.drop 1)
  let (m, s) ← takeField? 2 (← takeMark? ':' s)
  let (sec, us, s) := match takeMark? ':' s >>= takeField? 2 with
    | some (sec, rest) => (sec, takePlaces rest)
    | none => (0, 0, s)
  let total := ((h * 60 + m) * 60 + sec) * 1000000 + us
  return (← Offset.ofMicroseconds? (signed negative total), s)
where
  signed (negative : Bool) (n : Nat) : Int := if negative then -n else n

/-! ## §3. Whole texts. -/

/-- The end of the text, with or without an offset before it. -/
def finalOffset? : List Char → Option (Option Offset)
  | [] => some none
  | s => match takeOffset? s with
    | some (o, []) => some (some o)
    | _ => none

/-- The date that a text holds. -/
def Date.read? (s : List Char) : Option Date :=
  match takeDate? s with
  | some (d, []) => some d
  | _ => none

/-- The time of day and the offset that a text holds. -/
def Clock.read? (s : List Char) : Option (Clock × Option Offset) := do
  let (c, s) ← takeClock? s
  return (c, ← finalOffset? s)

/-- The moment that a text with `sep` between date and time holds. -/
def Moment.read? (sep : Char) (s : List Char) : Option Moment := do
  let (d, s) ← takeDate? s
  let (c, o) ← Clock.read? (← takeMark? sep s)
  return ⟨d, c, o⟩

end SqlDialect.Calendar
