/-
  SqlDialect.Calendar.Date
  ────────────────────────────────
  **CALENDAR DATES.**

  Dates of the Gregorian calendar in the years 1 to 9999.  A date carries
  the proof that its month and day exist.
-/
import SqlDialect.Number.Integer

namespace SqlDialect.Calendar

open SqlDialect.Number

/-! ## §1. Years and months. -/

/-- Every fourth year is a leap year, but of the centuries only every fourth. -/
def isLeapYear (y : Nat) : Bool :=
  y % 4 == 0 && (y % 100 != 0 || y % 400 == 0)

/-- The number of days of a month. -/
def daysInMonth (y m : Nat) : Nat :=
  if m = 2 then if isLeapYear y then 29 else 28
  else if m = 4 ∨ m = 6 ∨ m = 9 ∨ m = 11 then 30
  else 31

/-- No month is longer than 31 days. -/
theorem daysInMonth_le (y m : Nat) : daysInMonth y m ≤ 31 := by
  unfold daysInMonth
  repeat' split
  all_goals omega

/-! ## §2. Dates. -/

/-- The year, month and day exist. -/
def DateExists (y m d : Nat) : Prop :=
  (1 ≤ y ∧ y ≤ 9999) ∧ (1 ≤ m ∧ m ≤ 12) ∧ 1 ≤ d ∧ d ≤ daysInMonth y m

instance (y m d : Nat) : Decidable (DateExists y m d) := by
  unfold DateExists; infer_instance

/-- A day of the calendar. -/
structure Date where
  year : Nat
  month : Nat
  day : Nat
  isDate : DateExists year month day
  deriving Repr, DecidableEq

/-- Why a time field is refused. -/
inductive FieldError where
  | year (given : Int)
  | month
  | day
  | hour
  | minute
  | second
  | microsecond
  deriving Repr, DecidableEq

/-- What to say about a refused field. -/
def FieldError.message : FieldError → String
  | .year given => "year " ++ String.ofList (intText given) ++ " is out of range"
  | .month => "month must be in 1..12"
  | .day => "day is out of range for month"
  | .hour => "hour must be in 0..23"
  | .minute => "minute must be in 0..59"
  | .second => "second must be in 0..59"
  | .microsecond => "microsecond must be in 0..999999"

/-- The date with the given year, month and day; the first field that is
out of range is refused. -/
def Date.ofFields (y m d : Nat) : Except FieldError Date :=
  if h : DateExists y m d then .ok ⟨y, m, d, h⟩
  else if y = 0 ∨ 9999 < y then .error (.year y)
  else if m = 0 ∨ 12 < m then .error .month
  else .error .day

/-- The fields of a date give the date. -/
theorem Date.ofFields_self (d : Date) : Date.ofFields d.year d.month d.day = .ok d := by
  simp [Date.ofFields, d.isDate]

/-- The text `YYYY-MM-DD`. -/
def Date.text (d : Date) : List Char :=
  paddedText 4 d.year ++ '-' :: paddedText 2 d.month ++ '-' :: paddedText 2 d.day

/-! ## §3. Counting days. -/

/-- The number of days of a year. -/
def daysInYear (y : Nat) : Nat :=
  if isLeapYear y then 366 else 365

/-- No year is shorter than 365 days. -/
theorem le_daysInYear (y : Nat) : 365 ≤ daysInYear y := by
  unfold daysInYear
  split <;> omega

/-- The number of days in the years 1 to `y - 1`. -/
def daysBeforeYear (y : Nat) : Nat :=
  365 * (y - 1) + (y - 1) / 4 - (y - 1) / 100 + (y - 1) / 400

/-- The number of days in the first months of a year. -/
def daysInMonths (y : Nat) : Nat → Nat
  | 0 => 0
  | k + 1 => daysInMonths y k + daysInMonth y (k + 1)

/-- How many days a date comes after the first of January of the year 1. -/
def Date.dayNumber (d : Date) : Nat :=
  daysBeforeYear d.year + daysInMonths d.year (d.month - 1) + (d.day - 1)

/-- The day of the week on which a year begins, 0 for Monday. -/
def firstWeekday (y : Nat) : Nat :=
  daysBeforeYear y % 7

/-- The month and the day of the `n`-th day of a year, looked for in the
months from `m` on, `k` of which are left. -/
def monthAndDay (y m : Nat) : Nat → Nat → Nat × Nat
  | 0, n => (m, n)
  | k + 1, n =>
      if n ≤ daysInMonth y m then (m, n) else monthAndDay y (m + 1) k (n - daysInMonth y m)

/-- The `n`-th day of a year, or of a later year when the year has fewer
days; the first of January is the first day. -/
def Date.ofDayOfYear (y n : Nat) : Except FieldError Date :=
  if daysInYear y < n then Date.ofDayOfYear (y + 1) (n - daysInYear y)
  else
    let (m, d) := monthAndDay y 1 11 n
    Date.ofFields y m d
termination_by n
decreasing_by
  have := le_daysInYear y
  omega

end SqlDialect.Calendar
