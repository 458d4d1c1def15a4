/-
  SqlDialect.Calendar.Period
  ────────────────────────────────
  **MONTHS, QUARTERS AND THEIR FIRST INSTANTS.**

  A timestamp is a date with a time of day.  It lies in a month and in a
  quarter, which begin at midnight of their first day.
-/
import SqlDialect.Calendar.Moment

namespace SqlDialect.Calendar

/-! ## §1. Timestamps. -/

/-- A date with a time of day. -/
structure Timestamp where
  date : Date
  clock : Clock
  deriving Repr, DecidableEq

/-- The first instant of a day. -/
def Clock.midnight : Clock := ⟨0, 0, 0, 0, by decide⟩

/-- The microseconds of a day. -/
def microsecondsInDay : Nat := 86400000000

/-- The microseconds since the first instant of the year 1. -/
def Timestamp.instant (t : Timestamp) : Nat :=
  t.date.dayNumber * microsecondsInDay + t.clock.sinceMidnight

/-! ## §2. Dates in their year. -/

namespace Date

/-- The day of the year; the first of January is the first day. -/
def dayOfYear (d : Date) : Nat := daysInMonths d.year (d.month - 1) + d.day

/-- The quarter of the year, three months each. -/
def quarter (d : Date) : Nat := (d.month - 1) / 3 + 1

/-- The first day of the month `m` in the year of a date. -/
def firstOf (d : Date) (m : Nat) (hm : 1 ≤ m ∧ m ≤ 12) : Date where
  year := d.year
  month := m
  day := 1
  isDate := ⟨d.isDate.1, hm, by decide, by
    unfold daysInMonth
    repeat' split
    all_goals omega⟩

/-- The first day of the month. -/
def firstOfMonth (d : Date) : Date := d.firstOf d.month d.isDate.2.1

/-- Quarter `q` begins with month `3q - 2`. -/
def firstOfQuarter (d : Date) : Date :=
  d.firstOf (3 * d.quarter - 2) (by
    have := d.isDate.2.1
    unfold quarter
    omega)

end Date

/-! ## §3. Periods. -/

/-- A period of time with a name. -/
inductive Period where
  | month | quarter
  deriving Repr, DecidableEq

namespace Period

/-- The name of a period. -/
def name : Period → String
  | .month => "month"
  | .quarter => "quarter"

/-- The first day of the period of a date. -/
def firstDay : Period → Date → Date
  | .month => Date.firstOfMonth
  | .quarter => Date.firstOfQuarter

/-- Two dates lie in the same period. -/
def Same : Period → Date → Date → Prop
  | .month, d, d' => d.year = d'.year ∧ d.month = d'.month
  | .quarter, d, d' => d.year = d'.year ∧ d.quarter = d'.quarter

/-- No instant of the period of a timestamp is before the other one, which
lies in it too. -/
def IsFirstInstant (p : Period) (t first : Timestamp) : Prop :=
  p.Same first.date t.date ∧ ∀ t' : Timestamp, p.Same t'.date t.date → first.instant ≤ t'.instant

end Period

end SqlDialect.Calendar
