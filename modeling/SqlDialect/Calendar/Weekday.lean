/-
  SqlDialect.Calendar.Weekday
  ────────────────────────────────
  **DAYS OF THE WEEK AND WEEKS OF A YEAR.**

  The first of January of the year 1 is a Monday, so the day of the week is
  read off the number of a day.  Weekdays are counted from Monday or from
  Sunday, and either way the first of them is 0.

  A day may be told by its week and its day of the week.  Plain weeks count
  from the first Sunday or Monday of the year, and the days before it are
  week 0.  ISO weeks begin on Monday, and week 1 holds the fourth of
  January.  Either way the day may lie in the year before or after.
-/
import SqlDialect.Calendar.Date

namespace SqlDialect.Calendar

/-! ## §1. Days of the week. -/

/-- A day of the week. -/
inductive Weekday where
  | monday | tuesday | wednesday | thursday | friday | saturday | sunday
  deriving Repr, DecidableEq

namespace Weekday

/-- The name of a weekday. -/
def name : Weekday → String
  | .monday => "monday"
  | .tuesday => "tuesday"
  | .wednesday => "wednesday"
  | .thursday => "thursday"
  | .friday => "friday"
  | .saturday => "saturday"
  | .sunday => "sunday"

/-- How many days after Monday. -/
def fromMonday : Weekday → Nat
  | .monday => 0
  | .tuesday => 1
  | .wednesday => 2
  | .thursday => 3
  | .friday => 4
  | .saturday => 5
  | .sunday => 6

/-- How many days after Sunday. -/
def fromSunday : Weekday → Nat
  | .sunday => 0
  | .monday => 1
  | .tuesday => 2
  | .wednesday => 3
  | .thursday => 4
  | .friday => 5
  | .saturday => 6

/-- The weekday in the given place of a week, its last one from place 6 on. -/
def ofPlace : Nat → Weekday
  | 0 => .monday
  | 1 => .tuesday
  | 2 => .wednesday
  | 3 => .thursday
  | 4 => .friday
  | 5 => .saturday
  | _ => .sunday

/-- The weekday so many days after a Monday. -/
def after (n : Nat) : Weekday := ofPlace (n % 7)

/-- One count is ahead of the other by one, round the week. -/
theorem fromSunday_eq (w : Weekday) : w.fromSunday = (w.fromMonday + 1) % 7 := by
  cases w <;> rfl

theorem fromMonday_after (n : Nat) : (after n).fromMonday = n % 7 := by
  have hplace : ∀ k < 7, (ofPlace k).fromMonday = k := by decide
  exact hplace (n % 7) (Nat.mod_lt n (by decide))

theorem name_eq_monday_iff (w : Weekday) : w.name = "monday" ↔ w.fromMonday = 0 := by
  cases w <;> decide

end Weekday

namespace Date

/-- The weekday of a date. -/
def weekday (d : Date) : Weekday := .after d.dayNumber

/-- The number of the Monday with which the week of a date begins. -/
def monday (d : Date) : Nat := d.dayNumber - d.weekday.fromMonday

end Date

/-! ## §2. Weeks of a year. -/

/-- The day on which plain weeks begin. -/
inductive WeekStart where
  | sunday
  | monday
  deriving Repr, DecidableEq

/-- How far a day of the week, 0 for Monday, is from the start of the week. -/
def WeekStart.place (start : WeekStart) (weekday : Nat) : Nat :=
  match start with
  | .monday => weekday
  | .sunday => (weekday + 1) % 7

/-- The day of the year of a day in a plain week. -/
def dayOfWeek (y : Nat) (start : WeekStart) (week weekday : Nat) : Int :=
  let first := start.place (firstWeekday y)
  let place := start.place weekday
  if week = 0 then 1 + place - first
  else 1 + ((7 - first) % 7 + 7 * (week - 1) + place : Nat)

/-- The day of the year of a day in an ISO week: week 1 begins as many days
before the fourth of January as that is from Monday. -/
def dayOfIsoWeek (y week weekday : Nat) : Int :=
  4 - ((firstWeekday y + 3) % 7 : Nat) + 7 * (week - 1) + weekday

/-- The `n`-th day of a year, where day 0 is the last one of the year before. -/
def Date.ofDay (y : Nat) (n : Int) : Except FieldError Date :=
  if y = 0 then .error (.year 0)
  else if n ≤ 0 then Date.ofDayOfYear (y - 1) (n + daysInYear (y - 1)).toNat
  else Date.ofDayOfYear y n.toNat

end SqlDialect.Calendar
