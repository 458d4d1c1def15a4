/-
  SqlDialect.Temporal.Unit
  ────────────────────────────────
  **UNITS OF TIME.**

  Units to bucket by, units of intervals and units of timestamps.  A unit
  is named by its text, or given as a constant of its own enumeration.
-/
import SqlDialect.Value.Text

namespace SqlDialect

/-! ## §1. The units. -/

/-- What a date or time is bucketed to: a period, or its number in a larger one. -/
inductive TemporalUnit where
  | default
  | minute | minuteOfHour
  | hour | hourOfDay
  | day | dayOfWeek | dayOfMonth | dayOfYear
  | week | weekOfYear
  | month | monthOfYear
  | quarter | quarterOfYear
  | year
  deriving Repr, DecidableEq

/-- The length of an interval. -/
inductive IntervalUnit where
  | second | minute | hour | day | week | month | quarter | year
  deriving Repr, DecidableEq

/-- What a timestamp counts. -/
inductive TimestampUnit where
  | seconds | milliseconds
  deriving Repr, DecidableEq

/-! ## §2. Their names. -/

namespace TemporalUnit

/-- All units in order. -/
def all : List TemporalUnit :=
  [.default, .minute, .minuteOfHour, .hour, .hourOfDay, .day, .dayOfWeek, .dayOfMonth,
    .dayOfYear, .week, .weekOfYear, .month, .monthOfYear, .quarter, .quarterOfYear, .year]

/-- The name of a unit. -/
def text : TemporalUnit → String
  | .default => "default"
  | .minute => "minute"
  | .minuteOfHour => "minute-of-hour"
  | .hour => "hour"
  | .hourOfDay => "hour-of-day"
  | .day => "day"
  | .dayOfWeek => "day-of-week"
  | .dayOfMonth => "day-of-month"
  | .dayOfYear => "day-of-year"
  | .week => "week"
  | .weekOfYear => "week-of-year"
  | .month => "month"
  | .monthOfYear => "month-of-year"
  | .quarter => "quarter"
  | .quarterOfYear => "quarter-of-year"
  | .year => "year"

/-- Every unit is listed. -/
theorem mem_all (u : TemporalUnit) : u ∈ all := by cases u <;> decide

end TemporalUnit

namespace IntervalUnit

/-- All units in order. -/
def all : List IntervalUnit :=
  [.second, .minute, .hour, .day, .week, .month, .quarter, .year]

/-- The name of a unit. -/
def text : IntervalUnit → String
  | .second => "second"
  | .minute => "minute"
  | .hour => "hour"
  | .day => "day"
  | .week => "week"
  | .month => "month"
  | .quarter => "quarter"
  | .year => "year"

/-- The keyword of a unit. -/
def keyword : IntervalUnit → String
  | .second => "SECOND"
  | .minute => "MINUTE"
  | .hour => "HOUR"
  | .day => "DAY"
  | .week => "WEEK"
  | .month => "MONTH"
  | .quarter => "QUARTER"
  | .year => "YEAR"

/-- Every unit is listed. -/
theorem mem_all (u : IntervalUnit) : u ∈ all := by cases u <;> decide

end IntervalUnit

namespace TimestampUnit

/-- All units in order. -/
def all : List TimestampUnit := [.seconds, .milliseconds]

/-- The name of a unit. -/
def text : TimestampUnit → String
  | .seconds => "seconds"
  | .milliseconds => "milliseconds"

/-- Every unit is listed. -/
theorem mem_all (u : TimestampUnit) : u ∈ all := by cases u <;> decide

end TimestampUnit

/-! ## §3. Units from values. -/

/-- A value that names no unit of the wanted kind. -/
structure UnitError where
  kind : String
  given : Value
  deriving Repr

/-- What to say about a value that names no unit. -/
def UnitError.message (e : UnitError) : String :=
  e.given.literal ++ " is not a valid " ++ e.kind

/-- The unit among `all` that a value names, as a text or as a constant of
the enumeration `kind`. -/
def unitOfValue {α : Type} (kind : String) (all : List α) (text : α → String) (v : Value) :
    Except UnitError α :=
  let found := match v with
    | .text s => all.find? (text · == s)
    | .member k _ s => if k = kind then all.find? (text · == s) else none
    | _ => none
  match found with
  | some u => .ok u
  | none => .error ⟨kind, v⟩

/-- The bucket unit that a value names. -/
def TemporalUnit.ofValue (v : Value) : Except UnitError TemporalUnit :=
  unitOfValue "TemporalUnit" all text v

/-- The interval unit that a value names. -/
def IntervalUnit.ofValue (v : Value) : Except UnitError IntervalUnit :=
  unitOfValue "IntervalUnit" all text v

/-- The timestamp unit that a value names. -/
def TimestampUnit.ofValue (v : Value) : Except UnitError TimestampUnit :=
  unitOfValue "TimestampUnit" all text v

/-- A bucket unit is found by its name. -/
theorem TemporalUnit.ofValue_text (u : TemporalUnit) :
    TemporalUnit.ofValue (.text u.text) = .ok u := by
  cases u <;> rfl

/-- An interval unit is found by its name. -/
theorem IntervalUnit.ofValue_text (u : IntervalUnit) :
    IntervalUnit.ofValue (.text u.text) = .ok u := by
  cases u <;> rfl

end SqlDialect
