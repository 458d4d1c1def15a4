/-
  SqlDialect.Driver.Temporal
  ────────────────────────────────
  **TEMPORAL EXPRESSIONS AND THE SESSION TIME ZONE.**

  How drivers bucket dates, turn timestamps into times and add intervals.
  The baseline truncates and extracts.  HANA cannot truncate, so it formats
  a date to a text and reads it back.  The statement that sets the time zone
  of a session has one place for the zone as a text literal.
-/
import SqlDialect.Driver.Basic
import SqlDialect.Sql.Expr
import SqlDialect.Temporal.Unit
import SqlDialect.Sql.Lexeme
import SqlDialect.Text.Template

namespace SqlDialect

open SqlDialect.Sql SqlDialect.Number SqlDialect.Calendar SqlDialect.Text

namespace Driver

/-! ## §1. The baseline. -/

/-- The first instant of the period. -/
def truncated (period : String) (e : Expr) : Expr :=
  .call "DATE_TRUNC" [.text period, e]

/-- The expression that buckets a date in standard SQL. -/
def standardBucket (u : TemporalUnit) (e : Expr) : Expr :=
  match u with
  | .default => e
  | .minute => truncated "minute" e
  | .minuteOfHour => .extract "MINUTE" e
  | .hour => truncated "hour" e
  | .hourOfDay => .extract "HOUR" e
  | .day => .cast e ⟨.date, []⟩
  -- 1 is Sunday
  | .dayOfWeek => .add (.extract "DOW" e) (.ofNat 1)
  | .dayOfMonth => .extract "DAY" e
  | .dayOfYear => .extract "DOY" e
  | .week => truncated "week" e
  | .weekOfYear => .extract "WEEK" e
  | .month => truncated "month" e
  | .monthOfYear => .extract "MONTH" e
  | .quarter => truncated "quarter" e
  | .quarterOfYear => .extract "QUARTER" e
  | .year => truncated "year" e

/-! ## §2. HANA. -/

/-- The number of the quarter: the last character of `YYYY-Qn`. -/
def hanaQuarter (e : Expr) : Expr :=
  .call "TO_INTEGER" [.call "RIGHT" [.call "QUARTER" [e], .ofNat 1]]

/-- The date that a text `YYYY-MM-DD` stands for. -/
def hanaDate (e : Expr) : Expr :=
  .call "TO_DATE" [e, .text "YYYY-MM-DD"]

/-- The expression that buckets a date in HANA. -/
def hanaBucket (u : TemporalUnit) (e : Expr) : Expr :=
  match u with
  | .default => e
  | .minute => .call "MINUTE" [e]
  | .minuteOfHour => .extract "MINUTE" e
  | .hour => .call "HOUR" [e]
  | .hourOfDay => .extract "HOUR" e
  | .day => .call "TO_DATE" [e]
  -- the weekday counts from Monday as 0; the bucket from Sunday as 1
  | .dayOfWeek =>
      .add (.call "MOD" [.add (.call "WEEKDAY" [e]) (.ofNat 1), .ofNat 7]) (.ofNat 1)
  | .dayOfMonth => .call "DAYOFMONTH" [e]
  | .dayOfYear => .call "DAYOFYEAR" [e]
  -- year first and two digits for the week, so that texts sort like dates
  | .week =>
      .concat (.call "YEAR" [e])
        [.call "LPAD" [.call "TO_VARCHAR" [.call "WEEK" [e]], .ofNat 2, .text "0"]]
  | .weekOfYear => .call "WEEK" [e]
  | .month => hanaDate (.concat (.call "TO_CHAR" [e, .text "YYYY-MM"]) [.text "-01"])
  | .monthOfYear => .call "MONTH" [e]
  -- quarter q starts in month 3q - 2
  | .quarter =>
      let month := .sub (.mul (hanaQuarter e) (.ofNat 3)) (.ofNat 2)
      hanaDate (.concat (.call "YEAR" [e]) [.text "-", .paren month, .text "-01"])
  | .quarterOfYear => hanaQuarter e
  | .year => .call "YEAR" [e]

/-! ## §3. Buckets and timestamps. -/

/-- The expression bucketed to a unit. -/
def bucket (d : Driver) (u : TemporalUnit) (e : Expr) : Expr :=
  match d.family with
  | .hana => hanaBucket u e
  | .standard | .duckdb => standardBucket u e

/-- The number of the week. -/
def weekOfYear (d : Driver) (e : Expr) : Expr := d.bucket .weekOfYear e

/-- The number of the quarter, in families that build it from a text. -/
def quarterNumber? (d : Driver) (e : Expr) : Option Expr :=
  match d.family with
  | .hana => some (hanaQuarter e)
  | .standard | .duckdb => none

/-- The present time. -/
def now : Expr := .raw "CURRENT_TIMESTAMP"

/-- The instant from which timestamps count. -/
def epoch (d : Driver) : Expr :=
  match d.family with
  | .hana => .call "TO_TIMESTAMP" [.text "1970-01-01", .text "YYYY-MM-DD"]
  | .standard | .duckdb => .cast (.text "1970-01-01") ⟨.timestamp, []⟩

/-- The time a number of seconds later. -/
def addSeconds (d : Driver) (e seconds : Expr) : Expr :=
  match d.family with
  | .hana => .call "ADD_SECONDS" [e, seconds]
  | .standard | .duckdb => .add e (.mul (.paren seconds) .oneSecond)

/-- The time that a timestamp counted in the given unit stands for. -/
def ofTimestamp (d : Driver) (e : Expr) (u : TimestampUnit) : Expr :=
  d.addSeconds d.epoch <| match u with
    | .seconds => e
    | .milliseconds => .div e (.ofNat 1000)

/-- The number of characters of a text. -/
def stringLength (e : Expr) : Expr := .call "LENGTH" [e]

/-- A time of day. -/
def timeLiteral (c : Clock) : Expr :=
  .cast (.text (String.ofList c.text)) ⟨.time, []⟩

/-! ## §4. Intervals. -/

/-- The most units of an interval. -/
def maxIntervalAmount : Nat := 1000000

/-- Why an interval is refused. -/
inductive IntervalError where
  | unit (e : UnitError)
  | notANumber (given : Value)
  | notFinite (given : Value)
  | outOfRange (count : Int)
  /-- The amount is too large to be compared with a floating-point number. -/
  | tooLarge
  deriving Repr

/-- What to say about a refused interval. -/
def IntervalError.message : IntervalError → String
  | .unit e => e.message
  | .notANumber v => "Interval amount must be a number, got " ++ v.literal
  | .notFinite v => "Interval amount must be finite, got " ++ v.literal
  | .outOfRange n =>
      "Interval amount " ++ String.ofList (intText n) ++ " is out of range (max 1,000,000)"
  | .tooLarge => "Interval amount is too large"

/-- The whole number of units that an amount stands for: whole numbers,
floating-point numbers and fractions are truncated, all else is refused. -/
def intervalCount (amount : Value) : Except IntervalError Int := do
  let count ← match amount with
    | .int n => if (Binary64.ofInt n).isFinite then pure n else throw .tooLarge
    | .float x => match x.trunc? with
      | some n => pure n
      | none => throw (.notFinite amount)
    | .fraction n d =>
        if (Binary64.ofRatio false n.natAbs d).isFinite then pure (n.tdiv d) else throw .tooLarge
    | _ => throw (.notANumber amount)
  if maxIntervalAmount < count.natAbs then throw (.outOfRange count)
  return count

/-- The fragment for an interval of whole units. -/
def intervalFragment (d : Driver) (count : Int) (u : IntervalUnit) : String :=
  let n := String.ofList (intText count)
  match d.family with
  | .hana => "INTERVAL " ++ n ++ " " ++ u.keyword
  -- in quotes, so that a negative count is read as one
  | .standard | .duckdb => "INTERVAL '" ++ n ++ "' " ++ u.keyword

/-- The present time plus an amount of units. -/
def interval (d : Driver) (unit amount : Value) : Except IntervalError Expr := do
  let u ← (IntervalUnit.ofValue unit).mapError .unit
  let count ← intervalCount amount
  return .add now (.raw (d.intervalFragment count u))

/-! ## §5. The session time zone. -/

/-- The statement that sets the session time zone, if the driver has one. -/
def setTimeZone (d : Driver) (zone : String) : Except TemplateError (Option String) :=
  match d.timeZoneTemplate with
  | none => .ok none
  | some t =>
      (fun s => some (String.ofList s)) <$> Template.apply t.toList (textLiteral zone.toList)

end Driver

end SqlDialect
