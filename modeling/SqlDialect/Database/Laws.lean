/-
  SqlDialect.Database.Laws
  ────────────────────────────────
  **WHAT IS RELIED ON IN A DATABASE.**

  The drivers build expressions of functions that the databases document.
  Here is what the buckets of HANA and of the baseline take from there: how
  dates are taken apart, counted, formatted and read, and how numbers are
  computed with and written.
-/
import SqlDialect.Database.Basic
import SqlDialect.Driver.Builtin

namespace SqlDialect

open SqlDialect.Sql SqlDialect.Calendar SqlDialect.Number

/-! ## §1. Formats. -/

/-- The text `YYYY-MM`. -/
def Calendar.Date.monthText (d : Date) : List Char :=
  paddedText 4 d.year ++ '-' :: paddedText 2 d.month

/-- The text `YYYY-Qn`. -/
def Calendar.Date.quarterText (d : Date) : List Char :=
  paddedText 4 d.year ++ '-' :: 'Q' :: natText d.quarter

/-- The texts `YYYY-MM-DD` and `YYYY-M-DD`, with the month in one digit if
that is enough for it. -/
def Calendar.Date.IsWrittenAs (d : Date) (s : List Char) : Prop :=
  ∃ month, (month = natText d.month ∨ month = paddedText 2 d.month) ∧
    s = paddedText 4 d.year ++ '-' :: month ++ '-' :: paddedText 2 d.day

/-! ## §2. HANA. -/

/-- Whole numbers are computed with, and concatenated in plain decimal. -/
structure HanaNumbers (db : Database) : Prop where
  number (n : Nat) : db.number (String.ofList (natText n)) = some (.int n)
  add (a b : Int) : db.operate .add (.int a) (.int b) = some (.int (a + b))
  sub (a b : Int) : db.operate .sub (.int a) (.int b) = some (.int (a - b))
  mul (a b : Int) : db.operate .mul (.int a) (.int b) = some (.int (a * b))
  concat {v w : Datum} {s t : String} : v.plain? = some s → w.plain? = some t →
    db.operate .concat v w = some (.text (s ++ t))
  year {v : Datum} {d : Date} : v.date? = some d → db.call "YEAR" [v] = some (.int d.year)

/-- Dates and times are taken apart, formatted and read. -/
structure HanaDates (db : Database) : Prop extends HanaNumbers db where
  minute (t : Timestamp) : db.extract "MINUTE" (.timestamp t) = some (.int t.clock.minute)
  hour (t : Timestamp) : db.extract "HOUR" (.timestamp t) = some (.int t.clock.hour)
  toDate {v : Datum} {d : Date} : v.date? = some d → db.call "TO_DATE" [v] = some (.date d)
  readDate {d : Date} {s : List Char} : d.IsWrittenAs s →
    db.call "TO_DATE" [.text (String.ofList s), .text "YYYY-MM-DD"] = some (.date d)
  toChar {v : Datum} {d : Date} : v.date? = some d →
    db.call "TO_CHAR" [v, .text "YYYY-MM"] = some (.text (String.ofList d.monthText))
  /-- Monday is 0. -/
  weekday {v : Datum} {d : Date} : v.date? = some d →
    db.call "WEEKDAY" [v] = some (.int d.weekday.fromMonday)
  dayOfMonth {v : Datum} {d : Date} : v.date? = some d →
    db.call "DAYOFMONTH" [v] = some (.int d.day)
  dayOfYear {v : Datum} {d : Date} : v.date? = some d →
    db.call "DAYOFYEAR" [v] = some (.int d.dayOfYear)
  month {v : Datum} {d : Date} : v.date? = some d → db.call "MONTH" [v] = some (.int d.month)
  quarter {v : Datum} {d : Date} : v.date? = some d →
    db.call "QUARTER" [v] = some (.text (String.ofList d.quarterText))
  /-- The last characters of a text. -/
  right {s : List Char} {n : Nat} : n ≤ s.length →
    db.call "RIGHT" [.text (String.ofList s), .int n]
      = some (.text (String.ofList (s.drop (s.length - n))))
  toInteger (n : Nat) :
    db.call "TO_INTEGER" [.text (String.ofList (natText n))] = some (.int n)
  mod {a b : Nat} : 0 < b → db.call "MOD" [.int a, .int b] = some (.int (a % b : Nat))

/-- Weeks begin on one weekday and are counted anew in each year: if a single
day is enough for the first week, it holds the first of January. -/
structure CountsWeeks (n : WeekNumbering) (week : Date → Nat) : Prop where
  first {d : Date} : n.minDays ≤ 1 → d.dayOfYear = 1 → week d = 1
  next {d d' : Date} : n.minDays ≤ 1 → d'.year = d.year → d'.dayNumber = d.dayNumber + 1 →
    week d' = if d'.weekday.name = n.firstDay then week d + 1 else week d

/-- Weeks are counted as the driver says, and numbers are padded with characters. -/
structure HanaWeeks (db : Database) (week : Date → Nat) : Prop extends HanaNumbers db where
  counts : CountsWeeks Driver.hana.weekNumbering week
  week {v : Datum} {d : Date} : v.date? = some d → db.call "WEEK" [v] = some (.int (week d))
  toVarchar (n : Int) :
    db.call "TO_VARCHAR" [.int n] = some (.text (String.ofList (intText n)))
  /-- Characters in front fill a text up to a width. -/
  lpad {s : List Char} {width : Nat} (c : Char) : s.length ≤ width →
    db.call "LPAD" [.text (String.ofList s), .int width, .text (String.ofList [c])]
      = some (.text (String.ofList (List.replicate (width - s.length) c ++ s)))

/-! ## §3. The baseline. -/

/-- Dates and times are taken apart and truncated. -/
structure StandardDates (db : Database) : Prop where
  number (n : Nat) : db.number (String.ofList (natText n)) = some (.int n)
  add (a b : Int) : db.operate .add (.int a) (.int b) = some (.int (a + b))
  minute (t : Timestamp) : db.extract "MINUTE" (.timestamp t) = some (.int t.clock.minute)
  hour (t : Timestamp) : db.extract "HOUR" (.timestamp t) = some (.int t.clock.hour)
  /-- Sunday is 0. -/
  dayOfWeek {v : Datum} {d : Date} : v.date? = some d →
    db.extract "DOW" v = some (.int d.weekday.fromSunday)
  day {v : Datum} {d : Date} : v.date? = some d → db.extract "DAY" v = some (.int d.day)
  dayOfYear {v : Datum} {d : Date} : v.date? = some d →
    db.extract "DOY" v = some (.int d.dayOfYear)
  month {v : Datum} {d : Date} : v.date? = some d → db.extract "MONTH" v = some (.int d.month)
  quarter {v : Datum} {d : Date} : v.date? = some d →
    db.extract "QUARTER" v = some (.int d.quarter)
  castDate {v : Datum} {d : Date} : v.date? = some d → db.cast v ⟨.date, []⟩ = some (.date d)
  /-- The first instant of a period. -/
  truncate {p : Period} {t first : Timestamp} : p.IsFirstInstant t first →
    db.call "DATE_TRUNC" [.text p.name, .timestamp t] = some (.timestamp first)

end SqlDialect
