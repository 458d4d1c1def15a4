/-
  SqlDialect.Database.Functions
  ────────────────────────────────
  **DATABASES THAT COMPUTE.**

  HANA's functions on dates, texts and numbers as they are documented, and
  those of a database in which the standard ones are all there is.  What
  these do not know has no value.
-/
import SqlDialect.Database.Laws
import SqlDialect.Text.Segment

namespace SqlDialect

open SqlDialect.Sql SqlDialect.Calendar SqlDialect.Number SqlDialect.Text

/-! ## §1. Numbers. -/

/-- The value of decimal digits. -/
def digitsValue (s : List Char) : Nat :=
  s.foldl (fun v c => 10 * v + (c.toNat - '0'.toNat)) 0

/-- The number that digits stand for. -/
def numberOf (digits : String) : Option Datum :=
  if digits.toList.all Char.isDigit then some (.int (digitsValue digits.toList)) else none

/-- Sums, differences and products of whole numbers, and concatenation. -/
def operateOn : Operator → Datum → Datum → Option Datum
  | .add, .int a, .int b => some (.int (a + b))
  | .sub, .int a, .int b => some (.int (a - b))
  | .mul, .int a, .int b => some (.int (a * b))
  | .concat, v, w => do return .text ((← v.plain?) ++ (← w.plain?))
  | _, _, _ => none

/-! ## §2. Dates. -/

/-- The number of a week that begins on Monday; the first of January is in week 1. -/
def Calendar.Date.week (d : Date) : Nat :=
  d.dayNumber / 7 - daysBeforeYear d.year / 7 + 1

/-- The date of a text `YYYY-MM-DD`. -/
def readDate? (s : List Char) : Option Date :=
  match splitOn '-' s with
  | [y, m, d] => (Date.ofFields (digitsValue y) (digitsValue m) (digitsValue d)).toOption
  | _ => none

/-- A function of the date of a value. -/
def ofDate (f : Date → Datum) (v : Datum) : Option Datum := v.date?.map f

/-! ## §3. HANA. -/

/-- The functions of HANA. -/
def hanaCall : String → List Datum → Option Datum
  | "YEAR", [v] => ofDate (fun d => .int d.year) v
  | "MONTH", [v] => ofDate (fun d => .int d.month) v
  | "QUARTER", [v] => ofDate (fun d => .text (String.ofList d.quarterText)) v
  | "WEEK", [v] => ofDate (fun d => .int d.week) v
  | "WEEKDAY", [v] => ofDate (fun d => .int d.weekday.fromMonday) v
  | "DAYOFMONTH", [v] => ofDate (fun d => .int d.day) v
  | "DAYOFYEAR", [v] => ofDate (fun d => .int d.dayOfYear) v
  | "TO_DATE", [v] => ofDate .date v
  | "TO_DATE", [.text s, .text "YYYY-MM-DD"] => (readDate? s.toList).map .date
  | "TO_CHAR", [v, .text "YYYY-MM"] => ofDate (fun d => .text (String.ofList d.monthText)) v
  | "TO_INTEGER", [.text s] => numberOf s
  | "TO_VARCHAR", [.int n] => some (.text (String.ofList (intText n)))
  | "MOD", [.int a, .int b] => some (.int (a.tmod b))
  | "RIGHT", [.text s, .int n] =>
      some (.text (String.ofList (s.toList.drop (s.toList.length - n.toNat))))
  | "LPAD", [.text s, .int width, .text filling] =>
      filling.toList.head?.map fun c =>
        .text (String.ofList (List.replicate (width.toNat - s.toList.length) c ++ s.toList))
  | _, _ => none

/-- The parts of a timestamp that both databases extract alike. -/
def extractClock : String → Datum → Option Datum
  | "MINUTE", .timestamp t => some (.int t.clock.minute)
  | "HOUR", .timestamp t => some (.int t.clock.hour)
  | _, _ => none

/-- HANA. -/
def Database.hana : Database where
  number := numberOf
  fragment _ := none
  call := hanaCall
  cast _ _ := none
  extract := extractClock
  operate := operateOn

/-! ## §4. The baseline. -/

/-- The first instant of a period. -/
def truncateTo (p : Period) (t : Timestamp) : Datum := .timestamp ⟨p.firstDay t.date, .midnight⟩

/-- Truncation to months and quarters. -/
def standardCall : String → List Datum → Option Datum
  | "DATE_TRUNC", [.text "month", .timestamp t] => some (truncateTo .month t)
  | "DATE_TRUNC", [.text "quarter", .timestamp t] => some (truncateTo .quarter t)
  | _, _ => none

/-- The parts of dates and times. -/
def standardExtract : String → Datum → Option Datum
  | "DOW", v => ofDate (fun d => .int d.weekday.fromSunday) v
  | "DAY", v => ofDate (fun d => .int d.day) v
  | "DOY", v => ofDate (fun d => .int d.dayOfYear) v
  | "MONTH", v => ofDate (fun d => .int d.month) v
  | "QUARTER", v => ofDate (fun d => .int d.quarter) v
  | part, v => extractClock part v

/-- A database with the standard functions. -/
def Database.standard : Database where
  number := numberOf
  fragment _ := none
  call := standardCall
  cast v type := if type = ⟨.date, []⟩ then ofDate .date v else none
  extract := standardExtract
  operate := operateOn

end SqlDialect
