/-
  SqlDialect.Value.Text
  ────────────────────────────────
  **VALUES AS TEXT.**

  `shown` is the text of a value by itself; `literal` also tells its kind:
  texts stand in quotes, dates and decimals name what they are.  Inside a
  list or a map every value is shown by its literal.
-/
import SqlDialect.Value.Basic
import SqlDialect.Number.FloatText
import SqlDialect.Number.Integer
import SqlDialect.Text.Quote
import SqlDialect.Text.Segment

namespace SqlDialect.Value

open SqlDialect.Text SqlDialect.Number SqlDialect.Calendar

/-! ## §1. Parts. -/

/-- Numbers with a comma and a space between them. -/
def numbersText (ns : List Nat) : List Char :=
  join [',', ' '] (ns.map natText)

/-- A name applied to its arguments. -/
def applied (name : String) (arguments : List Char) : List Char :=
  name.toList ++ '(' :: arguments ++ [')']

/-- A span of time in days, seconds and microseconds. -/
def durationLiteral (us : Int) : List Char :=
  let part (name : String) (n : Int) : List (List Char) :=
    if n = 0 then [] else [name.toList ++ '=' :: intText n]
  let parts := part "days" (us / Offset.day)
    ++ part "seconds" (us % Offset.day / 1000000) ++ part "microseconds" (us % 1000000)
  applied "datetime.timedelta" (if parts.isEmpty then ['0'] else join [',', ' '] parts)

/-- The offset as the last argument of a time. -/
def zoneArgument : Option Offset → List Char
  | none => []
  | some o =>
      ", tzinfo=".toList ++
        if o.microseconds = 0 then "datetime.timezone.utc".toList
        else applied "datetime.timezone" (durationLiteral o.microseconds)

/-- Hour, minute and what else of a time is not zero. -/
def clockFields (c : Clock) : List Nat :=
  if c.microsecond ≠ 0 then [c.hour, c.minute, c.second, c.microsecond]
  else if c.second ≠ 0 then [c.hour, c.minute, c.second]
  else [c.hour, c.minute]

/-- Year, month and day. -/
def dateFields (d : Date) : List Nat :=
  [d.year, d.month, d.day]

/-! ## §2. Literals. -/

mutual

/-- The text of a value that tells its kind. -/
def literalChars : Value → List Char
  | .null => "None".toList
  | .bool b => (if b then "True" else "False").toList
  | .int n => intText n
  | .float x => x.text
  | .decimal d => applied "Decimal" ('\'' :: d.text ++ ['\''])
  | .fraction n d => applied "Fraction" (intText n ++ ',' :: ' ' :: natText d)
  | .text s => quoted s.toList
  | .date d => applied "datetime.date" (numbersText (dateFields d))
  | .time c o => applied "datetime.time" (numbersText (clockFields c) ++ zoneArgument o)
  | .moment m =>
      applied "datetime.datetime"
        (numbersText (dateFields m.date ++ clockFields m.clock) ++ zoneArgument m.offset)
  | .list items => '[' :: join [',', ' '] (literalItems items) ++ [']']
  | .map entries => '{' :: join [',', ' '] (literalEntries entries) ++ ['}']
  | .member e n v => '<' :: e.toList ++ '.' :: n.toList ++ ':' :: ' ' :: quoted v.toList ++ ['>']

/-- The literals of the items of a list. -/
def literalItems : List Value → List (List Char)
  | [] => []
  | v :: rest => literalChars v :: literalItems rest

/-- The literals of the entries of a map. -/
def literalEntries : List (Value × Value) → List (List Char)
  | [] => []
  | (k, v) :: rest => (literalChars k ++ ':' :: ' ' :: literalChars v) :: literalEntries rest

end

mutual

/-- No whole number in the value has more digits than are written. -/
def isWritable : Value → Bool
  | .int n => Number.isWritable n
  | .fraction n d => Number.isWritable n && Number.isWritable d
  | .list items => areWritable items
  | .map entries => entriesAreWritable entries
  | _ => true

/-- The items of a list can be written. -/
def areWritable : List Value → Bool
  | [] => true
  | v :: rest => isWritable v && areWritable rest

/-- The entries of a map can be written. -/
def entriesAreWritable : List (Value × Value) → Bool
  | [] => true
  | (k, v) :: rest => isWritable k && isWritable v && entriesAreWritable rest

end

/-- The text of a value that tells its kind. -/
def literal (v : Value) : String :=
  String.ofList v.literalChars

/-! ## §3. Plain texts. -/

/-- The text of a value by itself. -/
def shownChars : Value → List Char
  | .text s => s.toList
  | .decimal d => d.text
  | .fraction n d => if d = 1 then intText n else intText n ++ '/' :: natText d
  | .date d => d.text
  | .time c o => c.text ++ Moment.offsetText o
  | .moment m => m.text ' '
  | .member e n _ => e.toList ++ '.' :: n.toList
  | v => v.literalChars

/-- The text of a value by itself. -/
def shown (v : Value) : String :=
  String.ofList v.shownChars

/-- A text shows as itself. -/
@[simp] theorem shown_text (s : String) : (Value.text s).shown = s := by
  simp [shown, shownChars]

/-- The literal of a list of rows, each a map. -/
def rowsLiteral (rows : List (List (Value × Value))) : String :=
  (Value.list (rows.map .map)).literal

/-- A list of rows can be written. -/
def rowsAreWritable (rows : List (List (Value × Value))) : Bool :=
  (Value.list (rows.map .map)).isWritable

end SqlDialect.Value
