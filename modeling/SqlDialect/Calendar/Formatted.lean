/-
  SqlDialect.Calendar.Formatted
  ────────────────────────────────
  **TIMES READ BY A FORMAT.**

  What the fields have taken is noted one after the other; where two tell
  the same thing the later one counts.  The day of the year goes before a
  week, a week with a day of the week before month and day.  An ISO week
  needs its ISO year and a day of the week.
-/
import SqlDialect.Calendar.Capture
import SqlDialect.Calendar.Reading
import SqlDialect.Calendar.Weekday

namespace SqlDialect.Calendar

open SqlDialect.Text SqlDialect.Number

/-! ## §1. Faults. -/

/-- Why a time text is refused. -/
inductive TimeFault where
  | format (fault : FormatFault)
  | repeatedField (r : Repetition)
  | mismatch
  | leftover (rest : List Char)
  /-- A text that is a name but for the case of its letters, and whose lower
  case is no name. -/
  | unknownName (lowered : List Char)
  | mixedColons (offset : List Char)
  | badSeconds (text : List Char)
  | offsetRange (microseconds : Int)
  /-- An ISO year without an ISO week or without a day of the week. -/
  | isoYearAlone
  | isoYearWithDay
  /-- An ISO week without a day of the week. -/
  | isoWeekAlone
  | isoWeekOfPlainYear
  | field (fault : FieldError)
  deriving Repr, DecidableEq

/-! ## §2. Offsets. -/

/-- The value of a text of digits. -/
def digitsValue (s : List Char) : Nat :=
  ofDigits (s.filterMap digit?)

/-- The offset in microseconds that an offset text stands for.  A colon
after the hours asks for one after the minutes. -/
def offsetValue (t : List Char) : Except TimeFault Int := do
  if t = ['Z'] then return 0
  let rest ← match t.drop 3 with
    | ':' :: rest => match rest.drop 2 with
      | [] => pure rest
      | ':' :: tail => pure (rest.take 2 ++ tail)
      | _ => throw (.mixedColons t)
    | rest => pure rest
  let seconds := (rest.drop 2).take 2
  if seconds.contains ':' then throw (.badSeconds seconds)
  let minutes := digitsValue ((t.drop 1).take 2) * 60 + digitsValue (rest.take 2)
  let total : Nat := (minutes * 60 + digitsValue seconds) * 1000000
    + microseconds ((rest.drop 5).filterMap digit?)
  return if t.take 1 = ['-'] then -total else total

/-! ## §3. Notes. -/

/-- What the fields of a text say. -/
structure TimeNotes where
  year : Option Nat := none
  isoYear : Option Nat := none
  month : Nat := 1
  day : Nat := 1
  dayOfYear : Option Nat := none
  /-- A plain week and the day on which it begins. -/
  week : Option (WeekStart × Nat) := none
  isoWeek : Option Nat := none
  /-- The day of the week, 0 for Monday. -/
  weekday : Option Nat := none
  hour : Nat := 0
  minute : Nat := 0
  second : Nat := 0
  microsecond : Nat := 0
  /-- The offset in microseconds. -/
  offset : Option Int := none
  deriving Repr

/-- The place of a name in a list. -/
def placeOfName (names : List String) (taken : List Char) : Except TimeFault Nat :=
  match names.findIdx? (·.toList == lower taken) with
  | some i => .ok i
  | none => .error (.unknownName (lower taken))

/-- The captures say that it is after noon. -/
def isAfternoon (captures : Captures) : Bool :=
  (captures.lookup .half).any fun taken => lower taken == "pm".toList

/-- Note what a field has taken. -/
def TimeNotes.note (captures : Captures) (n : TimeNotes) (f : Field) (taken : List Char) :
    Except TimeFault TimeNotes :=
  let k := digitsValue taken
  match f with
  | .year => .ok { n with year := some k }
  | .shortYear => .ok { n with year := some (if k ≤ 68 then 2000 + k else 1900 + k) }
  | .isoYear => .ok { n with isoYear := some k }
  | .month => .ok { n with month := k }
  | .monthName | .shortMonthName => do
      let i ← placeOfName (f.names?.getD []) taken
      return { n with month := i + 1 }
  | .day => .ok { n with day := k }
  | .dayOfYear => .ok { n with dayOfYear := some k }
  | .weekday | .shortWeekday => do
      let i ← placeOfName (f.names?.getD []) taken
      return { n with weekday := some i }
  | .weekdayDigit => .ok { n with weekday := some (k - 1) }
  | .sundayDigit => .ok { n with weekday := some ((k + 6) % 7) }
  | .sundayWeek => .ok { n with week := some (.sunday, k) }
  | .mondayWeek => .ok { n with week := some (.monday, k) }
  | .isoWeek => .ok { n with isoWeek := some k }
  | .hour => .ok { n with hour := k }
  | .hourOfHalf => .ok { n with hour := k % 12 + if isAfternoon captures then 12 else 0 }
  | .minute => .ok { n with minute := k }
  | .second => .ok { n with second := k }
  | .fraction => .ok { n with microsecond := microseconds (taken.filterMap digit?) }
  | .offset => do return { n with offset := some (← offsetValue taken) }
  | .half | .zone => .ok n

/-- Note what all fields have taken. -/
def TimeNotes.ofCaptures (captures : Captures) : Except TimeFault TimeNotes :=
  captures.foldlM (fun n (f, taken) => n.note captures f taken) {}

/-! ## §4. Dates. -/

namespace TimeNotes

/-- The ISO fields go together. -/
def checkIso (n : TimeNotes) : Except TimeFault Unit :=
  if n.year.isNone && n.isoYear.isSome then
    if n.isoWeek.isNone || n.weekday.isNone then .error .isoYearAlone
    else if n.dayOfYear.isSome then .error .isoYearWithDay
    else .ok ()
  else if n.week.isNone && n.isoWeek.isSome then
    .error (if n.weekday.isNone then .isoWeekAlone else .isoWeekOfPlainYear)
  else .ok ()

/-- The 29th of February without a year. -/
def isLeapDay (n : TimeNotes) : Bool :=
  n.year.isNone && n.month == 2 && n.day == 29

/-- The year: the one given, or 1900, or for a leap day 1904. -/
def givenYear (n : TimeNotes) : Nat :=
  n.year.getD (if n.isLeapDay then 1904 else 1900)

/-- The date that the notes tell. -/
def date (n : TimeNotes) : Except FieldError Date :=
  match n.dayOfYear, n.weekday, n.week, n.isoYear, n.isoWeek with
  | some d, _, _, _, _ => Date.ofDay n.givenYear d
  | none, some w, some (start, week), _, _ =>
      Date.ofDay n.givenYear (dayOfWeek n.givenYear start week w)
  | none, some w, none, some y, some week => Date.ofDay y (dayOfIsoWeek y week w)
  | _, _, _, _, _ => Date.ofFields n.givenYear n.month n.day

/-- The moment that the notes tell.  A leap day without a year ends up in
the year 1900, which has none. -/
def moment (n : TimeNotes) : Except TimeFault Moment := do
  n.checkIso
  let date ← n.date.mapError .field
  let offset ← n.offset.mapM fun us => match Offset.ofMicroseconds? us with
    | some o => pure o
    | none => throw (.offsetRange us)
  let date ← if n.isLeapDay then (Date.ofFields 1900 date.month date.day).mapError .field
    else pure date
  let clock ← (Clock.ofFields n.hour n.minute n.second n.microsecond).mapError .field
  return ⟨date, clock, offset⟩

end TimeNotes

/-! ## §5. Reading a time. -/

/-- The moment that a time text stands for in the given format. -/
def Moment.ofFormat (format text : List Char) : Except TimeFault Moment := do
  let ps ← (pieces format).mapError .format
  if let some r := repetition? [] 0 0 ps then throw (.repeatedField r)
  let (captures, rest) ← match takeAll? ps text with
    | some x => pure x
    | none => throw .mismatch
  if !rest.isEmpty then throw (.leftover rest)
  (← TimeNotes.ofCaptures captures).moment

end SqlDialect.Calendar
