/-
  SqlDialect.Probe.DatabaseTime
  ────────────────────────────────
  **THE CLOCK OF THE DATABASE.**

  A driver asks the database for its time.  A moment is taken as it is; any
  other value is read by its text in the driver's format.  Without an
  offset the time is universal time.
-/
import SqlDialect.Calendar.Formatted
import SqlDialect.Probe.Connection

namespace SqlDialect

open SqlDialect.Text SqlDialect.Calendar

/-! ## §1. Errors. -/

/-- What to say about a time text that does not follow its format. -/
def timeFaultMessage (format text : String) (fault : TimeFault) : String :=
  let literal (s : String) : String := String.ofList (quoted s.toList)
  match fault with
  | .format (.badDirective c) =>
      "'" ++ String.singleton c ++ "' is a bad directive in format '" ++ format ++ "'"
  | .format .strayPercent => "stray % in format '" ++ format ++ "'"
  | .repeatedField r => r.message
  | .mismatch =>
      "time data " ++ literal text ++ " does not match format " ++ literal format
  | .leftover rest => "unconverted data remains: " ++ String.ofList rest
  | .unknownName name => literal (String.ofList name) ++ " is not in list"
  | .isoYearAlone =>
      "ISO year directive '%G' must be used with the ISO week directive '%V' and a weekday "
        ++ "directive ('%A', '%a', '%w', or '%u')."
  | .isoYearWithDay =>
      "Day of the year directive '%j' is not compatible with ISO year directive '%G'. "
        ++ "Use '%Y' instead."
  | .isoWeekAlone =>
      "ISO week directive '%V' must be used with the ISO year directive '%G' and a weekday "
        ++ "directive ('%A', '%a', '%w', or '%u')."
  | .isoWeekOfPlainYear =>
      "ISO week directive '%V' is incompatible with the year directive '%Y'. "
        ++ "Use the ISO year '%G' instead."
  | .mixedColons t => "Inconsistent use of : in " ++ String.ofList t
  | .badSeconds t =>
      "invalid literal for int() with base 10: " ++ literal (String.ofList t)
  | .offsetRange us =>
      "offset must be a timedelta strictly between -timedelta(hours=24) and "
        ++ "timedelta(hours=24), not " ++ String.ofList (Value.durationLiteral us) ++ "."
  | .field fault => fault.message

/-- Why a driver does not tell the time of the database. -/
inductive DatabaseTimeError where
  /-- The driver has no query for it. -/
  | noQuery (driver : String)
  | queryFailed (driver text : String)
  | noRows (driver : String)
  | unreadable (value : Value) (format : String) (fault : TimeFault)
  /-- A number in the value or in the failure has more digits than are
  written. -/
  | tooManyDigits
  /-- The format of the driver has a field twice. -/
  | repeatedField (r : Repetition)
  /-- The parameters are no connection. -/
  | spec (reason : SpecError)
  deriving Repr

/-- What to say when the time of the database is not told. -/
def DatabaseTimeError.message : DatabaseTimeError → String
  | .noQuery driver => driver ++ " cannot report the database time"
  | .queryFailed driver text => driver ++ " time query failed: " ++ text
  | .noRows driver => driver ++ " time query returned no rows"
  | .unreadable value format fault =>
      "Unparseable database time " ++ value.literal ++ ": "
        ++ timeFaultMessage format value.shown fault
  | .tooManyDigits => Number.digitLimitMessage none
  | .repeatedField r => r.message
  | .spec reason => reason.message

/-! ## §2. Times. -/

namespace Driver

/-- The moment that a value of the database stands for. -/
def momentOf (d : Driver) (value : Value) : Except DatabaseTimeError Moment :=
  match value with
  | .moment m => .ok m.assumingUtc
  | v =>
      if !v.isWritable then .error .tooManyDigits
      else match Moment.ofFormat d.timeFormat.toList v.shownChars with
        | .ok m => .ok m.assumingUtc
        | .error (.repeatedField r) => .error (.repeatedField r)
        | .error fault => .error (.unreadable v d.timeFormat fault)

/-- The moment in an answer: its first value. -/
def momentOfAnswer (d : Driver) (answer : Answer) : Except DatabaseTimeError Moment :=
  match answer with
  | .error (some text) => .error (.queryFailed d.name text)
  | .error none => .error .tooManyDigits
  | .ok (some (((_, v) :: _) :: _)) => d.momentOf v
  | .ok _ => .error (.noRows d.name)

/-- Ask the database for its time. -/
def databaseTime (d : Driver) (ask : Answering) (p : Parameters) (timeout : Value) :
    ProbeRun DatabaseTimeError Moment :=
  match d.timeQuery with
  | none => ⟨.error (.noQuery d.name), [], []⟩
  | some query => match d.descriptor p with
    | .error e => ⟨.error (.spec e), [], []⟩
    | .ok descriptor =>
        let request : Request := ⟨descriptor, query, timeout⟩
        ⟨d.momentOfAnswer (ask request), [request], []⟩

end Driver

end SqlDialect
