/-
  SqlDialect.Transport.Basic
  ────────────────────────────────
  **TRANSPORTS.**

  A transport runs one statement over a client library and returns the rows
  by column name.  What all transports share: the client library, the
  reading of options and the naming of columns.
-/
import SqlDialect.Connection.Descriptor
import SqlDialect.Transport.Failure
import SqlDialect.Transport.Session
import SqlDialect.Transport.Timeout
import SqlDialect.Text.Segment

namespace SqlDialect

open SqlDialect.Text SqlDialect.Number

/-! ## §1. Clients. -/

/-- A client library: what comes of each of its calls. -/
structure Client where
  /-- The name of the function that connects, as it is reported. -/
  connectName : String
  connect : Except Failure Unit := .ok ()
  openCursor : Except Failure Unit := .ok ()
  execute : Except Failure Unit := .ok ()
  /-- The names of the columns; none means that there is nothing to fetch. -/
  describe : Except Failure (List String) := .ok []
  fetch : Except Failure (List (List Value)) := .ok []
  closeCursor : Except Failure Unit := .ok ()
  close : Except Failure Unit := .ok ()

/-! ## §2. Errors. -/

/-- Why a transport returns no rows. -/
inductive TransportError where
  /-- A segment of the options has no equals sign. -/
  | badOption (library part : String)
  | noAddress
  | openFailed (reason : String)
  | runFailed (reason : String)
  /-- The client library reported a failure of its own kind. -/
  | refused (reason : String)
  /-- Any other failure of the client library, as it is. -/
  | foreign (reason : Failure)
  /-- A failure to be reported shows a number with more digits than are
  written. -/
  | tooManyDigits
  | timeout (fault : TimeoutFault)
  /-- A setting that the transport gives itself is given again. -/
  | repeatedSetting (function setting : String)
  | rowTooShort
  | rowTooLong
  deriving Repr

namespace TransportError

/-- A failure of the client library, reported in one's own words. -/
def reporting (report : String → TransportError) (f : Failure) : TransportError :=
  match f.text? with
  | some text => report text
  | none => .tooManyDigits

theorem reporting_of_text (report : String → TransportError) {f : Failure} {text : String}
    (h : f.text? = some text) : reporting report f = report text := by
  rw [reporting, h]

theorem reporting_of_textless (report : String → TransportError) {f : Failure}
    (h : f.text? = none) : reporting report f = .tooManyDigits := by
  rw [reporting, h]

/-- What to say when a transport returns no rows; a failure that passes
through may have nothing to say. -/
def message? : TransportError → Option String
  | .badOption library part =>
      some ("Expected key=value " ++ library ++ " option, got '" ++ part ++ "'")
  | .noAddress => some "HANA requires a host and port"
  | .openFailed reason => some ("DuckDB connection failed: " ++ reason)
  | .runFailed reason => some ("DuckDB execution failed: " ++ reason)
  | .refused reason => some reason
  | .foreign reason => reason.text?
  | .tooManyDigits => some (digitLimitMessage none)
  | .timeout fault => some fault.message
  | .repeatedSetting function setting =>
      some (function ++ "() got multiple values for keyword argument '" ++ setting ++ "'")
  | .rowTooShort => some "zip() argument 2 is shorter than argument 1"
  | .rowTooLong => some "zip() argument 2 is longer than argument 1"

end TransportError

/-! ## §3. Options. -/

/-- One option from a segment `key=value`, without the blanks around both. -/
def readOption (library : String) (part : List Char) :
    Except TransportError (String × String) :=
  match cut? '=' part with
  | some (k, v) => .ok (String.ofList (trim k), String.ofList (trim v))
  | none => .error (.badOption library (String.ofList part))

/-- The options of a descriptor; empty segments do not count. -/
def readOptions (library : String) (options : String) :
    Except TransportError (Settings String) :=
  let parts := (splitOn '&' options.toList).filter (!·.isEmpty)
  .ofList <$> parts.mapM (readOption library)

/-! ## §4. Rows. -/

/-- The values of a row by column. -/
abbrev Row := List (Value × Value)

/-- A row with the names of its columns; of columns of one name the last
value counts. -/
def nameRow (columns : List String) (row : List Value) : Except TransportError Row :=
  if row.length < columns.length then .error .rowTooShort
  else if columns.length < row.length then .error .rowTooLong
  else .ok (Entries.ofList Value.same ((columns.map .text).zip row))

/-- Rows with the names of their columns. -/
def nameRows (columns : List String) (rows : List (List Value)) :
    Except TransportError (List Row) :=
  rows.mapM (nameRow columns)

/-- The columns of a result, and its rows if there are columns. -/
def Client.fetchResult (c : Client) : Session Failure (List String × List (List Value)) := do
  let columns ← .ofOutcome c.describe
  let rows ← if columns.isEmpty then pure [] else .call .fetch c.fetch
  return (columns, rows)

end SqlDialect
