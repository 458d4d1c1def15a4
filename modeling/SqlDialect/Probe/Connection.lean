/-
  SqlDialect.Probe.Connection
  ────────────────────────────────
  **DOES A CONNECTION WORK?**

  A driver sends its probe query over a transport.  The connection works
  when one row with one value comes back and the value is the number one.
  `canConnect` answers yes or no and logs why not; `checkConnection` fails
  with a diagnosis instead.  What a probe sees of a failure is its text
  alone, if it has one.
-/
import SqlDialect.Connection.Spec
import SqlDialect.Transport.Run

namespace SqlDialect

open SqlDialect.Text

/-! ## §1. Requests and answers. -/

/-- What is asked of a transport. -/
structure Request where
  descriptor : Descriptor
  sql : String
  timeout : Value
  deriving Repr

/-- What a transport answers: rows, null, or the text of its failure, if the
failure has one. -/
abbrev Answer := Except (Option String) (Option (List Row))

/-- Answers requests. -/
abbrev Answering := Request → Answer

/-- Why a probe gives no result. -/
inductive ProbeError where
  /-- The parameters are no connection. -/
  | spec (reason : SpecError)
  /-- The transport answered null where rows are counted. -/
  | noRows
  /-- The value cannot be compared with one. -/
  | notComparable
  /-- A number in the rows or in the failure has more digits than are
  written. -/
  | tooManyDigits
  /-- The connection failed, with the text for users. -/
  | failed (diagnosis : Diagnosis) (message : String)
  deriving Repr

/-- What to say when a probe gives no result. -/
def ProbeError.message : ProbeError → String
  | .spec reason => reason.message
  | .noRows => "object of type 'NoneType' has no len()"
  | .notComparable => "[<class 'decimal.InvalidOperation'>]"
  | .tooManyDigits => Number.digitLimitMessage none
  | .failed _ message => message

/-- How a probe went: its result, the requests made and what was noted. -/
structure ProbeRun (ε α : Type) where
  outcome : Except ε α
  requests : List Request
  log : List LogRecord

/-- The timeout when none is given: ten seconds. -/
def defaultTimeout : Value := .float (.ofInt 10)

/-! ## §2. The verdict on an answer. -/

/-- One row with one value that is the number one.  Truth values are no
numbers here. -/
def isProbeSuccess (rows : List Row) : Except ProbeError Bool :=
  match rows with
  | [[(_, v)]] => match v.isOne? with
    | none => .error .notComparable
    | some one => .ok (one && !(v matches .bool _))
  | _ => .ok false

namespace Driver

/-- A note of the driver. -/
def note (d : Driver) (level : LogLevel) (message : String) : LogRecord :=
  ⟨level, driverLogger, d.name ++ ": " ++ message⟩

/-- The probe query is about to be sent. -/
def probingNote (d : Driver) (descriptor : Descriptor) : LogRecord :=
  d.note .debug ("probing " ++ descriptor.subname.shown ++ " with "
    ++ (Value.text d.probeQuery).literal)

/-- The rows of an answer that is no success. -/
def resultText (rows : List Row) : String :=
  "probe result: " ++ Value.rowsLiteral rows

/-- The diagnosis of an answer that is no success. -/
def unexpectedResult (rows : List Row) : Diagnosis :=
  ⟨.unclassified, "Unexpected " ++ resultText rows⟩

/-- Send the probe query, if the parameters are a connection. -/
def sendProbe (d : Driver) (ask : Answering) (p : Parameters) (timeout : Value) :
    ProbeRun (Option String) (Option (List Row)) :=
  match d.descriptor p with
  | .error e => ⟨.error (some e.message), [], []⟩
  | .ok descriptor =>
      let request : Request := ⟨descriptor, d.probeQuery, timeout⟩
      ⟨ask request, [request], [d.probingNote descriptor]⟩

/-! ## §3. Probes. -/

/-- The connection works; otherwise the log says why not, unless the rows or
the failure cannot be written. -/
def canConnect (d : Driver) (ask : Answering) (p : Parameters) (timeout : Value) :
    ProbeRun ProbeError Bool :=
  let sent := d.sendProbe ask p timeout
  match sent.outcome with
  | .error text? =>
      let notes := text?.toList.map fun text =>
        d.note .warning ("connection probe failed: " ++ text)
      ⟨.ok false, sent.requests, sent.log ++ notes⟩
  | .ok none => ⟨.error .noRows, sent.requests, sent.log⟩
  | .ok (some rows) => match isProbeSuccess rows with
    | .error e => ⟨.error e, sent.requests, sent.log⟩
    | .ok true => ⟨.ok true, sent.requests, sent.log⟩
    | .ok false =>
        let notes :=
          if Value.rowsAreWritable rows then
            [d.note .warning ("unexpected " ++ resultText rows)]
          else []
        ⟨.ok false, sent.requests, sent.log ++ notes⟩

/-- The connection works; otherwise the failure is diagnosed. -/
def checkConnection (d : Driver) (ask : Answering) (p : Parameters) (timeout : Value) :
    ProbeRun ProbeError Unit :=
  let sent := d.sendProbe ask p timeout
  let outcome : Except ProbeError Unit := match sent.outcome with
    | .error (some text) =>
        let diagnosis := d.diagnose text
        .error (.failed diagnosis (diagnosis.humanize Category.message?))
    | .error none => .error .tooManyDigits
    | .ok none => .error .noRows
    | .ok (some rows) => match isProbeSuccess rows with
      | .error e => .error e
      | .ok true => .ok ()
      | .ok false =>
          if Value.rowsAreWritable rows then
            .error (.failed (unexpectedResult rows) (unexpectedResult rows).message)
          else .error .tooManyDigits
  ⟨outcome, sent.requests, sent.log⟩

end Driver

/-! ## §4. Asking over a transport. -/

namespace ReadyTransport

/-- The session of a request. -/
def session (t : ReadyTransport) (r : Request) : Session TransportError (List Row) :=
  t.run r.descriptor r.sql r.timeout

/-- Answers a request by running its statement. -/
def ask (t : ReadyTransport) : Answering := fun r =>
  match (t.session r).outcome with
  | .ok rows => .ok (some rows)
  | .error e => .error e.message?

/-- The calls that requests take. -/
def calls (t : ReadyTransport) (requests : List Request) : List Event :=
  requests.flatMap fun r => (t.session r).events

/-- A failure is seen by its text, if it has one. -/
theorem ask_of_error {t : ReadyTransport} {r : Request} {e : TransportError}
    (h : (t.session r).outcome = .error e) : t.ask r = .error e.message? := by
  simp [ask, h]

end ReadyTransport

end SqlDialect
