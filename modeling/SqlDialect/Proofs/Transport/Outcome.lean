/-
  SqlDialect.Proofs.Transport.Outcome
  ────────────────────────────────
  **HOW A SESSION ENDS.**

  A session ends as its steps do, one after another, whatever it calls:

      (s >>= next).outcome = s.outcome >>= fun a => (next a).outcome

  So a transport ends as its client library does, each failure reported in its
  way.  Closing matters only when it fails.
-/
import SqlDialect.Proofs.Transport.Options
import SqlDialect.Transport.Run

namespace SqlDialect

/-! ## §1. Sessions. -/

namespace Session

variable {ε ε' α β : Type}

/-- Steps come to the outcome of the second one, or to the failure of the first. -/
theorem outcome_bind (s : Session ε α) (next : α → Session ε β) :
    (s >>= next).outcome = s.outcome >>= fun a => (next a).outcome := by
  cases h : s.outcome with
  | error e => rw [bind_of_error h]; rfl
  | ok a => rw [bind_of_ok h]; rfl

theorem outcome_ofOutcome (outcome : Except ε α) : (ofOutcome outcome).outcome = outcome := rfl

theorem outcome_call (event : Event) (outcome : Except ε α) :
    (call event outcome).outcome = outcome := rfl

theorem outcome_mapError (f : ε → ε') (s : Session ε α) :
    (s.mapError f).outcome = s.outcome.mapError f := rfl

/-- What is done in any case does not change the end if it does not fail. -/
theorem outcome_ensuring {after : Session ε Unit} (h : after.outcome = .ok ())
    (s : Session ε α) : (s.ensuring after).outcome = s.outcome := by
  simp only [ensuring, h]

end Session

/-! ## §2. Statements. -/

namespace Client

/-- The rows under the columns; rows are asked for only if there are columns. -/
def rowsUnder (c : Client) (columns : List String) : Except Failure (List (List Value)) :=
  if columns.isEmpty then .ok [] else c.fetch

/-- What a client library gives for a statement that it has run: the names of
the columns and the rows, or the first failure. -/
def fetched (c : Client) : Except Failure (List String × List (List Value)) := do
  let columns ← c.describe
  let rows ← c.rowsUnder columns
  return (columns, rows)

/-- What a client library gives for a statement. -/
def result (c : Client) : Except Failure (List String × List (List Value)) := do
  c.execute
  c.fetched

/-- Fetching comes to the rows that the client library fetched. -/
theorem outcome_fetchResult (c : Client) : c.fetchResult.outcome = c.fetched := by
  simp only [fetchResult, fetched, rowsUnder, Session.outcome_bind, Session.outcome_ofOutcome]
  congr 1
  funext columns
  split
  · rfl
  · rw [Session.outcome_bind]
    rfl

/-- A statement ends as the client library does. -/
theorem outcome_statement (c : Client) (sql : String) :
    (do
      Session.call (.execute sql) c.execute
      c.fetchResult : Session Failure (List String × List (List Value))).outcome = c.result := by
  rw [Session.outcome_bind, Session.outcome_call, c.outcome_fetchResult]
  rfl

/-- What a client library gives when it opens a file and runs a statement. -/
def fileResult (c : Client) : Except Failure (List String × List (List Value)) := do
  c.connect
  c.result

/-- What a client library gives when it connects to a server and runs a
statement on a cursor. -/
def serverResult (c : Client) : Except Failure (List String × List (List Value)) := do
  c.connect
  c.openCursor
  c.result

end Client

variable {c : Client} {d : Descriptor} {sql : String} {timeout : Value}

/-! ## §3. Transports. -/

/-- A file is asked after its options are read; opening and running are
reported apart. -/
theorem FileTransport.outcome_run (hclose : c.close = .ok ()) :
    (run c d sql timeout).outcome = (do
      let _ ← readOptions "DuckDB" d.options
      c.connect.mapError (.reporting .openFailed)
      let result ← c.result.mapError (.reporting .runFailed)
      nameRows result.1 result.2) := by
  have hafter : (do
      Session.call .cancelTimer (.ok ())
      Session.call .close (c.close.mapError .foreign) : Session TransportError Unit).outcome
      = .ok () := by
    simp only [Session.outcome_bind, Session.outcome_call, hclose]
    rfl
  have hopened : (runOpened c sql).outcome
      = c.result.mapError (.reporting .runFailed) := by
    unfold runOpened
    rw [Session.outcome_ensuring hafter, Session.outcome_mapError, c.outcome_statement]
  simp only [run, Session.outcome_bind, Session.outcome_ofOutcome, Session.outcome_call, hopened]
  rfl

namespace ServerTransport

/-- With a connection that closes, a run comes to the result of its statement,
or to the report of its failure. -/
theorem outcome_runConnected (hcursor : c.closeCursor = .ok ()) (hclose : c.close = .ok ()) :
    (runConnected c sql).outcome = Except.mapError report (do c.openCursor; c.result) := by
  have hafter : (Session.call .closeCursor c.closeCursor).outcome = .ok () := hcursor
  unfold runConnected
  rw [Session.outcome_ensuring (by rw [Session.outcome_call, hclose]; rfl),
    Session.outcome_mapError, Session.outcome_bind, Session.outcome_call]
  simp only [Session.outcome_ensuring hafter, c.outcome_statement]

/-- A server with an address is asked after the timeout is written, the options
are read and no setting comes twice. -/
theorem outcome_run (hhost : d.host ≠ .null) (hport : d.port ≠ .null)
    (hcursor : c.closeCursor = .ok ()) (hclose : c.close = .ok ()) :
    (run c d sql timeout).outcome = (do
      let limit ← (Timeout.text timeout).mapError .timeout
      let named ← namedSettings d
      let _ ← connectSettings c (fixedSettings d.host d.port limit) named
      let result ← c.serverResult.mapError report
      nameRows result.1 result.2) := by
  -- connecting and running are reported in the same way
  have hreported : ∀ next : List String × List (List Value) → Except TransportError (List Row),
      (c.serverResult.mapError report >>= next) = (do
        c.connect.mapError report
        let result ← Except.mapError report (do c.openCursor; c.result)
        next result) := by
    intro next
    unfold Client.serverResult
    cases c.connect <;> rfl
  rw [run_of_address c sql timeout hhost hport]
  simp only [Session.outcome_bind, Session.outcome_ofOutcome, Session.outcome_call,
    outcome_runConnected hcursor hclose, hreported]

end ServerTransport

end SqlDialect
