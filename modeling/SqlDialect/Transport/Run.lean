/-
  SqlDialect.Transport.Run
  ────────────────────────────────
  **STATEMENTS OVER A FILE OR A SERVER.**

  The client of a file opens it with the options as its configuration.  A
  timer interrupts a statement that takes too long; timer and connection are
  done with however the statement ends.

  The client of a server connects with an address, two timeouts, the options
  and the named properties, where a property goes before an option of its
  name.  Cursor and connection are closed however the statement ends.  Only
  failures of the client's own kind become failures of the transport.
-/
import SqlDialect.Transport.Basic

namespace SqlDialect.FileTransport

/-! ## §1. Files. -/

/-- Run a statement on the open file, with the timer running. -/
def runOpened (c : Client) (sql : String) :
    Session TransportError (List String × List (List Value)) :=
  let statement : Session Failure (List String × List (List Value)) := do
    .call (.execute sql) c.execute
    c.fetchResult
  (statement.mapError (.reporting .runFailed)).ensuring do
    .call .cancelTimer (.ok ())
    .call .close (c.close.mapError .foreign)

/-- Run a statement on the file of a descriptor. -/
def run (c : Client) (d : Descriptor) (sql : String) (timeout : Value) :
    Session TransportError (List Row) := do
  let path := (d.properties.get? "path").getD (.text ":memory:")
  let config ← .ofOutcome (readOptions "DuckDB" d.options)
  .call (.openFile path config) (c.connect.mapError (.reporting .openFailed))
  .call (.startTimer timeout) (.ok ())
  let (columns, rows) ← runOpened c sql
  .ofOutcome (nameRows columns rows)

end SqlDialect.FileTransport

namespace SqlDialect.ServerTransport

/-! ## §2. Servers. -/

/-- The settings that the transport gives itself. -/
def fixedSettings (host port : Value) (limit : String) : List (String × Value) :=
  [("address", host), ("port", port), ("connectTimeout", .text limit),
    ("communicationTimeout", .text limit)]

/-- The options of a descriptor with its properties over them. -/
def namedSettings (d : Descriptor) : Except TransportError (Settings Value) := do
  let options ← readOptions "HANA" d.options
  return (options.mapValues .text).overlay d.properties.entries

/-- All settings to connect with; no name may come twice. -/
def connectSettings (c : Client) (fixed : List (String × Value)) (named : Settings Value) :
    Except TransportError (List (String × Value)) :=
  match named.keys.find? ((fixed.map (·.1)).contains ·) with
  | some k => .error (.repeatedSetting c.connectName k)
  | none => .ok (fixed ++ named.entries)

/-- How a failure of the client is reported. -/
def report (f : Failure) : TransportError :=
  if f.kind = .client then .reporting .refused f else .foreign f

/-- Run a statement on the open connection. -/
def runConnected (c : Client) (sql : String) :
    Session TransportError (List String × List (List Value)) :=
  let statement : Session Failure (List String × List (List Value)) := do
    .call .openCursor c.openCursor
    let inCursor : Session Failure (List String × List (List Value)) := do
      .call (.execute sql) c.execute
      c.fetchResult
    inCursor.ensuring (.call .closeCursor c.closeCursor)
  (statement.mapError report).ensuring (.call .close (c.close.mapError .foreign))

/-- Run a statement on the server of a descriptor. -/
def run (c : Client) (d : Descriptor) (sql : String) (timeout : Value) :
    Session TransportError (List Row) := do
  if d.host matches .null || d.port matches .null then .ofOutcome (.error .noAddress)
  else
    let limit ← .ofOutcome ((Timeout.text timeout).mapError .timeout)
    let named ← .ofOutcome (namedSettings d)
    let settings ← .ofOutcome (connectSettings c (fixedSettings d.host d.port limit) named)
    .call (.connect settings) (c.connect.mapError report)
    let (columns, rows) ← runConnected c sql
    .ofOutcome (nameRows columns rows)

end SqlDialect.ServerTransport

namespace SqlDialect

/-! ## §3. Finding a transport. -/

/-- The transports there are. -/
inductive TransportKind where
  | file | server
  deriving Repr, DecidableEq

namespace TransportKind

/-- The transport of the driver with the given id. -/
def ofId? : String → Option TransportKind
  | "duckdb" => some .file
  | "hana" => some .server
  | _ => none

/-- Run a statement over the client library. -/
def run : TransportKind → Client → Descriptor → String → Value →
    Session TransportError (List Row)
  | .file => FileTransport.run
  | .server => ServerTransport.run

end TransportKind

/-- A transport with the client library it runs over. -/
structure ReadyTransport where
  kind : TransportKind
  client : Client

/-- Why a driver has no transport. -/
inductive TransportLack where
  | unavailable (id : String)
  | missingLibrary (id : String)
  deriving Repr

/-- What to say when a driver has no transport. -/
def TransportLack.message : TransportLack → String
  | .unavailable id => "No transport available for '" ++ id ++ "'"
  | .missingLibrary id =>
      "Missing client library for " ++ id ++ ". Install with: pip install 'dbdialects[" ++ id
        ++ "]'"

/-- The transport of a driver, if there is one and its library is installed. -/
def findTransport (id : String) (client? : Option Client) :
    Except TransportLack ReadyTransport :=
  match TransportKind.ofId? id, client? with
  | none, _ => .error (.unavailable id)
  | some _, none => .error (.missingLibrary id)
  | some kind, some client => .ok ⟨kind, client⟩

/-- Run a statement. -/
def ReadyTransport.run (t : ReadyTransport) : Descriptor → String → Value →
    Session TransportError (List Row) :=
  t.kind.run t.client

end SqlDialect
