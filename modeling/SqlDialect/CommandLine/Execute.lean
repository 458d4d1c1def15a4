/-
  SqlDialect.CommandLine.Execute
  ────────────────────────────────
  **WHAT COMMANDS DO.**

  Every command looks up its driver, and what else it names, and then asks
  the library.  Faults in what the words name are refusals of the command
  line; the store is written by `add` and `remove` only.
-/
import SqlDialect.CommandLine.Command
import SqlDialect.CommandLine.Database
import SqlDialect.Driver.ColumnType
import SqlDialect.Driver.Builtin
import SqlDialect.Driver.Temporal
import SqlDialect.Probe.Connection
import SqlDialect.Sql.Reader
import SqlDialect.Sql.Render

namespace SqlDialect.CommandLine

open SqlDialect.Sql SqlDialect.Number

/-! ## §1. What commands share. -/

/-- What the program finds when it starts. -/
structure Surroundings where
  store : Store := {}
  /-- The database that the environment names. -/
  database : Option String := none
  /-- The client library, if it is installed. -/
  client? : Option Client := none
  /-- The library of SQL. -/
  sql : SqlLibrary := .plain

/-- The ids of the drivers. -/
def driverIds : List String := Registry.standard.ids

/-- A result in the wanted format. -/
def inFormat (format : OutputFormat) (data : List (String × Json)) (text : String) : String :=
  match format with
  | .json => (Json.object data).render
  | .text => text

/-- Lines with a break between neighbours. -/
def joinLines (lines : List String) : String := "\n".intercalate lines

/-- Go on with the driver of an id. -/
def withDriver (id : String) (next : Driver → Outcome) : Outcome :=
  match Registry.standard.lookup .standard id with
  | .ok found => (next found.entry.driver).after found.log
  | .error e => .refused (.unusable "DRIVER" (e.message ++ ". Valid: " ++ idsText driverIds))

/-- Go on with the expression of a text in a dialect.  Only a fault of the
grammar is refused. -/
def withExpr (l : SqlLibrary) (dialect : Dialect) (text : String) (next : Expr → Outcome) :
    Outcome :=
  match l.read dialect text with
  | .ok e => next e
  | .error (.grammar message) =>
      .refused (.unusable "EXPR" ("Not a SQL expression: " ++ message))
  | .error fault => .broken (.expression fault)

/-- Go on with the connection that a word names or describes, and its driver. -/
def withConnection (s : Store) (word : String) (next : NamedConnection → Driver → Outcome) :
    Outcome :=
  match findConnection s driverIds word with
  | .ok c => withDriver c.driverId (next c)
  | .error e => { ending := e }

/-! ## §2. Drivers. -/

/-- List the drivers. -/
def listDrivers (format : OutputFormat) : Outcome :=
  .result (inFormat format [("drivers", .list (driverIds.map .text))] (joinLines driverIds))

/-- Give the semantic types of native types; a native type counts once. -/
def showTypes (id : String) (natives : List String) (format : OutputFormat) (d : Driver) :
    Outcome :=
  let types := Settings.ofList (natives.map fun t => (t, (d.semanticType t).1.name))
  let data := [("driver", .text id), ("types", .object (types.mapValues .text).entries)]
  (Outcome.result (inFormat format data
    (joinLines (types.entries.map fun e => e.1 ++ "  " ++ e.2)))).after
    (natives.flatMap fun t => (d.semanticType t).2)

/-- Diagnose the message of a failure. -/
def showDiagnosis (message : String) (format : OutputFormat) (d : Driver) : Outcome :=
  let diagnosis := d.diagnose message
  let category := diagnosis.category.text
  let text := diagnosis.humanize Category.message?
  .result (inFormat format
    [("category", .text category), ("message", .text diagnosis.message),
      ("humanized", .text text)]
    (category ++ ": " ++ text))

/-- The line of a form field. -/
def fieldLine (f : FormField) : String :=
  let default := match f.default with
    | .null => ""
    | v => " [default: " ++ v.shown ++ "]"
  let hint := match f.placeholder with
    | none | some "" => ""
    | some s => "  e.g. " ++ s
  "  " ++ f.name ++ " (" ++ f.kind.text ++ "): " ++ f.label ++ default ++ hint

/-- A form field as data. -/
def fieldData (f : FormField) : Json :=
  .object [("name", .text f.name), ("display_name", .text f.label), ("type", .text f.kind.text),
    ("default", .ofValue f.default), ("placeholder", .ofText? f.placeholder),
    ("required", .bool f.isRequired)]

/-- Show the connection form. -/
def showFields (id : String) (format : OutputFormat) (d : Driver) : Outcome :=
  .result (inFormat format
    [("driver", .text id), ("fields", .list (d.formFields.map fieldData))]
    (joinLines (d.formFields.map fieldLine)))

/-! ## §3. Expressions. -/

/-- Show an expression, with what was asked for. -/
def showSql (asked : List (String × String)) (sql : String) (format : OutputFormat) : Outcome :=
  .result (inFormat format ((asked ++ [("sql", sql)]).map fun e => (e.1, .text e.2)) sql)

/-- Show a bucket of an expression. -/
def showBucket (l : SqlLibrary) (id : String) (unit : TemporalUnit) (text : String)
    (format : OutputFormat) (d : Driver) : Outcome :=
  let dialect := l.dialect d.dialect
  withExpr l dialect text fun e =>
    showSql [("driver", id), ("unit", unit.text)] ((d.bucket unit e).render dialect) format

/-- Show the present time plus an interval. -/
def showInterval (id unit : String) (amount : Binary64) (format : OutputFormat) (d : Driver) :
    Outcome :=
  match d.interval (.text unit) (.float amount) with
  | .ok e => showSql [("driver", id)] (e.render d.dialect) format
  | .error e => .refused (.unusable "AMOUNT" e.message)

/-- Show the time that a timestamp stands for. -/
def showEpoch (l : SqlLibrary) (id text : String) (unit : TimestampUnit) (format : OutputFormat)
    (d : Driver) : Outcome :=
  let dialect := l.dialect d.dialect
  withExpr l dialect text fun e =>
    showSql [("driver", id), ("unit", unit.text)] ((d.ofTimestamp e unit).render dialect) format

/-- Show the statement that sets the time zone of a session. -/
def showTimeZone (id zone : String) (format : OutputFormat) (d : Driver) : Outcome :=
  match d.setTimeZone zone with
  | .ok (some sql) => showSql [("driver", id)] sql format
  | .ok none => .complaint ("error: " ++ id ++ " cannot set a session time zone")
  | .error e => .broken (.template e)

/-! ## §4. Databases. -/

/-- A descriptor as data, with secrets masked. -/
def descriptorData (d : Descriptor) : List (String × Json) :=
  [("driver_class", .text d.driverClass), ("protocol", .text d.protocol),
    ("subname", .ofValue d.subname), ("url", .text d.url), ("host", .ofValue d.host),
    ("port", .ofValue d.port),
    ("properties", .object (d.displayedProperties.map fun e => (e.1, .ofValue e.2))),
    ("options", .text d.options)]

/-- The lines of a descriptor, with secrets masked. -/
def descriptorLines (d : Descriptor) : List String :=
  ["driver: " ++ d.driverClass, "url: " ++ d.url]
    ++ d.displayedProperties.map fun e => "  " ++ e.1 ++ "=" ++ e.2.shown

/-- Show the descriptor of a connection. -/
def showDescriptor (format : OutputFormat) (c : NamedConnection) (d : Driver) : Outcome :=
  match d.descriptor c.parameters with
  | .ok descriptor =>
      .result (inFormat format (descriptorData descriptor)
        (joinLines (descriptorLines descriptor)))
  | .error e => .broken (.spec e)

/-- How the check of a connection ends. -/
def checkEnding (format : OutputFormat) (name : String) : Except ProbeError Unit → Ending
  | .ok () =>
      .result (inFormat format [("connected", .bool true)] ("connected to " ++ name))
  | .error (.failed diagnosis message) =>
      .failure (inFormat format
        [("connected", .bool false), ("category", .text diagnosis.category.text),
          ("error", .text message), ("detail", .text diagnosis.message)]
        ("error: " ++ message))
  | .error e => .broken (.probe e)

/-- Check a connection over its transport. -/
def probe (client? : Option Client) (timeout : Binary64) (format : OutputFormat)
    (c : NamedConnection) (d : Driver) : Outcome :=
  match findTransport c.driverId client? with
  | .error e => .complaint ("error: " ++ e.message)
  | .ok t =>
      let r := d.checkConnection t.ask c.parameters (.float timeout)
      { ending := checkEnding format c.name r.outcome
        log := r.log
        events := t.calls r.requests }

/-! ## §5. The store. -/

/-- The pairs that words give. -/
def pairsOfWords (words : List String) : Except UsageError (List (String × String)) :=
  words.mapM fun word => match readPair? word with
    | some pair => .ok pair
    | none => .error (.unusable "PARAMS" ("Expected key=value, got '" ++ word ++ "'"))

/-- The parameters that words give. -/
def parametersOfWords (words : List String) : Except UsageError Parameters := do
  (parametersOfPairs (← pairsOfWords words)).mapError fun e => .unusable "PARAMS" e.message

/-- Keep a connection. -/
def addConnection (s : Store) (name id : String) (words : List String) : Outcome :=
  match parametersOfWords words with
  | .error e => .refused e
  | .ok parameters => match s.save ⟨name, id, parameters⟩ with
    | .error e => .broken (.store e)
    | .ok s =>
        { Outcome.result ("Saved connection '" ++ name ++ "' (" ++ id ++ ") to " ++ Store.path) with
          written := some s }

/-- What is shown of one setting of a stored connection: options one by one,
and neither its driver nor a secret. -/
def describeSetting (k : String) (v : Value) : List String :=
  if k = NamedConnection.driverKey then []
  else match k == Toml.optionsName, v with
    | true, .map options => options.map fun e => e.1.shown ++ "=" ++ e.2.shown
    | _, v => [k ++ "=" ++ if isSecret k then secretMask else v.shown]

/-- The driver that an entry names. -/
def namedDriver (entry : Settings Value) : Value :=
  (entry.get? NamedConnection.driverKey).getD (.text "?")

/-- The line of a stored connection. -/
def connectionLine (name : String) (entry : Settings Value) : String :=
  let driver := namedDriver entry
  let isKnown := match driver with
    | .text id => driverIds.contains id
    | _ => false
  "  " ++ name ++ " (" ++ driver.shown ++ "): "
    ++ ", ".intercalate (entry.entries.flatMap fun e => describeSetting e.1 e.2)
    ++ if isKnown then "" else "  [unknown driver]"

/-- What to say about an empty store. -/
def emptyStoreText : String :=
  "No connections configured.\nAdd one: dbdialects connect add <name> <driver> <param>=<val>"

/-- The line of what is stored under a name.  A driver that is a list or a map
is not looked for among the ids. -/
def lineOf (name : String) (v : Value) : Except StoreError String := do
  let entry ← Store.tableOf name v
  if (namedDriver entry).isCollection then throw (.driverNotSimple name)
  return connectionLine name entry

/-- The lines of what is stored, up to the first that there is not, and why. -/
def linesOf : List (String × Value) → List String × Option StoreError
  | [] => ([], none)
  | (name, v) :: rest => match lineOf name v with
    | .error e => ([], some e)
    | .ok line => (line :: (linesOf rest).1, (linesOf rest).2)

/-- The listing of the given lines, which breaks off at a fault. -/
def listing : List String × Option StoreError → Outcome
  | (lines, some e) => { ending := .brokenOff lines (.store e) }
  | ([], none) => .result emptyStoreText
  | (lines, none) => .result (joinLines lines)

/-- List the stored connections. -/
def listConnections (s : Store) : Outcome :=
  match s.list with
  | .error e => .broken (.store e)
  | .ok data => listing (linesOf data.entries)

/-- Forget a connection. -/
def removeConnection (s : Store) (name : String) : Outcome :=
  match s.remove name with
  | .error e => .broken (.store e)
  | .ok (false, _) => .complaint ("Connection '" ++ name ++ "' not found.")
  | .ok (true, s) =>
      { Outcome.result ("Removed connection '" ++ name ++ "'.") with written := some s }

/-! ## §6. All commands. -/

/-- The name and version of the program. -/
def versionText : String := "dbdialects, version 0.1.0"

/-- How the program is used. -/
def helpText : String :=
  "Usage: dbdialects [--verbose] COMMAND [OPTIONS] [ARGS]...\n\n"
    ++ "Commands: drivers, types, classify, fields, bucket, interval, epoch, timezone,\n"
    ++ "spec, probe, connect add, connect list, connect remove"

/-- Do what a command asks for. -/
def execute (s : Surroundings) : Command → Outcome
  | .drivers format => listDrivers format
  | .types id natives format => withDriver id (showTypes id natives format)
  | .classify id message format => withDriver id (showDiagnosis message format)
  | .fields id format => withDriver id (showFields id format)
  | .bucket id unit text format => withDriver id (showBucket s.sql id unit text format)
  | .interval id unit amount format => withDriver id (showInterval id unit amount format)
  | .epoch id text unit format => withDriver id (showEpoch s.sql id text unit format)
  | .timeZone id zone format => withDriver id (showTimeZone id zone format)
  | .spec database format => withConnection s.store database (showDescriptor format)
  | .probe database timeout format =>
      withConnection s.store database (probe s.client? timeout format)
  | .addConnection name id words => addConnection s.store name id words
  | .listConnections => listConnections s.store
  | .removeConnection name => removeConnection s.store name
  | .version => .result versionText
  | .help => .result helpText

end SqlDialect.CommandLine
