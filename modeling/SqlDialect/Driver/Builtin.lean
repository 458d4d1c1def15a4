/-
  SqlDialect.Driver.Builtin
  ────────────────────────────────
  **THE BUILT-IN DRIVERS.**

  The standard driver is the baseline; the HANA and DuckDB drivers say only
  where they differ from it.  Each driver has a form with the fields that a
  user fills in to connect through it.
-/
import SqlDialect.Driver.Basic
import SqlDialect.Value.Basic

namespace SqlDialect

namespace Driver

/-! ## §1. The baseline. -/

/-- The column types of standard SQL. -/
def standardTypes : Settings SemanticType := .ofList [
  ("BIGINT", .bigInteger), ("BLOB", .blob), ("CHAR", .text), ("CHARACTER", .text),
  ("CHARACTER VARYING", .text), ("CLOB", .text), ("DATE", .date), ("DECIMAL", .decimal),
  ("DOUBLE", .float), ("DOUBLE PRECISION", .float), ("FLOAT", .float), ("INT", .integer),
  ("INTEGER", .integer), ("NUMERIC", .decimal), ("REAL", .float), ("SMALLINT", .integer),
  ("TEXT", .text), ("TIME", .time), ("TIMESTAMP", .dateTime), ("VARBINARY", .blob),
  ("VARCHAR", .text)]

/-- The driver for databases with standard temporal functions. -/
def standard : Driver where
  family := .standard
  name := "sql"
  quoteStyle := .ansi
  excludedSchemas := []
  timeZoneTemplate := none
  columnTypes := standardTypes
  rules := []
  weekNumbering := ⟨"monday", 4⟩
  driverClass := "java.sql.Driver"
  protocol := "sql"
  defaultHost := "localhost"
  defaultPort := none
  defaultUser := "dbuser"
  defaultPath := ":memory:"
  databaseProperty := "database"
  encryptProperty := "ssl"
  separatorStyle := .url
  defaultOptions := .empty
  optionsPlaceholder := none
  probeQuery := "SELECT 1"
  timeQuery := some "SELECT CURRENT_TIMESTAMP"
  timeFormat := "%Y-%m-%d %H:%M:%S.%f"

/-! ## §2. HANA. -/

/-- The column types of HANA. -/
def hanaTypes : Settings SemanticType := .ofList [
  ("ALPHANUM", .text), ("BIGINT", .bigInteger), ("BLOB", .blob), ("CLOB", .text),
  ("DATE", .date), ("DECIMAL", .decimal), ("DOUBLE", .float), ("INTEGER", .integer),
  ("NCLOB", .text), ("NVARCHAR", .text), ("REAL", .float), ("SECONDDATE", .dateTime),
  ("SMALLDECIMAL", .decimal), ("SMALLINT", .integer), ("SHORTTEXT", .text), ("TEXT", .text),
  ("TIME", .time), ("TIMESTAMP", .dateTime), ("TINYINT", .integer), ("VARBINARY", .blob),
  ("VARCHAR", .text)]

open Pattern in
/-- The rules of HANA, in the order in which they are tried. -/
def hanaRules : List DiagnosisRule := [
  { pattern := sequence [.atStart, text "Communications link failure", .atLeastOne .blank,
      text ("The last packet sent successfully to the server was 0 milliseconds ago. "
        ++ "The driver has not received any packets from the server."), .atEnd]
    category := .cannotConnect },
  { pattern := sequence [.atStart, text "Unknown database ", anything, .atEnd]
    category := .databaseName },
  { pattern := sequence [text "Access denied for user", anything, .atEnd]
    category := .usernameOrPassword },
  { pattern := text "Must specify port after ':' in connection string"
    category := .hostname },
  { pattern := sequence [anything,
      .alt
        (sequence [.alt (text "database") (text "tenant"), text " ", .atLeastOne .nonBlank,
          text " ", .alt (text "not found") (text "does not exist")])
        (sequence [text "unknown ", optional (text "tenant "), text "database"]),
      anything]
    category := .databaseName
    ignoreCase := true },
  { pattern := sequence [anything, text "authentication failed", anything]
    category := .usernameOrPassword
    ignoreCase := true },
  { pattern := sequence [anything,
      choice (text "connection refused") [text "connect failed", text "connection timed out"],
      anything]
    category := .cannotConnect
    ignoreCase := true }]

/-- The HANA driver. -/
def hana : Driver :=
  { standard with
    family := .hana
    name := "hana"
    excludedSchemas := ["INFORMATION_SCHEMA", "SYS", "_SYS_BI", "_SYS_BIC", "_SYS_REPO",
      "_SYS_STATISTICS", "_SYS_XS"]
    timeZoneTemplate := some "SET @@session.time_zone = %s;"
    columnTypes := hanaTypes
    rules := hanaRules
    -- January 1st is always in week 1, so no week straddles two years
    weekNumbering := ⟨"monday", 1⟩
    driverClass := "com.sap.db.jdbc.Driver"
    protocol := "sap"
    defaultPort := some 30015
    databaseProperty := "databaseName"
    encryptProperty := "encrypt"
    optionsPlaceholder := some "tinyInt1isBit=false"
    probeQuery := "SELECT 1 FROM DUMMY"
    timeQuery :=
      some "SELECT TO_CHAR(CURRENT_UTCTIMESTAMP, 'YYYY-MM-DD HH24:MI:SS.FF3') FROM DUMMY" }

/-! ## §3. DuckDB. -/

/-- The column types of DuckDB. -/
def duckdbTypes : Settings SemanticType := .ofList [
  ("BIGINT", .bigInteger), ("HUGEINT", .bigInteger), ("UBIGINT", .bigInteger), ("BLOB", .blob),
  ("DATE", .date), ("DECIMAL", .decimal), ("DOUBLE", .float), ("FLOAT", .float),
  ("REAL", .float), ("INTEGER", .integer), ("UINTEGER", .integer), ("SMALLINT", .integer),
  ("USMALLINT", .integer), ("TINYINT", .integer), ("UTINYINT", .integer), ("TIME", .time),
  ("TIMESTAMP", .dateTime), ("TIMESTAMP WITH TIME ZONE", .dateTime), ("TIMESTAMPTZ", .dateTime),
  ("VARCHAR", .text), ("TEXT", .text)]

open Pattern in
/-- The rules of DuckDB. -/
def duckdbRules : List DiagnosisRule := [
  { pattern := sequence [anything, text "IO Error: Cannot open ",
      .alt (text "database") (text "file"), text " ", anything]
    category := .databaseName },
  { pattern := sequence [anything, text "Catalog Error: ", anything, text "database ", anything,
      text " does not exist", anything]
    category := .databaseName }]

/-- The DuckDB driver. -/
def duckdb : Driver :=
  { standard with
    family := .duckdb
    name := "duckdb"
    excludedSchemas := ["information_schema", "pg_catalog"]
    timeZoneTemplate := some "SET TimeZone = %s;"
    columnTypes := duckdbTypes
    rules := duckdbRules
    driverClass := "org.duckdb.DuckDBDriver"
    protocol := "duckdb"
    -- a wall clock in universal time, so that no zone has to be fetched
    timeQuery := some "SELECT CAST(now() AT TIME ZONE 'UTC' AS TIMESTAMP)" }

end Driver

/-! ## §4. Connection forms. -/

/-- What a form field takes. -/
inductive FieldKind where
  | string | integer | boolean | password
  deriving Repr, DecidableEq

/-- The name of a field kind. -/
def FieldKind.text : FieldKind → String
  | .string => "string"
  | .integer => "integer"
  | .boolean => "boolean"
  | .password => "password"

/-- A field of a connection form. -/
structure FormField where
  name : String
  label : String
  kind : FieldKind := .string
  default : Value := .null
  placeholder : Option String := none
  isRequired : Bool := false
  deriving Repr

namespace Driver

/-- The fields for a tunnel to the database host. -/
def tunnelFields : List FormField := [
  { name := "tunnel-enabled", label := "Use an SSH tunnel", kind := .boolean,
    default := .bool false },
  { name := "tunnel-host", label := "SSH tunnel host", placeholder := some "hostname" },
  { name := "tunnel-port", label := "SSH tunnel port", kind := .integer, default := .int 22 },
  { name := "tunnel-user", label := "SSH tunnel username", placeholder := some "username" },
  { name := "tunnel-pass", label := "SSH tunnel password", kind := .password }]

/-- The fields for a database on a host. -/
def hostFields (d : Driver) : List FormField := [
  { name := "host", label := "Host", default := .text d.defaultHost, isRequired := true },
  { name := "port", label := "Port", kind := .integer,
    default := (d.defaultPort.map .int).getD .null },
  { name := "dbname", label := "Database name" },
  { name := "user", label := "Database username", default := .text d.defaultUser },
  { name := "password", label := "Database password", kind := .password },
  { name := "ssl", label := "Use a secure connection (SSL)?", kind := .boolean,
    default := .bool false },
  { name := "additional-options", label := "Additional connection string options",
    placeholder := d.optionsPlaceholder }]

/-- The fields for a database in a file. -/
def fileFields (d : Driver) : List FormField := [
  { name := "path", label := "Database file", default := .text d.defaultPath },
  { name := "additional-options", label := "Additional DuckDB configuration",
    placeholder := some "threads=4" }]

/-- The fields of the driver's connection form. -/
def formFields (d : Driver) : List FormField :=
  match d.family with
  | .standard => d.hostFields
  | .hana => d.hostFields ++ tunnelFields
  | .duckdb => d.fileFields

end Driver

end SqlDialect
