/-
  SqlDialect.Driver.Basic
  ────────────────────────────────
  **DRIVERS.**

  A driver is what one database needs that others do not: its names for
  types, its error texts, its connection address and a family that decides
  how temporal expressions are built.  A variant of a driver changes
  attributes and keeps the family.  What happens worth noting is returned as
  records beside the result.
-/
import SqlDialect.Settings
import SqlDialect.Diagnosis.Rule
import SqlDialect.Sql.Name

namespace SqlDialect

open SqlDialect.Sql

/-! ## §1. Notes. -/

/-- How urgent a record is. -/
inductive LogLevel where
  | debug | warning
  deriving Repr, DecidableEq

/-- The name of a level. -/
def LogLevel.text : LogLevel → String
  | .debug => "DEBUG"
  | .warning => "WARNING"

/-- A record of a named logger. -/
structure LogRecord where
  level : LogLevel
  logger : String
  message : String
  deriving Repr, DecidableEq

/-- The line that shows a record. -/
def LogRecord.line (r : LogRecord) : String :=
  r.level.text ++ " " ++ r.logger ++ ": " ++ r.message

/-- The logger of the registry. -/
def registryLogger : String := "dbdialects.drivers._registry"

/-- The logger of the drivers. -/
def driverLogger : String := "dbdialects.drivers.generic"

/-! ## §2. Parts of a driver. -/

/-- What kind of data a column holds. -/
inductive SemanticType where
  | text | bigInteger | blob | decimal | float | integer | date | time | dateTime | unknown
  deriving Repr, DecidableEq

namespace SemanticType

/-- All semantic types. -/
def all : List SemanticType :=
  [.text, .bigInteger, .blob, .decimal, .float, .integer, .date, .time, .dateTime, .unknown]

/-- The name of a semantic type. -/
def name : SemanticType → String
  | .text => "text"
  | .bigInteger => "big_integer"
  | .blob => "blob"
  | .decimal => "decimal"
  | .float => "float"
  | .integer => "integer"
  | .date => "date"
  | .time => "time"
  | .dateTime => "date_time"
  | .unknown => "unknown"

/-- The semantic type with the given name. -/
def ofName? (s : String) : Option SemanticType :=
  all.find? (·.name == s)

end SemanticType

/-- How options follow an address: `?a=1&b=2` or `;a=1;b=2`. -/
inductive SeparatorStyle where
  | url | semicolon
  deriving Repr, DecidableEq

/-- The character between two options. -/
def SeparatorStyle.separator : SeparatorStyle → Char
  | .url => '&'
  | .semicolon => ';'

/-- How the week function of a database counts weeks. -/
structure WeekNumbering where
  firstDay : String
  /-- The days that a year's first week has at least. -/
  minDays : Nat
  deriving Repr, DecidableEq

/-- The families of databases that build temporal expressions and addresses alike. -/
inductive Family where
  | standard | hana | duckdb
  deriving Repr, DecidableEq

/-! ## §3. Drivers. -/

/-- A driver. -/
structure Driver where
  family : Family
  name : String
  quoteStyle : QuoteStyle
  excludedSchemas : List String
  /-- The statement that sets the session time zone, with a place for the zone. -/
  timeZoneTemplate : Option String
  columnTypes : Settings SemanticType
  rules : List DiagnosisRule
  weekNumbering : WeekNumbering
  driverClass : String
  protocol : String
  defaultHost : String
  defaultPort : Option Int
  defaultUser : String
  /-- The database file when none is given. -/
  defaultPath : String
  /-- The property that names the database. -/
  databaseProperty : String
  /-- The property that asks for an encrypted connection. -/
  encryptProperty : String
  separatorStyle : SeparatorStyle
  defaultOptions : Settings String
  optionsPlaceholder : Option String
  probeQuery : String
  timeQuery : Option String
  /-- The format of a database time that comes as text. -/
  timeFormat : String
  deriving Repr

namespace Driver

/-- The dialect in which the driver's expressions are rendered. -/
def dialect (d : Driver) : Dialect :=
  match d.family with
  | .duckdb => .duckdb
  | .standard | .hana => .ofQuoteStyle d.quoteStyle

/-- The dialect of the driver with the given special words. -/
def dialectWith (d : Driver) (words : SpecialWords) : Dialect := d.dialect.withWords words

/-- A name between the quotes of the driver's dialect. -/
def quoteIdentifier (d : Driver) (name : String) : String :=
  String.ofList (Name.quote d.dialect.quoteStyle name.toList)

/-- The diagnosis of a connection error by the driver's rules. -/
def diagnose (d : Driver) (message : String) : Diagnosis :=
  SqlDialect.diagnose d.rules message

end Driver

end SqlDialect
