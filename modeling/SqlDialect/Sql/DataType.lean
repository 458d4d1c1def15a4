/-
  SqlDialect.Sql.DataType
  ────────────────────────────────
  **DATA TYPES OF CASTS.**

  A data type is one of the known type names, in any of its spellings and
  in any case, with arguments such as a precision.  Each dialect has one
  spelling of its own.
-/
import SqlDialect.Sql.Name
import SqlDialect.Text.Segment

namespace SqlDialect.Sql

open SqlDialect.Text

/-! ## §1. Type names. -/

/-- The known types. -/
inductive TypeName where
  | bit | boolean | tinyint | smallint | mediumint | int | bigint | hugeint
  | unsignedTinyint | unsignedSmallint | unsignedInt | unsignedBigint | unsignedHugeint
  | decimal | bigdecimal | float | double
  | char | nchar | paddedChar | varchar | nvarchar | text | binary | varbinary | blob
  | date | time | timetz | timestamp | timestamptz | timestampLocal | timestampPlain | datetime
  | interval | json | jsonb | xml | inet | uuid | unknown | null
  deriving Repr, DecidableEq

namespace TypeName

/-- The type that an upper-case name stands for. -/
def ofText? : String → Option TypeName
  | "BIT" => some .bit
  | "BOOLEAN" | "BOOL" => some .boolean
  | "TINYINT" | "INT1" | "INT8" | "BYTE" => some .tinyint
  | "SMALLINT" | "INT2" | "INT16" | "SHORT" => some .smallint
  | "MEDIUMINT" => some .mediumint
  | "INT" | "INTEGER" | "INT4" | "INT32" => some .int
  | "BIGINT" | "INT64" | "LONG" => some .bigint
  | "HUGEINT" | "INT128" => some .hugeint
  | "UTINYINT" | "TINYINT UNSIGNED" => some .unsignedTinyint
  | "USMALLINT" | "SMALLINT UNSIGNED" => some .unsignedSmallint
  | "UINT" | "INT UNSIGNED" | "INTEGER UNSIGNED" => some .unsignedInt
  | "UBIGINT" | "BIGINT UNSIGNED" => some .unsignedBigint
  | "UHUGEINT" | "UINT128" => some .unsignedHugeint
  | "DECIMAL" | "NUMERIC" | "NUMBER" | "DEC" | "FIXED" => some .decimal
  | "BIGDECIMAL" | "BIGNUMERIC" => some .bigdecimal
  | "FLOAT" | "REAL" | "FLOAT4" => some .float
  | "DOUBLE" | "DOUBLE PRECISION" | "FLOAT8" => some .double
  | "CHAR" | "CHARACTER" => some .char
  | "NCHAR" => some .nchar
  | "BPCHAR" => some .paddedChar
  | "VARCHAR" | "VARCHAR2" | "CHAR VARYING" | "CHARACTER VARYING" => some .varchar
  | "NVARCHAR" | "NVARCHAR2" => some .nvarchar
  | "TEXT" | "STRING" | "STR" | "CLOB" | "LONGVARCHAR" | "TINYTEXT" | "MEDIUMTEXT" | "LONGTEXT" =>
      some .text
  | "BINARY" => some .binary
  | "VARBINARY" | "BLOB" | "BYTEA" => some .varbinary
  | "TINYBLOB" | "MEDIUMBLOB" | "LONGBLOB" => some .blob
  | "DATE" => some .date
  | "TIME" => some .time
  | "TIMETZ" | "TIME WITH TIME ZONE" => some .timetz
  | "TIMESTAMP" | "TIMESTAMP WITHOUT TIME ZONE" => some .timestamp
  | "TIMESTAMPTZ" | "TIMESTAMP WITH TIME ZONE" => some .timestamptz
  | "TIMESTAMPLTZ" | "TIMESTAMP_LTZ" | "TIMESTAMP WITH LOCAL TIME ZONE" => some .timestampLocal
  | "TIMESTAMPNTZ" | "TIMESTAMP_NTZ" => some .timestampPlain
  | "DATETIME" => some .datetime
  | "INTERVAL" => some .interval
  | "JSON" => some .json
  | "JSONB" => some .jsonb
  | "XML" => some .xml
  | "INET" => some .inet
  | "UUID" => some .uuid
  | "UNKNOWN" => some .unknown
  | "NULL" => some .null
  | _ => none

/-- The spelling of a type in the standard dialect. -/
def standardText : TypeName → String
  | .bit => "BIT"
  | .boolean => "BOOLEAN"
  | .tinyint => "TINYINT"
  | .smallint => "SMALLINT"
  | .mediumint => "MEDIUMINT"
  | .int => "INT"
  | .bigint => "BIGINT"
  | .hugeint => "INT128"
  | .unsignedTinyint => "UTINYINT"
  | .unsignedSmallint => "USMALLINT"
  | .unsignedInt => "UINT"
  | .unsignedBigint => "UBIGINT"
  | .unsignedHugeint => "UINT128"
  | .decimal => "DECIMAL"
  | .bigdecimal => "BIGDECIMAL"
  | .float => "FLOAT"
  | .double => "DOUBLE"
  | .char | .nchar => "CHAR"
  | .paddedChar => "BPCHAR"
  | .varchar | .nvarchar => "VARCHAR"
  | .text => "TEXT"
  | .binary => "BINARY"
  | .varbinary => "VARBINARY"
  | .blob => "BLOB"
  | .date => "DATE"
  | .time => "TIME"
  | .timetz => "TIMETZ"
  | .timestamp => "TIMESTAMP"
  | .timestamptz => "TIMESTAMPTZ"
  | .timestampLocal => "TIMESTAMPLTZ"
  | .timestampPlain => "TIMESTAMPNTZ"
  | .datetime => "DATETIME"
  | .interval => "INTERVAL"
  | .json => "JSON"
  | .jsonb => "JSONB"
  | .xml => "XML"
  | .inet => "INET"
  | .uuid => "UUID"
  | .unknown => "UNKNOWN"
  | .null => "NULL"

/-- The spelling of a type where it differs from the standard one. -/
def duckdbText? : TypeName → Option String
  | .char | .nchar | .paddedChar | .varchar | .nvarchar => some "TEXT"
  | .binary | .varbinary => some "BLOB"
  | .float => some "REAL"
  | .unsignedInt => some "UINTEGER"
  | .datetime | .timestampPlain => some "TIMESTAMP"
  | .timestampLocal => some "TIMESTAMPTZ"
  | .jsonb => some "JSON"
  | _ => none

/-- The spelling of a type. -/
def render (d : Dialect) (t : TypeName) : String :=
  match d.system with
  | .duckdb => t.duckdbText?.getD t.standardText
  | _ => t.standardText

/-- The type that an upper-case name stands for in a dialect. -/
def read? (d : Dialect) (s : String) : Option TypeName :=
  if d.system = .duckdb ∧ s = "UINTEGER" then some .unsignedInt else ofText? s

end TypeName

/-! ## §2. Data types. -/

/-- A type with its arguments. -/
structure DataType where
  name : TypeName
  arguments : List String
  deriving Repr, DecidableEq

namespace DataType

/-- The type with the given words as its name in a dialect. -/
def ofWords? (d : Dialect) (words : List (List Char)) (arguments : List String) :
    Option DataType :=
  (TypeName.read? d (String.ofList (upper (join [' '] words)))).map (⟨·, arguments⟩)

/-- The words at the front of a text and what follows them; the bound is
the number of words that are read at most. -/
def takeWords : Nat → List Char → List (List Char) × List Char
  | 0, s => ([], s)
  | bound + 1, s =>
      let s := s.dropWhile isBlank
      let word := s.takeWhile isWord
      if word.isEmpty then ([], s)
      else
        let (words, rest) := takeWords bound (s.dropWhile isWord)
        (word :: words, rest)

/-- The type that most of the given words, from the first on, make. -/
def ofFirstWords? (words : List (List Char)) (arguments : List String) : Option DataType :=
  (List.range words.length).reverse.findSome? fun n =>
    ofWords? .standard (words.take (n + 1)) arguments

/-- An argument of a type: a number or a word. -/
def argument? (s : List Char) : Option String :=
  let a := upper s
  if a.all isWord then some (String.ofList a) else none

/-- The arguments of a type, of which there is one at least; empty ones do
not count. -/
def arguments? (s : List Char) : Option (List String) :=
  let given := ((splitOn ',' s).map trim).filter (!·.isEmpty)
  if given.isEmpty then none else given.mapM argument?

/-- The type at the front of a text, in the standard dialect.  A mark of the time zone stands behind
the arguments. -/
def read? (s : String) : Option DataType :=
  let (words, rest) := takeWords s.length s.toList
  match rest with
  | '(' :: rest =>
      if (ofWords? .standard words []).isNone then ofFirstWords? words []
      else do
        let (inner, rest) ← cut? ')' rest
        let arguments ← arguments? inner
        ofFirstWords? (words ++ (takeWords rest.length rest).1) arguments
  | _ => ofFirstWords? words []

/-- The type as the dialect writes it. -/
def render (d : Dialect) (t : DataType) : List Char :=
  (t.name.render d).toList ++
    if t.arguments.isEmpty then []
    else '(' :: join [',', ' '] (t.arguments.map (·.toList)) ++ [')']

end DataType

end SqlDialect.Sql
