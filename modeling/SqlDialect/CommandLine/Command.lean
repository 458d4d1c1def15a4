/-
  SqlDialect.CommandLine.Command
  ────────────────────────────────
  **COMMANDS.**

  What a command line asks for.  The words of the line are read against
  the shape of the program, then of the command; a word that is missing,
  unknown or of the wrong kind is a usage error.
-/
import SqlDialect.CommandLine.Shape
import SqlDialect.Registry.Basic
import SqlDialect.Temporal.Unit

namespace SqlDialect.CommandLine

open SqlDialect.Number

/-! ## §1. Commands. -/

/-- How a result is printed. -/
inductive OutputFormat where
  | text | json
  deriving Repr, DecidableEq

/-- What a command line asks for. -/
inductive Command where
  | drivers (format : OutputFormat)
  | types (driver : String) (natives : List String) (format : OutputFormat)
  | classify (driver message : String) (format : OutputFormat)
  | fields (driver : String) (format : OutputFormat)
  | bucket (driver : String) (unit : TemporalUnit) (expr : String) (format : OutputFormat)
  | interval (driver unit : String) (amount : Binary64) (format : OutputFormat)
  | epoch (driver expr : String) (unit : TimestampUnit) (format : OutputFormat)
  | timeZone (driver zone : String) (format : OutputFormat)
  | spec (database : String) (format : OutputFormat)
  | probe (database : String) (timeout : Binary64) (format : OutputFormat)
  | addConnection (name driver : String) (parameters : List String)
  | listConnections
  | removeConnection (name : String)
  /-- Print the version. -/
  | version
  /-- Print how the program is used. -/
  | help
  deriving Repr

/-! ## §2. Shapes. -/

/-- Asks for help. -/
def helpOption : OptionShape := { names := ["--help"], isEager := true }

/-- Asks for the version. -/
def versionOption : OptionShape := { names := ["--version"], isEager := true }

/-- Asks for all log records. -/
def verboseOption : OptionShape := { names := ["--verbose", "-v"] }

/-- How to print the result. -/
def formatOption : OptionShape where
  names := ["--format"]
  kind := some (.choice ["json", "text"])
  default := some (.text "text")

/-- Names the database; the environment may name it instead. -/
def databaseOption (environment : Option String) : OptionShape where
  names := ["--db"]
  kind := some .text
  default := (environment.filter (· != "")).map .text

/-- How long to wait, in seconds. -/
def timeoutOption : OptionShape where
  names := ["--timeout"]
  kind := some .number
  default := some (.float (.ofInt 10))

/-- The timestamp counts milliseconds. -/
def millisOption : OptionShape := { names := ["--millis"] }

/-- The id of a driver. -/
def driverArgument : ArgumentShape := { name := "driver", label := "DRIVER" }

/-- An expression. -/
def exprArgument : ArgumentShape := { name := "expr", label := "EXPR" }

/-- The name of a connection. -/
def nameArgument : ArgumentShape := { name := "name", label := "NAME" }

/-- One of the given words; messages call it by the words. -/
def choiceArgument (name : String) (all : List String) : ArgumentShape where
  name := name
  kind := .choice all
  label := "\x7b" ++ "|".intercalate all ++ "\x7d"

/-- The commands of the program. -/
inductive CommandName where
  | drivers | types | classify | fields | bucket | interval | epoch | timeZone | spec | probe
  deriving Repr, DecidableEq

/-- The commands on connections. -/
inductive ConnectName where
  | add | list | remove
  deriving Repr, DecidableEq

/-- The command of a name. -/
def CommandName.ofWord? : String → Option CommandName
  | "drivers" => some .drivers
  | "types" => some .types
  | "classify" => some .classify
  | "fields" => some .fields
  | "bucket" => some .bucket
  | "interval" => some .interval
  | "epoch" => some .epoch
  | "timezone" => some .timeZone
  | "spec" => some .spec
  | "probe" => some .probe
  | _ => none

/-- The word before a command on connections. -/
def connectWord : String := "connect"

/-- The command on connections of a name. -/
def ConnectName.ofWord? : String → Option ConnectName
  | "add" => some .add
  | "list" => some .list
  | "remove" => some .remove
  | _ => none

/-- The shape of the program: options, then a command and its words. -/
def programShape : CommandShape where
  options := [versionOption, verboseOption, helpOption]
  isMixed := false

/-- The shape of the commands on connections. -/
def connectShape : CommandShape where
  options := [helpOption]
  isMixed := false

/-- The shape of a command, where the environment may name the database. -/
def CommandName.shape (environment : Option String) : CommandName → CommandShape
  | .drivers => { options := [formatOption, helpOption] }
  | .types => {
      options := [formatOption, helpOption]
      arguments := [driverArgument,
        { name := "natives", label := "NATIVE_TYPES...", takesAll := true }] }
  | .classify => {
      options := [formatOption, helpOption]
      arguments := [driverArgument, { name := "message", label := "MESSAGE" }] }
  | .fields => { options := [formatOption, helpOption], arguments := [driverArgument] }
  | .bucket => {
      options := [formatOption, helpOption]
      arguments := [driverArgument, choiceArgument "unit" (TemporalUnit.all.map (·.text)),
        exprArgument] }
  | .interval => {
      options := [formatOption, helpOption]
      arguments := [driverArgument, choiceArgument "unit" (IntervalUnit.all.map (·.text)),
        { name := "amount", kind := .number, label := "AMOUNT" }]
      keepsUnknown := true }
  | .epoch => {
      options := [millisOption, formatOption, helpOption]
      arguments := [driverArgument, exprArgument] }
  | .timeZone => {
      options := [formatOption, helpOption]
      arguments := [driverArgument, { name := "zone", label := "ZONE" }] }
  | .spec => { options := [databaseOption environment, formatOption, helpOption] }
  | .probe => { options := [databaseOption environment, timeoutOption, formatOption, helpOption] }

/-- The shape of a command on connections. -/
def ConnectName.shape (ids : List String) : ConnectName → CommandShape
  | .add => {
      options := [helpOption]
      arguments := [nameArgument, { driverArgument with kind := .choice ids },
        { name := "parameters", label := "PARAMS...", takesAll := true }] }
  | .list => { options := [helpOption] }
  | .remove => { options := [helpOption], arguments := [nameArgument] }

/-! ## §3. From values to commands. -/

/-- How the result is to be printed. -/
def formatOf (b : Bound) : OutputFormat :=
  if b.text "--format" = "json" then .json else .text

/-- The bucket unit of the word. -/
def temporalUnitOf (word : String) : TemporalUnit :=
  (TemporalUnit.all.find? (·.text == word)).getD .default

/-- The command with the given values. -/
def CommandName.command (b : Bound) : CommandName → Command
  | .drivers => .drivers (formatOf b)
  | .types => .types (b.text "driver") (b.texts "natives") (formatOf b)
  | .classify => .classify (b.text "driver") (b.text "message") (formatOf b)
  | .fields => .fields (b.text "driver") (formatOf b)
  | .bucket =>
      .bucket (b.text "driver") (temporalUnitOf (b.text "unit")) (b.text "expr") (formatOf b)
  | .interval => .interval (b.text "driver") (b.text "unit") (b.number "amount") (formatOf b)
  | .epoch =>
      .epoch (b.text "driver") (b.text "expr")
        (if b.flag "--millis" then .milliseconds else .seconds) (formatOf b)
  | .timeZone => .timeZone (b.text "driver") (b.text "zone") (formatOf b)
  | .spec => .spec (b.text "--db") (formatOf b)
  | .probe => .probe (b.text "--db") (b.number "--timeout") (formatOf b)

/-- The command on connections with the given values. -/
def ConnectName.command (b : Bound) : ConnectName → Command
  | .add => .addConnection (b.text "name") (b.text "driver") (b.texts "parameters")
  | .list => .listConnections
  | .remove => .removeConnection (b.text "name")

/-! ## §4. From words to commands. -/

/-- The command of an eager option. -/
def eagerCommand (name : String) : Command :=
  if name = versionOption.name then .version else .help

/-- The command that words ask for, read against its shape. -/
def readWords (shape : CommandShape) (command : Bound → Command) (words : List String) :
    Except UsageError Command := do
  let s ← scan shape words
  match eager? shape s with
  | some name => return eagerCommand name
  | none => return command (← bind shape s)

/-- What to do about a word that is no command: if it has the form of an
option, that is the fault. -/
def refuseCommand (shape : CommandShape) (words : List String) : Except UsageError Command := do
  let s ← scan shape words
  match eager? shape s with
  | some name => return eagerCommand name
  | none => throw (.unknownCommand (words.headD ""))

/-- The command on connections that words ask for. -/
def readConnect (ids words : List String) : Except UsageError Command := do
  let s ← scan connectShape words
  match eager? connectShape s, s.words with
  | some name, _ => return eagerCommand name
  | none, [] => if words.isEmpty then return .help else throw .commandMissing
  | none, word :: rest => match ConnectName.ofWord? word with
    | some name => readWords (name.shape ids) name.command rest
    | none => refuseCommand connectShape (word :: rest)

/-- What a command line asks for, and whether all log records are wanted. -/
structure Invocation where
  command : Except UsageError Command
  isVerbose : Bool := false

/-- What the words of a command line ask for, where the environment may name
the database and drivers have the given ids. -/
def Invocation.ofWords (environment : Option String) (ids words : List String) : Invocation :=
  match scan programShape words with
  | .error e => ⟨.error e, false⟩
  | .ok s => match eager? programShape s, s.words with
    | some name, _ => ⟨.ok (eagerCommand name), false⟩
    | none, [] => ⟨if words.isEmpty then .ok .help else .error .commandMissing, false⟩
    | none, word :: rest =>
        let isVerbose := s.given.any (·.1 == verboseOption.name)
        let command := match CommandName.ofWord? word with
          | some name => readWords (name.shape environment) name.command rest
          | none =>
              if word = connectWord then readConnect ids rest
              else refuseCommand programShape (word :: rest)
        ⟨command, isVerbose⟩

end SqlDialect.CommandLine
