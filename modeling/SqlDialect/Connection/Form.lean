/-
  SqlDialect.Connection.Form
  ────────────────────────────────
  **THE FILLED-IN CONNECTION FORM.**

  Settings become typed parameters.  Some parameters have several
  spellings; a key that is no parameter is an option of the driver.  The
  port must denote a whole number, the encryption switch a truth value.
-/
import SqlDialect.Connection.Descriptor
import SqlDialect.Number.Integer
import SqlDialect.Text.Casing

namespace SqlDialect

open SqlDialect.Text SqlDialect.Number

/-! ## §1. Typed parameters. -/

/-- Parameters of their proper kinds. -/
structure Form where
  host : Option String := none
  port : Option Int := none
  dbname : Option String := none
  user : Option String := none
  password : Option String := none
  ssl : Bool := false
  options : Settings String := .empty
  additionalOptions : Option String := none
  deriving Repr

namespace Form

/-- A text that may be missing, as a value. -/
def optionalText (s : Option String) : Value :=
  (s.map .text).getD .null

/-- The parameters that a form gives. -/
def toParameters (f : Form) : Parameters where
  host := optionalText f.host
  port := (f.port.map .int).getD .null
  dbname := optionalText f.dbname
  user := optionalText f.user
  password := optionalText f.password
  ssl := .bool f.ssl
  options := f.options.mapValues .text
  additionalOptions := optionalText f.additionalOptions

end Form

/-! ## §2. Keys. -/

/-- The parameters of a form that are not options. -/
inductive Parameter where
  | host | port | dbname | user | password | ssl | additionalOptions
  deriving Repr, DecidableEq

namespace Parameter

/-- The parameters in their order. -/
def all : List Parameter :=
  [.host, .port, .dbname, .user, .password, .ssl, .additionalOptions]

/-- The spellings of a parameter; the first one is written. -/
def spellings : Parameter → List String
  | .host => ["host"]
  | .port => ["port"]
  | .dbname => ["dbname", "db", "database"]
  | .user => ["user"]
  | .password => ["password"]
  | .ssl => ["ssl"]
  | .additionalOptions => ["additional_options", "additional-options"]

/-- The spelling of a parameter that is written. -/
def key : Parameter → String
  | .host => "host"
  | .port => "port"
  | .dbname => "dbname"
  | .user => "user"
  | .password => "password"
  | .ssl => "ssl"
  | .additionalOptions => "additional_options"

/-- The parameter that a key spells. -/
def ofKey? (key : String) : Option Parameter :=
  all.find? (·.spellings.contains key)

/-- A parameter is found by each of its spellings. -/
theorem ofKey?_of_mem (p : Parameter) : ∀ k ∈ p.spellings, ofKey? k = some p := by
  cases p <;> decide

end Parameter

/-! ## §3. Reading the values. -/

/-- Why a form is refused. -/
inductive FormError where
  | port (given : Value)
  /-- The port is infinite. -/
  | infinitePort
  | boolean (given : Value)
  /-- A whole number has more digits than are written. -/
  | tooManyDigits
  deriving Repr

/-- What to say about a refused form. -/
def FormError.message : FormError → String
  | .port v => "Port must be an integer, got '" ++ v.shown ++ "'"
  | .infinitePort => "Port must be finite"
  | .boolean v => "Expected a boolean, got '" ++ v.shown ++ "'"
  | .tooManyDigits => digitLimitMessage none

namespace Form

/-- The value, if it can be written. -/
def written (v : Value) : Except FormError Value :=
  if v.isWritable then .ok v else .error .tooManyDigits

/-- What can be written is taken as it is. -/
theorem written_of_isWritable {v : Value} (h : v.isWritable = true) : written v = .ok v := by
  simp [written, h]

/-- The whole number that a port denotes; the empty text is no port. -/
def readPort (v : Value) : Except FormError (Option Int) :=
  match v with
  | .null => .ok none
  | .text s =>
      if s.isEmpty then .ok none
      else match readInt? s.toList with
        | some n => .ok (some n)
        | none => .error (.port v)
  | .bool b => .ok (some (if b then 1 else 0))
  | .int n => .ok (some n)
  | .float (.infinity _) | .decimal (.infinity _) => .error .infinitePort
  | .float x => match x.trunc? with
    | some n => .ok (some n)
    | none => .error (.port v)
  | .decimal d => match d.trunc? with
    | some n => .ok (some n)
    | none => .error (.port v)
  | .fraction n d => .ok (some (n.tdiv d))
  | v => do throw (.port (← written v))

/-- The words for yes. -/
def trueWords : List String := ["1", "true", "yes", "on"]

/-- The words for no. -/
def falseWords : List String := ["0", "false", "no", "off", ""]

/-- The truth value that a value denotes: itself, or a word in any case. -/
def readBool (v : Value) : Except FormError Bool :=
  match v with
  | .bool b => .ok b
  | v => do
      let v ← written v
      let word := String.ofList (lower (trim v.shownChars))
      if trueWords.contains word then return true
      else if falseWords.contains word then return false
      else throw (.boolean v)

/-- The text of a value that may be null. -/
def readText (v : Value) : Except FormError (Option String) :=
  match v with
  | .null => .ok none
  | v => (fun v => some v.shown) <$> written v

/-! ## §4. Forms from settings. -/

/-- The value given for a parameter; of several spellings the last one counts. -/
def givenValue (s : Settings Value) (p : Parameter) : Option Value :=
  (s.entries.reverse.find? fun e => p.spellings.contains e.1).map (·.2)

/-- The settings that are no parameters, as texts. -/
def optionsOf (s : Settings Value) : Except FormError (Settings String) :=
  let options := s.filterKeys fun k => (Parameter.ofKey? k).isNone
  if options.entries.all (·.2.isWritable) then .ok (options.mapValues (·.shown))
  else .error .tooManyDigits

/-- The form that settings fill in. -/
def ofSettings (s : Settings Value) : Except FormError Form := do
  let given (p : Parameter) : Value := (givenValue s p).getD .null
  let options ← optionsOf s
  let port ← readPort (given .port)
  return {
    host := ← readText (given .host)
    port := port
    dbname := ← readText (given .dbname)
    user := ← readText (given .user)
    password := ← readText (given .password)
    ssl := ← readBool ((givenValue s .ssl).getD (.bool false))
    options := options
    additionalOptions := ← readText (given .additionalOptions) }

end Form

end SqlDialect
