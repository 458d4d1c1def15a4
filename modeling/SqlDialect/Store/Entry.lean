/-
  SqlDialect.Store.Entry
  ────────────────────────────────
  **NAMED CONNECTIONS AND THEIR ENTRIES.**

  A named connection is kept as an entry: its driver, the parameters that
  are given and its options.  An entry may be written by hand, so reading
  one checks it.
-/
import SqlDialect.Connection.Form
import SqlDialect.Toml.Writer

namespace SqlDialect

/-- A connection with a name. -/
structure NamedConnection where
  name : String
  driverId : String
  parameters : Parameters
  deriving Repr

/-- Why an entry is no connection. -/
inductive EntryError where
  | noDriver (name : String)
  | optionsNotTable (name : String)
  | form (reason : FormError)
  deriving Repr

/-- What to say about an entry that is no connection. -/
def EntryError.message : EntryError → String
  | .noDriver name => "Connection '" ++ name ++ "' has no driver"
  | .optionsNotTable name => "Connection '" ++ name ++ "': options must be a table"
  | .form reason => reason.message

/-- An infinite port is no plain fault of an entry. -/
def EntryError.isOverflow : EntryError → Bool
  | .form .infinitePort => true
  | _ => false

namespace NamedConnection

/-! ## §1. Writing an entry. -/

/-- The name of the entry's driver. -/
def driverKey : String := "driver"

/-- The value of a parameter. -/
def valueOf (p : Parameters) : Parameter → Value
  | .host => p.host
  | .port => p.port
  | .dbname => p.dbname
  | .user => p.user
  | .password => p.password
  | .ssl => p.ssl
  | .additionalOptions => p.additionalOptions

/-- The parameter is written: it is not null, and no encryption that is off. -/
def isWritten (p : Parameter) (v : Value) : Bool :=
  match p, v with
  | _, .null => false
  | .ssl, .bool false => false
  | _, _ => true

/-- The parameters that are written. -/
def writtenParameters (p : Parameters) : List (String × Value) :=
  (Parameter.all.filter fun k => isWritten k (valueOf p k)).map fun k => (k.key, valueOf p k)

/-- The entry of a connection. -/
def toEntry (c : NamedConnection) : Settings Value :=
  let options := if c.parameters.options.isEmpty then []
    else [(Toml.optionsName, Parameters.settingsValue c.parameters.options)]
  .ofList ((driverKey, .text c.driverId) :: writtenParameters c.parameters ++ options)

/-! ## §2. Reading an entry. -/

/-- The options of an entry. -/
def entryOptions (name : String) (entry : Settings Value) :
    Except EntryError (List (Value × Value)) :=
  match entry.get? Toml.optionsName with
  | none => .ok []
  | some (.map options) => .ok options
  | some _ => .error (.optionsNotTable name)

/-- Options as texts. -/
def optionTexts (options : List (Value × Value)) : Except FormError (List (String × Value)) :=
  if options.all (·.2.isWritable) then
    .ok (options.map fun e => (e.1.shown, .text e.2.shown))
  else .error .tooManyDigits

/-- The parameters that stand in an entry itself. -/
def entryForm (entry : Settings Value) : Except FormError Form :=
  Form.ofSettings (entry.filterKeys fun k => k != driverKey && k != Toml.optionsName)

/-- The connection that an entry describes. -/
def ofEntry (name : String) (entry : Settings Value) : Except EntryError NamedConnection :=
  match entry.get? driverKey with
  | some (.text driverId) => do
      let options ← entryOptions name entry
      let form ← (entryForm entry).mapError .form
      let options ← (optionTexts options).mapError .form
      let parameters := form.toParameters
      return ⟨name, driverId,
        { parameters with options := parameters.options.overlay options }⟩
  | _ => .error (.noDriver name)

end NamedConnection

end SqlDialect
