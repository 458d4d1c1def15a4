/-
  SqlDialect.Connection.Spec
  ────────────────────────────────
  **FROM PARAMETERS TO A DESCRIPTOR.**

  Options are segments `key=value` with a separator between neighbours.
  Free text that a user adds loses the separators at its ends, so that none
  is doubled where the two meet.  The driver builds the address from host
  and port, or takes the path of the database file for it.  Credentials
  travel as named properties and never in the address.
-/
import SqlDialect.Driver.Basic
import SqlDialect.Connection.Descriptor

namespace SqlDialect

open SqlDialect.Text

/-! ## §1. Options. -/

/-- The marks that lead or separate options. -/
def isOptionMark (c : Char) : Bool :=
  c == '?' || c == '&' || c == ';'

/-- Free text of options without the blanks and then the marks at its ends. -/
def trimOptions (s : List Char) : List Char :=
  trimWhile isOptionMark (trim s)

/-- A segment of options. -/
def optionSegment (e : String × Value) : List Char :=
  e.1.toList ++ '=' :: e.2.shownChars

namespace Driver

/-- The driver's default options with the given ones over them. -/
def mergedOptions (d : Driver) (options : Settings Value) : Settings Value :=
  (d.defaultOptions.mapValues .text).overlay options.entries

/-- The segments of the options, the free text last. -/
def optionSegments (d : Driver) (options : Settings Value) (extra : List Char) :
    List (List Char) :=
  (d.mergedOptions options).entries.map optionSegment
    ++ if (trimOptions extra).isEmpty then [] else [trimOptions extra]

/-- The text of the options. -/
def optionsText (d : Driver) (options : Settings Value) (extra : List Char) : List Char :=
  join [d.separatorStyle.separator] (d.optionSegments options extra)

/-- The character between an address and its options. -/
def leadMark (style : SeparatorStyle) (hasQuestionMark : Bool) : Char :=
  match style with
  | .semicolon => ';'
  | .url => if hasQuestionMark then '&' else '?'

/-- An address with its options. -/
def withOptions (d : Driver) (address options : List Char) : List Char :=
  if options.isEmpty then address
  else address ++ leadMark d.separatorStyle (address.contains '?') :: options

end Driver

/-! ## §2. Faults and tunnels. -/

/-- Why no descriptor can be built: a parameter has no text, or none to trim
or to search. -/
inductive SpecError where
  /-- The free options are no text. -/
  | optionsNotText (given : Value)
  /-- The path cannot be searched for a question mark. -/
  | pathNotSearchable (given : Value)
  /-- The port has more digits than are written. -/
  | tooManyDigits
  deriving Repr

/-- What to say about a descriptor that cannot be built. -/
def SpecError.message : SpecError → String
  | .optionsNotText v => "'" ++ v.kindName ++ "' object has no attribute 'strip'"
  | .pathNotSearchable v => "argument of type '" ++ v.kindName ++ "' is not iterable"
  | .tooManyDigits => Number.digitLimitMessage none

/-- Turns a finished descriptor into that of a tunnel, or into none. -/
def Tunnel := Descriptor → Parameters → Option Descriptor

namespace Driver

/-! ## §3. Parts. -/

/-- The free options as a text; what counts as false is no text. -/
def extraOptions (v : Value) : Except SpecError (List Char) :=
  match v with
  | .text s => .ok s.toList
  | v => if v.isTruthy then .error (.optionsNotText v) else .ok []

/-- The value, or the default for null. -/
def orDefault (v default : Value) : Value :=
  match v with
  | .null => default
  | v => v

/-- The address of a host. -/
def hostAddress (host port : Value) : List Char :=
  '/' :: '/' :: host.shownChars ++ match port with
    | .null => []
    | p => ':' :: p.shownChars

/-- The named properties of a connection. -/
def connectionProperties (d : Driver) (p : Parameters) : Settings Value :=
  let user := Settings.empty.insert "user" (orDefault p.user (.text d.defaultUser))
  let password := match p.password with
    | .null => user
    | v => user.insert "password" v
  let database := match p.dbname with
    | .null => password
    | v => password.insert d.databaseProperty v
  database.insert d.encryptProperty (.text (if p.ssl.isTruthy then "true" else "false"))

/-! ## §4. Descriptors of hosts. -/

/-- The host of a connection. -/
def hostOf (d : Driver) (p : Parameters) : Value :=
  orDefault p.host (.text d.defaultHost)

/-- The port of a connection. -/
def portOf (d : Driver) (p : Parameters) : Value :=
  orDefault p.port ((d.defaultPort.map .int).getD .null)

/-- The descriptor of a database on a host. -/
def hostDescriptor (d : Driver) (p : Parameters) : Except SpecError Descriptor := do
  let options := d.optionsText p.options (← extraOptions p.additionalOptions)
  if !(d.portOf p).isWritable then throw .tooManyDigits
  let address := hostAddress (d.hostOf p) (d.portOf p)
  return {
    driverClass := d.driverClass
    protocol := d.protocol
    subname := .text (String.ofList (d.withOptions address options))
    host := d.hostOf p
    port := d.portOf p
    properties := d.connectionProperties p
    options := String.ofList options }

/-! ## §5. Descriptors of files. -/

/-- The path of the database file: the option, else the database name, else
the default. -/
def pathOf (d : Driver) (p : Parameters) : Value :=
  let option := (p.options.get? "path").getD .null
  if option.isTruthy then option
  else if p.dbname.isTruthy then p.dbname
  else .text d.defaultPath

/-- A question mark is found in the value: in a text, among the items of a
list or the keys of a map. -/
def hasQuestionMark (v : Value) : Except SpecError Bool :=
  match v with
  | .text s => .ok (s.toList.contains '?')
  | .list items => .ok (items.any (Value.same (.text "?")))
  | .map entries => .ok (entries.any fun e => Value.same (.text "?") e.1)
  | v => .error (.pathNotSearchable v)

/-- A path with the options of its configuration. -/
def pathWithOptions (d : Driver) (path : Value) (options : List Char) :
    Except SpecError Value := do
  if options.isEmpty then return path
  let mark ← match d.separatorStyle with
    | .semicolon => pure false
    | .url => hasQuestionMark path
  return .text (String.ofList (path.shownChars ++ leadMark d.separatorStyle mark :: options))

/-- The descriptor of a database in a file. -/
def fileDescriptor (d : Driver) (p : Parameters) : Except SpecError Descriptor := do
  let path := d.pathOf p
  let options := d.optionsText (p.options.erase "path") (← extraOptions p.additionalOptions)
  return {
    driverClass := d.driverClass
    protocol := d.protocol
    subname := ← d.pathWithOptions path options
    properties := Settings.empty.insert "path" path
    options := String.ofList options }

/-! ## §6. Descriptors. -/

/-- The descriptor of a connection. -/
def descriptor (d : Driver) (p : Parameters) : Except SpecError Descriptor :=
  match d.family with
  | .standard | .hana => d.hostDescriptor p
  | .duckdb => d.fileDescriptor p

/-- The descriptor of a connection through a tunnel. -/
def descriptorThrough (d : Driver) (tunnel : Tunnel) (p : Parameters) :
    Except SpecError (Option Descriptor) :=
  (tunnel · p) <$> d.descriptor p

end Driver

end SqlDialect
