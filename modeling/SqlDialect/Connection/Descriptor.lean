/-
  SqlDialect.Connection.Descriptor
  ────────────────────────────────
  **PARAMETERS AND DESCRIPTORS OF CONNECTIONS.**

  What a caller gives to connect: a host, a port, names, and options.  A
  caller may give values of any kind, so each parameter is a value; a
  missing one is null.  A descriptor is what a client library needs: an
  address with options, and named properties.  The password of either is
  never shown.
-/
import SqlDialect.Settings
import SqlDialect.Value.Text

namespace SqlDialect

open SqlDialect.Text

/-! ## §1. Parameters. -/

/-- The parameters of a connection. -/
structure Parameters where
  host : Value := .null
  port : Value := .null
  dbname : Value := .null
  user : Value := .null
  password : Value := .null
  ssl : Value := .bool false
  options : Settings Value := .empty
  additionalOptions : Value := .null
  deriving Repr

namespace Parameters

/-- Settings as a value. -/
def settingsValue (s : Settings Value) : Value :=
  .map (s.entries.map fun e => (.text e.1, e.2))

/-- The parameters as a text, without the password. -/
def display (p : Parameters) : String :=
  let fields := [
    ("host", p.host.literal), ("port", p.port.literal), ("dbname", p.dbname.literal),
    ("user", p.user.literal), ("ssl", p.ssl.literal),
    ("options", "mappingproxy(" ++ (settingsValue p.options).literal ++ ")"),
    ("additional_options", p.additionalOptions.literal)]
  "ConnectionParameters(" ++ ", ".intercalate (fields.map fun f => f.1 ++ "=" ++ f.2) ++ ")"

/-- The parameters as a text, unless the port has more digits than are written. -/
def display? (p : Parameters) : Option String :=
  if p.port.isWritable then some p.display else none

end Parameters

/-! ## §2. Descriptors. -/

/-- What a client library needs to connect. -/
structure Descriptor where
  driverClass : String
  protocol : String
  /-- The address with the options. -/
  subname : Value
  host : Value := .null
  port : Value := .null
  properties : Settings Value := .empty
  options : String := ""
  deriving Repr

/-- The property is never displayed. -/
def isSecret (property : String) : Bool := property == "password"

/-- What is shown in the place of a secret. -/
def secretMask : String := "****"

namespace Descriptor

/-- The address as a URL. -/
def url (d : Descriptor) : String :=
  "jdbc:" ++ d.protocol ++ ":" ++ d.subname.shown

/-- A property as it is displayed. -/
def displayed (e : String × Value) : Value :=
  if isSecret e.1 then .text secretMask else e.2

/-- The properties with secrets masked. -/
def displayedProperties (d : Descriptor) : List (String × Value) :=
  d.properties.entries.map fun e => (e.1, displayed e)

/-- Properties with the secrets among them masked. -/
def masked (properties : Settings Value) : Settings Value :=
  ⟨properties.entries.map fun e => (e.1, displayed e), by
    have h := properties.nodup
    rw [List.map_map]
    exact h⟩

/-- The descriptor as it may be displayed: with its secrets masked. -/
def redacted (d : Descriptor) : Descriptor :=
  { d with properties := masked d.properties }

/-- The descriptor as a text, with secrets masked. -/
def display (d : Descriptor) : String :=
  let literal (s : String) : String := (Value.text s).literal
  "ConnectionDescriptor(driver_class=" ++ literal d.driverClass ++ ", protocol="
    ++ literal d.protocol ++ ", subname=" ++ d.subname.literal ++ ", properties=("
    ++ ", ".intercalate (d.displayedProperties.map fun e => e.1 ++ "=" ++ e.2.literal) ++ "))"

end Descriptor

end SqlDialect
