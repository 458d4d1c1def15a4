/-
  SqlDialect.Store.Basic
  ────────────────────────────────
  **THE STORE OF CONNECTIONS.**

  Connections are kept by name in one file, which exists as long as there
  is a connection.  The file may be written by hand: entries that are no
  connections are listed, kept and not found.  A failing operation leaves
  the file as it was, since only a result comes with a new file.

  Step by step, to save or remove a connection is to read the file, to change
  what it holds and to write it again.  There nothing is undone when a step
  fails: what has been done to the file stays done.

      Filing α = Store → Except StoreError α × Store
-/
import SqlDialect.Store.Entry
import SqlDialect.Toml.Reader

namespace SqlDialect

open SqlDialect.Number

/-! ## §1. The file. -/

/-- Who may read the file. -/
inductive Access where
  /-- Its owner only. -/
  | owner
  /-- Everyone; only its owner writes. -/
  | everyone
  deriving Repr, DecidableEq

/-- The digits of an access mode. -/
def Access.mode : Access → String
  | .owner => "600"
  | .everyone => "644"

/-- The text of a file and who may read it. -/
structure StoredFile where
  text : String
  access : Access
  deriving Repr, DecidableEq

/-- The file of connections, if there is one. -/
structure Store where
  file : Option StoredFile := none
  deriving Repr, DecidableEq

/-- The directory of the file. -/
def Store.directory : String := ".dbdialects"

/-- Where the file is. -/
def Store.path : String := Store.directory ++ "/connections.toml"

/-- The characters that the encoding of a file has. -/
structure Encoding where
  has : Char → Bool

/-- Why a text cannot be encoded. -/
structure EncodingFault where
  /-- How many characters can be encoded at the front. -/
  position : Nat
  /-- What follows them, up to the next character that can be encoded. -/
  lacking : List Char
  deriving Repr, DecidableEq

/-- The fault of the first characters that an encoding lacks. -/
def Encoding.fault? (e : Encoding) (text : List Char) : Option EncodingFault :=
  if text.all e.has then none
  else some ⟨(text.takeWhile e.has).length, (text.dropWhile e.has).takeWhile (!e.has ·)⟩

/-- The encoding of Unicode, where the last characters of all stand for what is
no text: the stray bytes of a command line. -/
def Encoding.textOnly : Encoding := ⟨fun c => c.toNat < 0x10f800⟩

/-- Why the store cannot answer. -/
inductive StoreError where
  | unreadable (reason : Toml.ReadError)
  /-- The entry of the name is no table. -/
  | notTable (name : String)
  /-- The driver of the entry of the name is a list or a map. -/
  | driverNotSimple (name : String)
  | entry (reason : EntryError)
  /-- A whole number has more digits than are written. -/
  | tooManyDigits
  /-- The text of the file cannot be encoded. -/
  | notEncodable (reason : EncodingFault)
  deriving Repr

/-- What to say when the store cannot answer. -/
def StoreError.message : StoreError → String
  | .unreadable reason => reason.message
  | .notTable name => "'" ++ name ++ "' is not a table"
  | .driverNotSimple name => "The driver of '" ++ name ++ "' is no name"
  | .entry reason => reason.message
  | .tooManyDigits => digitLimitMessage none
  | .notEncodable reason =>
      "The file cannot hold the character at " ++ toString reason.position

namespace Store

/-! ## §2. Reading. -/

/-- What the file holds by name, whether it is a connection or not. -/
def list (s : Store) : Except StoreError (Settings Value) :=
  match s.file with
  | none => .ok .empty
  | some f => (Toml.read f.text).mapError .unreadable

/-- The entries of a table. -/
def tableOf (name : String) (v : Value) : Except StoreError (Settings Value) :=
  match v with
  | .map entries => .ok (Toml.Table.toSettings entries)
  | _ => .error (.notTable name)

/-- The connection of a name, unless it is missing, no connection or for a
driver that is not among the given ids. -/
def get? (s : Store) (ids : List String) (name : String) :
    Except StoreError (Option NamedConnection) := do
  match (← s.list).get? name with
  | none => return none
  | some v =>
      match NamedConnection.ofEntry name (← tableOf name v) with
      | .ok c => return if ids.contains c.driverId then some c else none
      | .error e => if e.isOverflow then throw (.entry e) else return none

/-! ## §3. Writing. -/

/-- The store with the given tables in its file, for its owner only. -/
def withTables (tables : List (String × Settings Value)) : Store :=
  ⟨some ⟨Toml.write tables, .owner⟩⟩

/-- The table of a value that is to be written. -/
def writableTable (name : String) (v : Value) : Except StoreError (Settings Value) := do
  let table ← tableOf name v
  if Toml.isWritable table then return table else throw .tooManyDigits

/-- The tables under their names, to be written. -/
def writableTables (data : Settings Value) : Except StoreError (List (String × Settings Value)) :=
  data.entries.mapM fun e => (e.1, ·) <$> writableTable e.1 e.2

/-- Keep a connection under its name, in the place of the one before. -/
def save (s : Store) (c : NamedConnection) : Except StoreError Store := do
  let data := (← s.list).insert c.name (Parameters.settingsValue c.toEntry)
  return withTables (← writableTables data)

/-- Forget the connection of a name, and say whether there was one.  The
last one takes the file with it. -/
def remove (s : Store) (name : String) : Except StoreError (Bool × Store) := do
  let data ← s.list
  if !data.contains name then return (false, s)
  let rest := data.erase name
  if rest.isEmpty then return (true, {})
  return (true, withTables (← writableTables rest))

end Store

/-! ## §4. Steps on the file. -/

/-- Steps on the file of connections.  The file that there is at a fault is
the one afterwards. -/
abbrev Filing := ExceptT StoreError (StateM Store)

namespace Filing

variable {α : Type}

/-- Do the steps on the file of a store. -/
def on (x : Filing α) (s : Store) : Except StoreError α × Store := x.run.run s

/-- The text of the file, if there is one. -/
def text? : Filing (Option String) := do return (← get).file.map (·.text)

/-- A result that needs no file, or a fault. -/
def ofResult (r : Except StoreError α) : Filing α := ExceptT.mk (pure r)

/-- Put a text in the file.  Who may read it stays as it is, and a new file
is for everyone. -/
def write (text : String) : Filing Unit :=
  modify fun s => ⟨some ⟨text, (s.file.map (·.access)).getD .everyone⟩⟩

/-- Let only the owner read the file. -/
def restrict : Filing Unit :=
  modify fun s => ⟨s.file.map fun f => { f with access := .owner }⟩

/-- Delete the file, if there is one. -/
def delete : Filing Unit := set ({} : Store)

/-! ## §5. Saving and removing by steps. -/

/-- What the file holds by name. -/
def load : Filing (Settings Value) := do
  match ← text? with
  | none => return .empty
  | some text => ofResult ((Toml.read text).mapError .unreadable)

/-- Put what is given by name in the file. -/
def store (data : Settings Value) : Filing Unit := do
  let tables ← ofResult (Store.writableTables data)
  write (Toml.write tables)
  restrict

/-- Keep a connection under its name, in the place of the one before. -/
def save (c : NamedConnection) : Filing Unit := do
  store ((← load).insert c.name (Parameters.settingsValue c.toEntry))

/-- Forget the connection of a name, and say whether there was one. -/
def remove (name : String) : Filing Bool := do
  let data ← load
  if !data.contains name then return false
  let rest := data.erase name
  if rest.isEmpty then delete else store rest
  return true

end Filing

end SqlDialect
