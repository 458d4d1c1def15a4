/-
  SqlDialect.Registry.Basic
  ────────────────────────────────
  **THE DRIVER REGISTRY.**

  Drivers are registered under ids.  Built-in drivers are made when they are
  first asked for and kept; a registered driver goes before a built-in one
  of the same id.  A lookup that fails changes nothing:

      lookup : Registry → Catalogue → String → Except LookupError Found

  only a driver that was found comes with a registry to go on with.  Step by
  step, to look an id up is to read the table, to import the module of a
  built-in driver, to find its class there, to make the driver and to put it
  in the table.  There nothing is undone when a step fails: what has been done
  to the registry stays done.

      Loading α = InUse → Except LookupError α × InUse
-/
import SqlDialect.Driver.Basic
import SqlDialect.Registry.Catalogue

namespace SqlDialect

open SqlDialect.Text

/-! ## §1. Registered drivers. -/

/-- Where a registered driver comes from; two drivers of one origin are one. -/
inductive Origin where
  /-- Registered by a caller, who tells drivers apart by a tag. -/
  | supplied (tag : String)
  /-- Made by the registry, as the driver of this number. -/
  | made (serial : Nat)
  deriving Repr, DecidableEq

/-- A driver in the registry. -/
structure Registered where
  origin : Origin
  driver : Driver
  deriving Repr

/-- Why no driver is found. -/
inductive LookupError where
  | notRegistered (id : String)
  /-- The class of the built-in driver gives none. -/
  | notLoaded (id : String) (reason : LoadFault)
  deriving Repr, DecidableEq

/-- What to say about a driver that is not found.  A fault of importing is
reported as a driver that could not be loaded, all else as it is. -/
def LookupError.message : LookupError → String
  | .notRegistered id => "No driver registered for '" ++ id ++ "'"
  | .notLoaded id (.onImport (.importFault message)) =>
      "Could not load driver '" ++ id ++ "': " ++ message
  | .notLoaded _ reason => reason.message

/-! ## §2. The registry. -/

/-- The drivers by id. -/
structure Registry where
  /-- The drivers registered or made so far; null hides nothing. -/
  table : Settings (Option Registered) := .empty
  builtins : Settings ClassPath
  /-- How many built-in drivers have been made. -/
  made : Nat := 0
  deriving Repr

/-- A driver that was found, the registry afterwards and what was noted. -/
structure Found where
  entry : Registered
  registry : Registry
  log : List LogRecord
  deriving Repr

namespace Registry

/-- The registry that a program starts with. -/
def standard : Registry where
  builtins := .ofList [
    ("sql", ⟨"dbdialects.drivers.generic", "GenericSQLDriver"⟩),
    ("hana", ⟨"dbdialects.drivers.hana", "HanaDriver"⟩),
    ("duckdb", ⟨"dbdialects.drivers.duckdb", "DuckDBDriver"⟩)]

/-- A note about the driver with the given id. -/
def note (what id : String) : LogRecord :=
  ⟨.debug, registryLogger, what ++ " driver " ++ String.ofList (quoted id.toList)⟩

/-- Register a driver, or null, in the place of the one that was there. -/
def register (r : Registry) (id : String) (entry : Option Registered) :
    Registry × List LogRecord :=
  ({ r with table := r.table.insert id entry },
    if r.table.contains id then [note "Replacing" id] else [])

/-- The driver that is registered under an id. -/
def registered? (r : Registry) (id : String) : Option Registered :=
  (r.table.get? id).join

/-- Make the built-in driver of a class and keep it. -/
def load (r : Registry) (c : Catalogue) (id : String) (path : ClassPath) :
    Except LookupError Found :=
  match c.driverOf path with
  | .error e => .error (.notLoaded id e)
  | .ok d =>
      let entry : Registered := ⟨.made r.made, d⟩
      .ok ⟨entry, { r with table := r.table.insert id (some entry), made := r.made + 1 },
        [note "Loaded built-in" id]⟩

/-- The driver of an id: the one in the table, else the built-in one. -/
def lookup (r : Registry) (c : Catalogue) (id : String) : Except LookupError Found :=
  match r.registered? id with
  | some entry => .ok ⟨entry, r, []⟩
  | none => match r.builtins.get? id with
    | some path => r.load c id path
    | none => .error (.notRegistered id)

/-- The ids in the table or built in, sorted. -/
def ids (r : Registry) : List String :=
  (r.table.keys ++ r.builtins.keys).eraseDups.mergeSort (· ≤ ·)

/-! ## §3. What the operations do. -/

/-- What was registered is found under its id, and other ids keep theirs. -/
@[simp] theorem registered?_register (r : Registry) (id id' : String)
    (entry : Option Registered) :
    (r.register id entry).1.registered? id' = if id = id' then entry else r.registered? id' := by
  simp only [register, registered?, Settings.get?_insert]
  split <;> simp

/-- A driver in the table is found as it is. -/
theorem lookup_of_registered {r : Registry} {id : String} {entry : Registered}
    (h : r.registered? id = some entry) (c : Catalogue) :
    r.lookup c id = .ok ⟨entry, r, []⟩ := by
  simp [lookup, h]

end Registry

/-! ## §4. Steps on a registry. -/

/-- A registry in use, and what has been noted so far. -/
structure InUse where
  registry : Registry
  log : List LogRecord := []

/-- Steps on a registry in use.  What it is at a fault is what it is
afterwards. -/
abbrev Loading := ExceptT LookupError (StateM InUse)

namespace Loading

variable {α : Type}

/-- Do the steps on a registry in use. -/
def on (x : Loading α) (s : InUse) : Except LookupError α × InUse := x.run.run s

/-- What has come of the class of a built-in driver. -/
def ofResult (id : String) (r : Except LoadFault α) : Loading α :=
  ExceptT.mk (pure (r.mapError (.notLoaded id)))

/-- Note something. -/
def note (record : LogRecord) : Loading Unit :=
  modify fun s => { s with log := s.log ++ [record] }

/-- Make a driver, which gets the next number. -/
def make (d : Driver) : Loading Registered :=
  modifyGet fun s =>
    (⟨.made s.registry.made, d⟩, { s with registry.made := s.registry.made + 1 })

/-- Put a driver in the table, unless there is one under the id by now: then it
is that one. -/
def keep (id : String) (entry : Registered) : Loading Registered := do
  match (← get).registry.registered? id with
  | some existing => return existing
  | none =>
      modify fun s => { s with registry.table := s.registry.table.insert id (some entry) }
      note (Registry.note "Loaded built-in" id)
      return entry

/-- Make the built-in driver of a class and keep it. -/
def load (c : Catalogue) (id : String) (path : ClassPath) : Loading Registered := do
  let m ← ofResult id ((c.importModule path.module).mapError .onImport)
  let made ← ofResult id (Catalogue.classIn path m)
  let d ← ofResult id (made.mapError .onCall)
  keep id (← make d)

/-- The driver of an id: the one in the table, else the built-in one. -/
def lookup (c : Catalogue) (id : String) : Loading Registered := do
  let registry := (← get).registry
  match registry.registered? id with
  | some entry => return entry
  | none => match registry.builtins.get? id with
    | some path => load c id path
    | none => throw (.notRegistered id)

end Loading

end SqlDialect
