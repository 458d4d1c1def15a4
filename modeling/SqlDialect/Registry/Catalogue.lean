/-
  SqlDialect.Registry.Catalogue
  ────────────────────────────────
  **THE CATALOGUE OF DRIVER CLASSES.**

  A driver class is had in three steps: its module is imported, its name is
  found there, and it is called.  A catalogue says what comes of each:

      driverOf : Catalogue → ClassPath → Except LoadFault Driver

  What modules there are, which names they have and whether a class makes its
  driver is not the registry's concern.  The `standard` catalogue has the
  built-in classes; a dotted path is resolved one name at a time there, and the
  first name that is missing is the one to complain about.
-/
import SqlDialect.Driver.Builtin
import SqlDialect.Text.Quote
import SqlDialect.Text.Segment

namespace SqlDialect

open SqlDialect.Text

/-! ## §1. What may go wrong. -/

/-- A driver class and the module that holds it. -/
structure ClassPath where
  module : String
  className : String
  deriving Repr, DecidableEq

/-- What an import or a class that is called may raise. -/
inductive Raised where
  /-- A fault of importing, by its text. -/
  | importFault (message : String)
  /-- A fault of drivers, by its text. -/
  | driverFault (message : String)
  /-- A fault of any other kind. -/
  | other (kind message : String)
  deriving Repr, DecidableEq

/-- The text of what is raised. -/
def Raised.message : Raised → String
  | .importFault message | .driverFault message | .other _ message => message

/-- Why a class gives no driver. -/
inductive LoadFault where
  /-- The import of its module raises something. -/
  | onImport (raised : Raised)
  /-- Its module has no such name. -/
  | missingClass (path : ClassPath)
  /-- The class raises something when it is called. -/
  | onCall (raised : Raised)
  deriving Repr, DecidableEq

/-- What to say about a class that gives no driver. -/
def LoadFault.message : LoadFault → String
  | .onImport raised | .onCall raised => raised.message
  | .missingClass path =>
      "module " ++ String.ofList (quoted path.module.toList) ++ " has no attribute "
        ++ String.ofList (quoted path.className.toList)

/-! ## §2. Catalogues. -/

/-- An imported module: what its names give when they are called. -/
structure Module where
  /-- A name that the module does not have gives nothing. -/
  call? : String → Option (Except Raised Driver)

/-- What comes of importing the module of a path. -/
structure Catalogue where
  importModule : String → Except Raised Module

namespace Catalogue

/-- The class of a path in its module, not called yet. -/
def classIn (path : ClassPath) (m : Module) : Except LoadFault (Except Raised Driver) :=
  match m.call? path.className with
  | some made => .ok made
  | none => .error (.missingClass path)

/-- The driver that a class makes. -/
def driverOf (c : Catalogue) (path : ClassPath) : Except LoadFault Driver := do
  let m ← (c.importModule path.module).mapError .onImport
  let made ← classIn path m
  made.mapError .onCall

/-! ## §3. The standard catalogue. -/

/-- The packages. -/
def packages : List String := ["dbdialects", "dbdialects.drivers"]

/-- The modules with their driver classes. -/
def modules : List (String × List (String × Driver)) := [
  ("dbdialects.drivers.generic", [("GenericSQLDriver", .standard)]),
  ("dbdialects.drivers.hana", [("HanaDriver", .hana), ("GenericSQLDriver", .standard)]),
  ("dbdialects.drivers.duckdb", [("DuckDBDriver", .duckdb), ("GenericSQLDriver", .standard)])]

/-- The driver classes of a module; a package has none. -/
def classesOf? (path : String) : Option (List (String × Driver)) :=
  if packages.contains path then some [] else modules.lookup path

/-- The parts of a path that lead to it: `a`, `a.b`, `a.b.c`. -/
def stages (path : String) : List String :=
  let names := splitOn '.' path.toList
  (List.range names.length).map fun k => String.ofList (join ['.'] (names.take (k + 1)))

/-- What to say about a missing module; `inModule` names the module in which it
would have to be, if that is no package. -/
def missingText (path : String) (inModule : Option String) : String :=
  "No module named " ++ String.ofList (quoted path.toList)
    ++ match inModule with
      | none => ""
      | some m => "; " ++ String.ofList (quoted m.toList) ++ " is not a package"

/-- The first of the given paths that is missing, where `parent` is the path
before them. -/
def firstMissing? (parent : Option String) : List String → Option Raised
  | [] => none
  | path :: rest =>
      if (classesOf? path).isSome then firstMissing? (some path) rest
      else some (.importFault (missingText path (parent.filter fun p => !packages.contains p)))

/-- The module with the given classes, each of which makes its driver. -/
def moduleOf (classes : List (String × Driver)) : Module :=
  ⟨fun name => (classes.lookup name).map .ok⟩

/-- The catalogue of the built-in classes. -/
def standard : Catalogue where
  importModule path :=
    if path.isEmpty then .error (.other "ValueError" "Empty module name")
    else if path.startsWith "." then
      .error (.other "TypeError" "A relative module name has no package to start from")
    else match firstMissing? none (stages path) with
      | some e => .error e
      | none => .ok (moduleOf ((classesOf? path).getD []))

end Catalogue

end SqlDialect
