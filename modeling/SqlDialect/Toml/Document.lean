/-
  SqlDialect.Toml.Document
  ────────────────────────────────
  **DOCUMENTS, STATEMENT BY STATEMENT.**

  A document is a table of values.  Its statements assign a value, open a
  table or add a table to an array.  Nothing may be said twice: a table is
  opened once, and an array or table that is written as a value is closed
  for good.
-/
import SqlDialect.Settings
import SqlDialect.Value.Basic

namespace SqlDialect.Toml

/-! ## §1. Tables. -/

/-- A dotted key. -/
abbrev Key := List String

/-- The entries of a table, in order. -/
abbrev Table := List (Value × Value)

namespace Table

/-- The value of a name. -/
def get? (t : Table) (name : String) : Option Value :=
  Entries.get? Value.same (.text name) t

/-- Give a name its value. -/
def set (t : Table) (name : String) (v : Value) : Table :=
  Entries.insert Value.same (.text name) v t

/-- Give a new name its value. -/
def add? (name : String) (v : Value) (t : Table) : Option Table :=
  if (t.get? name).isSome then none else some (t.set name v)

/-- Add an empty table to the array of a name. -/
def addItem? (name : String) (t : Table) : Option Table :=
  match t.get? name with
  | none => some (t.set name (.list [.map []]))
  | some (.list items) => some (t.set name (.list (items ++ [.map []])))
  | some _ => none

/-- Change the table that a key leads to.  Tables that are missing on the
way are made; an array leads into its last table, if arrays may be entered. -/
def changeAt? (enterArrays : Bool) (change : Table → Option Table) : Key → Table → Option Table
  | [], t => change t
  | name :: key, t =>
      match t.get? name with
      | none => (changeAt? enterArrays change key []).map fun inner => t.set name (.map inner)
      | some (.map inner) =>
          (changeAt? enterArrays change key inner).map fun inner => t.set name (.map inner)
      | some (.list items) =>
          match enterArrays, items.getLast? with
          | true, some (.map last) =>
              (changeAt? enterArrays change key last).map fun last =>
                t.set name (.list (items.dropLast ++ [.map last]))
          | _, _ => none
      | some _ => none

/-- The entries under their names. -/
def toSettings (t : Table) : Settings Value :=
  .ofList (t.filterMap fun e => match e.1 with
    | .text name => some (name, e.2)
    | _ => none)

end Table

/-! ## §2. Marks. -/

/-- What is settled about a key. -/
inductive Mark where
  /-- The table has been opened and is not opened again. -/
  | opened
  /-- The key and all below it stay as they are. -/
  | closed
  deriving Repr, DecidableEq

/-- What is settled, key by key. -/
abbrev Marks := List (Key × Mark)

namespace Marks

/-- The table of the key has been opened. -/
def isOpened (ms : Marks) (key : Key) : Bool := ms.contains (key, .opened)

/-- The key or one that leads to it is closed. -/
def isClosed (ms : Marks) (key : Key) : Bool :=
  ms.any fun m => m.2 == .closed && m.1.isPrefixOf key

/-- Forget what is settled about the key and all below it. -/
def release (ms : Marks) (key : Key) : Marks :=
  ms.filter fun m => !key.isPrefixOf m.1

/-- Close the key if its value is an array or a table. -/
def closeFor (ms : Marks) (key : Key) (v : Value) : Marks :=
  match v with
  | .map _ | .list _ => (key, .closed) :: ms
  | _ => ms

end Marks

/-! ## §3. Statements. -/

/-- A statement of a document. -/
inductive Statement where
  /-- Give a key, below the open table, its value. -/
  | assign (key : Key) (v : Value)
  /-- Open a table. -/
  | table (key : Key)
  /-- Add a table to an array and open it. -/
  | item (key : Key)
  deriving Repr

/-- A document while it is read. -/
structure State where
  table : Table := []
  marks : Marks := []
  /-- The open table. -/
  header : Key := []
  /-- Tables made on the way to a value; the next header settles them. -/
  pending : List Key := []
  deriving Repr

namespace State

/-- The keys of the tables that a dotted key leads through. -/
def passed (s : State) (key : Key) : List Key :=
  ((List.range key.length).drop 1).map fun k => s.header ++ key.take k

/-- Settle the tables made on the way. -/
def settle (s : State) : State :=
  { s with marks := s.pending.map (·, .opened) ++ s.marks, pending := [] }

/-- Give a key its value. -/
def assign? (s : State) (key : Key) (v : Value) : Option State :=
  let parent := s.header ++ key.dropLast
  if (s.passed key).any s.marks.isOpened || s.marks.isClosed parent then none
  else (s.table.changeAt? true (Table.add? (key.getLastD "") v) parent).map fun t =>
    { s with
      table := t
      marks := s.marks.closeFor (s.header ++ key) v
      pending := s.passed key ++ s.pending }

/-- Open a table. -/
def open? (s : State) (key : Key) : Option State :=
  if s.marks.isOpened key || s.marks.isClosed key then none
  else (s.table.changeAt? true some key).map fun t =>
    { s with table := t, marks := (key, .opened) :: s.marks, header := key }

/-- Add a table to an array and open it. -/
def openItem? (s : State) (key : Key) : Option State :=
  if s.marks.isClosed key then none
  else (s.table.changeAt? true (Table.addItem? (key.getLastD "")) key.dropLast).map fun t =>
    { s with table := t, marks := (key, .opened) :: s.marks.release key, header := key }

/-- Follow a statement. -/
def follow? (s : State) : Statement → Option State
  | .assign key v => s.assign? key v
  | .table key => s.settle.open? key
  | .item key => s.settle.openItem? key

/-- Follow statements one after another. -/
def followAll? (s : State) (statements : List Statement) : Option State :=
  statements.foldlM follow? s

/-- The first statement decides what the others start from. -/
theorem followAll?_cons (s : State) (st : Statement) (rest : List Statement) :
    s.followAll? (st :: rest) = (s.follow? st).bind (·.followAll? rest) := rfl

end State

end SqlDialect.Toml
