/-
  SqlDialect.Toml.Writer
  ────────────────────────────────
  **WRITING TABLES.**

  Every name stands in quotes.  Truth values and whole numbers are written
  as such, every other value as the text that it shows.  The map under
  `options` becomes a table of its own behind the other entries.
-/
import SqlDialect.Settings
import SqlDialect.Toml.Text
import SqlDialect.Value.Text

namespace SqlDialect.Toml

open SqlDialect.Text SqlDialect.Number

/-- A name as it is written. -/
def writtenName (name : String) : List Char := writtenText name.toList

/-- A value as it is written. -/
def writtenValue (v : Value) : List Char :=
  match v with
  | .bool b => (if b then "true" else "false").toList
  | .int n => intText n
  | v => writtenText v.shownChars

/-- The line that gives a name its value. -/
def assignmentLine (name : List Char) (v : Value) : List Char :=
  writtenText name ++ ' ' :: '=' :: ' ' :: writtenValue v

/-- The name of the entry that becomes a table of its own. -/
def optionsName : String := "options"

/-- The lines of the table of options, if there are any. -/
def optionsLines (name : String) (entry : Settings Value) : List (List Char) :=
  match entry.get? optionsName with
  | some (.map []) | none => []
  | some (.map options) =>
      [[], '[' :: writtenName name ++ ".options]".toList]
        ++ options.map fun e => assignmentLine e.1.shownChars e.2
  | some _ => []

/-- The lines of a table and of its options, with an empty one at the end. -/
def tableLines (name : String) (entry : Settings Value) : List (List Char) :=
  ('[' :: writtenName name ++ [']'])
    :: (entry.entries.filter (·.1 != optionsName)).map (fun e => assignmentLine e.1.toList e.2)
    ++ optionsLines name entry ++ [[]]

/-- Everything that is written of a table can be written. -/
def isWritable (entry : Settings Value) : Bool :=
  (entry.entries.filter (·.1 != optionsName)).all (·.2.isWritable)
    && match entry.get? optionsName with
      | some (.map options) => options.all (·.2.isWritable)
      | _ => true

/-- The text of tables one after another. -/
def write (tables : List (String × Settings Value)) : String :=
  String.ofList (join ['\n'] (tables.flatMap fun t => tableLines t.1 t.2))

end SqlDialect.Toml
