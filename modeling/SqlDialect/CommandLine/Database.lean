/-
  SqlDialect.CommandLine.Database
  ────────────────────────────────
  **WHICH DATABASE?**

  A word names a connection of the store.  If there is none of that name,
  the word itself describes one: `driver:key=value,key=value`.
-/
import SqlDialect.CommandLine.Outcome
import SqlDialect.Registry.Basic

namespace SqlDialect.CommandLine

open SqlDialect.Text

/-! ## §1. Pairs of keys and values. -/

/-- A key and a value around the first equals sign. -/
def readPair? (word : String) : Option (String × String) :=
  (cut? '=' word.toList).map fun p => (String.ofList p.1, String.ofList p.2)

/-- The same without the blanks around both. -/
def readTrimmedPair? (word : String) : Option (String × String) :=
  (cut? '=' word.toList).map fun p => (String.ofList (trim p.1), String.ofList (trim p.2))

/-- The parameters that pairs fill in. -/
def parametersOfPairs (pairs : List (String × String)) : Except FormError Parameters :=
  (·.toParameters) <$> Form.ofSettings (.ofList (pairs.map fun p => (p.1, .text p.2)))

/-! ## §2. Described connections. -/

/-- The value of the option that names the database cannot be used. -/
def databaseFault (reason : String) : UsageError := .unusable "--db" reason

/-- What to say about a word that neither names nor describes a connection. -/
def notFoundText (word : String) : String :=
  "Connection '" ++ word ++ "' not found in ~/.dbdialects/connections.toml and not in "
    ++ "'driver:key=val' format.\n  Add it: dbdialects connect add " ++ word
    ++ " <driver> <param>=<val>"

/-- The ids as a text. -/
def idsText (ids : List String) : String := ", ".intercalate ids

/-- The pairs of a description; the empty text has none. -/
def readPairs (text : List Char) : Except UsageError (List (String × String)) :=
  if text.isEmpty then .ok []
  else (splitOn ',' text).mapM fun part =>
    let word := String.ofList part
    match readTrimmedPair? word with
    | some pair => .ok pair
    | none => .error (databaseFault ("Expected key=value pair, got '" ++ word ++ "'"))

/-- The connection that a word describes; its driver is its name. -/
def readConnection (ids : List String) (word : String) : Except UsageError NamedConnection :=
  match cut? ':' word.toList with
  | none => .error (databaseFault (notFoundText word))
  | some (front, text) => do
      let id := String.ofList front
      if !ids.contains id then
        throw (databaseFault ("Unknown driver '" ++ id ++ "'. Valid: " ++ idsText ids))
      let pairs ← readPairs text
      let parameters ← (parametersOfPairs pairs).mapError fun e => databaseFault e.message
      return ⟨id, id, parameters⟩

/-! ## §3. The database of a word. -/

/-- The connection that a word names, else the one that it describes. -/
def findConnection (s : Store) (ids : List String) (word : String) :
    Except Ending NamedConnection :=
  match s.get? ids word with
  | .error e => .error (.broken (.store e))
  | .ok (some c) => .ok c
  | .ok none => (readConnection ids word).mapError .refused

/-- A connection of the store goes before a description. -/
theorem findConnection_of_get? {s : Store} {ids : List String} {word : String}
    {c : NamedConnection} (h : s.get? ids word = .ok (some c)) :
    findConnection s ids word = .ok c := by
  simp [findConnection, h]

end SqlDialect.CommandLine
