/-
  SqlDialect.Main
  ────────────────────────────────
  **THE COMMAND LINE PROGRAM.**

  Reads the words, the environment and the file of connections, runs the
  program and does what its outcome asks for.  No client library is built
  in, so a probe reports that one is missing.
-/
import SqlDialect.CommandLine.Program

namespace SqlDialect.CommandLine

/-- The environment variable that names the database. -/
def databaseVariable : String := "DBDIALECTS_DB"

/-- The store in the given file; a missing file is an empty store. -/
def readStore (path : String) : IO Store := do
  match ← (IO.FS.readFile path).toBaseIO with
  | .ok text => return ⟨some ⟨text, .owner⟩⟩
  | .error (.noFileOrDirectory ..) => return {}
  | .error e => throw e

/-- Put a store in the given file, which only its owner may read. -/
def writeStore (directory path : String) (s : Store) : IO Unit := do
  match s.file with
  | some f =>
      IO.FS.createDirAll directory
      IO.FS.writeFile path f.text
      IO.setAccessRights path ⟨⟨true, true, false⟩, {}, {}⟩
  | none => IO.FS.removeFile path

/-- What the program finds, with the file of connections at the given path. -/
def findSurroundings (path : String) : IO Surroundings := do
  return { store := ← readStore path, database := ← IO.getEnv databaseVariable }

end SqlDialect.CommandLine

open SqlDialect SqlDialect.CommandLine in
/-- Run the program. -/
def main (words : List String) : IO UInt32 := do
  let home := (← IO.getEnv "HOME").getD "."
  let path := home ++ "/" ++ Store.path
  let p := Program.run (← findSurroundings path) words
  if let some s := p.outcome.written then writeStore (home ++ "/" ++ Store.directory) path s
  IO.eprint p.reported
  if let some e := p.outcome.ending.breakdown? then IO.eprintln ("error: " ++ e.message)
  IO.print p.printed
  return p.exitCode.toUInt32
