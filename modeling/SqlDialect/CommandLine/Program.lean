/-
  SqlDialect.CommandLine.Program
  ────────────────────────────────
  **THE PROGRAM.**

  The words of a command line become a command, the command an outcome, and
  the outcome what is printed, what is stored and an exit code:

      Program.run : Surroundings → List String → Program

  On the file itself the commands that add and remove a connection work step by
  step, and end with whatever the file has become; all others only read it.
  Where the encoding of the file lacks a character, the file is emptied before
  that shows.
-/
import SqlDialect.CommandLine.Execute
import SqlDialect.Store.Basic

namespace SqlDialect.CommandLine

/-! ## §1. Runs of the program. -/

/-- A run of the program. -/
structure Program where
  outcome : Outcome
  /-- All log records are shown. -/
  isVerbose : Bool
  /-- The store afterwards. -/
  store : Store
  deriving Repr

namespace Program

/-- The outcome of what a command line asks for. -/
def outcomeOf (s : Surroundings) : Except UsageError Command → Outcome
  | .ok command => execute s command
  | .error e => .refused e

/-- Run the program on the words of a command line. -/
def run (s : Surroundings) (words : List String) : Program :=
  let asked := Invocation.ofWords s.database driverIds words
  let outcome := outcomeOf s asked.command
  ⟨outcome, asked.isVerbose, outcome.written.getD s.store⟩

/-- The exit code. -/
def exitCode (p : Program) : Nat := p.outcome.ending.exitCode

/-- What is printed. -/
def printed (p : Program) : String := p.outcome.ending.printed

/-- What is printed as an error. -/
def reported (p : Program) : String := p.outcome.reported p.isVerbose

end Program

/-! ## §2. Commands on the file itself. -/

/-- How a command ends whose steps on the file end so. -/
def endingOf {α : Type} (next : α → Ending) : Except StoreError α → Ending
  | .ok a => next a
  | .error e => .broken (.store e)

/-- Keep a connection in the file. -/
def addInPlace (name id : String) (words : List String) : StateM Store Ending := do
  match parametersOfWords words with
  | .error e => return .refused e
  | .ok parameters =>
      return endingOf
        (fun () => .result ("Saved connection '" ++ name ++ "' (" ++ id ++ ") to " ++ Store.path))
        (← (Filing.save ⟨name, id, parameters⟩).run)

/-- Forget a connection of the file. -/
def removeInPlace (name : String) : StateM Store Ending := do
  return endingOf
    (fun removed => if removed then .result ("Removed connection '" ++ name ++ "'.")
      else .complaint ("Connection '" ++ name ++ "' not found."))
    (← (Filing.remove name).run)

/-- Do what a command asks for, on the file itself. -/
def executeInPlace (s : Surroundings) : Command → StateM Store Ending
  | .addConnection name id words => addInPlace name id words
  | .removeConnection name => removeInPlace name
  | command => do return (execute { s with store := ← get } command).ending

/-- Run the program on the words of a command line, and on the file itself. -/
def runInPlace (s : Surroundings) (words : List String) : StateM Store Ending :=
  match (Invocation.ofWords s.database driverIds words).command with
  | .ok command => executeInPlace s command
  | .error e => return .refused e

/-! ## §3. The encoding of the file. -/

namespace Program

/-- The run with a text of the file that cannot be encoded: by then the file is
empty, and it stays so. -/
def emptied (p : Program) (before : Store) (fault : EncodingFault) : Program :=
  let store := ((Filing.write "").on before).2
  { p with
    outcome := { p.outcome with
      ending := .broken (.store (.notEncodable fault))
      written := some store }
    store }

/-- The text of the file that a run writes. -/
def writtenText? (p : Program) : Option String :=
  (p.outcome.written.bind (·.file)).map (·.text)

/-- Run the program where the file is written in an encoding. -/
def runIn (e : Encoding) (s : Surroundings) (words : List String) : Program :=
  let p := run s words
  match p.writtenText?.bind (e.fault? ·.toList) with
  | none => p
  | some fault => p.emptied s.store fault

end Program

end SqlDialect.CommandLine
