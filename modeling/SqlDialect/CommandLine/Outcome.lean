/-
  SqlDialect.CommandLine.Outcome
  ────────────────────────────────
  **OUTCOMES OF COMMANDS.**

  A command ends with a result, with a failure it reports, with a refusal of
  its command line, or it breaks down.  How it ends decides the exit code
  and what is printed where:

      result 0 · failure, complaint and breakdown 1 · refusal 2

  Printed text loses the control sequences of terminals: an escape character,
  an opening bracket, digits, semicolons and question marks, and a letter.
-/
import SqlDialect.CommandLine.Json
import SqlDialect.CommandLine.Shape
import SqlDialect.Driver.Temporal
import SqlDialect.Probe.Connection
import SqlDialect.Sql.Reader
import SqlDialect.Store.Basic

namespace SqlDialect.Text

/-! ## §1. Control sequences. -/

/-- The character that control sequences start with. -/
def escapeChar : Char := '\x1b'

/-- The character may stand between the bracket and the letter. -/
def isControlParameter (c : Char) : Bool :=
  c.isDigit || c == ';' || c == '?'

/-- Drop the control sequences of a text, behind characters that are held
back because a sequence may have started with them. -/
def dropControlsFrom (held : List Char) : List Char → List Char
  | [] => held
  | c :: rest =>
      if c = escapeChar then held ++ dropControlsFrom [c] rest
      else match held with
        | [] => c :: dropControlsFrom [] rest
        | [_] => if c = '[' then dropControlsFrom (held ++ [c]) rest
            else held ++ c :: dropControlsFrom [] rest
        | _ =>
            if isControlParameter c then dropControlsFrom (held ++ [c]) rest
            else if c.isAlpha then dropControlsFrom [] rest
            else held ++ c :: dropControlsFrom [] rest

/-- A text without control sequences. -/
def dropControls (s : List Char) : List Char :=
  dropControlsFrom [] s

end SqlDialect.Text

namespace SqlDialect.CommandLine

/-! ## §2. Endings. -/

/-- What stops a command that has no report for it. -/
inductive Breakdown where
  | store (reason : StoreError)
  | spec (reason : SpecError)
  | probe (reason : ProbeError)
  | template (reason : Text.TemplateError)
  /-- The library of SQL stops at an expression. -/
  | expression (reason : Sql.SqlFault)
  deriving Repr

/-- What to say about a breakdown. -/
def Breakdown.message : Breakdown → String
  | .store reason => reason.message
  | .spec reason => reason.message
  | .probe reason => reason.message
  | .template reason => reason.message
  | .expression reason => reason.message

/-- How a command ends. -/
inductive Ending where
  | result (text : String)
  /-- The result is that something failed. -/
  | failure (text : String)
  /-- There is no result, and this is why. -/
  | complaint (text : String)
  | refused (reason : UsageError)
  | broken (reason : Breakdown)
  /-- The command breaks down behind these lines. -/
  | brokenOff (lines : List String) (reason : Breakdown)
  deriving Repr

namespace Ending

/-- The exit code. -/
def exitCode : Ending → Nat
  | .result _ => 0
  | .failure _ | .complaint _ | .broken _ | .brokenOff .. => 1
  | .refused _ => 2

/-- A text on lines of its own. -/
def asLine (text : String) : String := text ++ "\n"

/-- A text on lines of its own, without control sequences. -/
def asPlainLine (text : String) : String :=
  asLine (String.ofList (Text.dropControls text.toList))

/-- What is printed. -/
def printed : Ending → String
  | .result text | .failure text => asPlainLine text
  | .brokenOff lines _ => String.join (lines.map asPlainLine)
  | .complaint _ | .refused _ | .broken _ => ""

/-- What is printed as an error. -/
def reported : Ending → String
  | .complaint text => asPlainLine text
  | .refused reason => asPlainLine ("Error: " ++ reason.message)
  | .result _ | .failure _ | .broken _ | .brokenOff .. => ""

/-- What the command breaks down at. -/
def breakdown? : Ending → Option Breakdown
  | .broken reason | .brokenOff _ reason => some reason
  | _ => none

/-- The exit code is zero exactly for results. -/
theorem exitCode_eq_zero_iff (e : Ending) : e.exitCode = 0 ↔ ∃ text, e = .result text := by
  cases e <;> simp [exitCode]

end Ending

/-! ## §3. Outcomes. -/

/-- What comes of a command. -/
structure Outcome where
  ending : Ending
  /-- The store afterwards, if the command writes it. -/
  written : Option Store := none
  log : List LogRecord := []
  /-- The calls to a client library. -/
  events : List Event := []
  deriving Repr

namespace Outcome

/-- A command that prints its result and does nothing else. -/
def result (text : String) : Outcome := { ending := .result text }

/-- A command that complains. -/
def complaint (text : String) : Outcome := { ending := .complaint text }

/-- A command that is refused. -/
def refused (reason : UsageError) : Outcome := { ending := .refused reason }

/-- A command that breaks down. -/
def broken (reason : Breakdown) : Outcome := { ending := .broken reason }

/-- The outcome, with something noted before. -/
def after (o : Outcome) (log : List LogRecord) : Outcome := { o with log := log ++ o.log }

/-- The records that are shown: all of them, or those that warn. -/
def shownLog (o : Outcome) (isVerbose : Bool) : List LogRecord :=
  if isVerbose then o.log else o.log.filter (·.level == .warning)

/-- What is printed as an error: the log, then the report of the ending. -/
def reported (o : Outcome) (isVerbose : Bool) : String :=
  String.join ((o.shownLog isVerbose).map fun r => Ending.asLine r.line) ++ o.ending.reported

end Outcome

end SqlDialect.CommandLine
