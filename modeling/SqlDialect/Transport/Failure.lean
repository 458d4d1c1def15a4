/-
  SqlDialect.Transport.Failure
  ────────────────────────────────
  **FAILURES OF CLIENT LIBRARIES.**

  A client library fails with a kind and arguments.  What the failure says
  is made of its arguments:

      OSError 2 "No such file" "x"    [Errno 2] No such file: 'x'

  A failure that would show a number with more digits than are written says
  nothing.
-/
import SqlDialect.Value.Text

namespace SqlDialect

open SqlDialect.Text

/-- The kinds of failure that a client library knows. -/
inductive FailureKind where
  | transport
  /-- A failure of the operating system, with an error number. -/
  | system
  /-- A failure of the operating system: too late. -/
  | timeout
  /-- A key that is not there. -/
  | key
  | value
  | runtime
  | other
  /-- The kind that the client library defines itself. -/
  | client
  deriving Repr, DecidableEq

/-- A failure of a client library. -/
structure Failure where
  kind : FailureKind
  args : List Value
  deriving Repr

namespace Failure

/-- The arguments by themselves: nothing, the one there is, or all of them
in parentheses. -/
def argsText : List Value → List Char
  | [] => []
  | [v] => v.shownChars
  | vs => '(' :: join [',', ' '] (vs.map (·.literalChars)) ++ [')']

/-- The argument is there and not null. -/
def given? (args : List Value) (k : Nat) : Option Value :=
  match args[k]? with
  | some .null | none => none
  | some v => some v

/-- The numbers of the system errors that tell that a call would block. -/
def blockingNumbers : List Int := [11, 114, 115]

/-- The whole number that a value is; true counts as 1, false as 0. -/
def wholeNumber? : Value → Option Int
  | .int n => some n
  | .bool b => some (if b then 1 else 0)
  | _ => none

/-- The number of a system error, if it is given with a text and is among
the given ones. -/
def systemNumber? (numbers : List Int) (f : Failure) : Option Int :=
  match f.kind, f.args with
  | .system, number :: _ :: rest =>
      if rest.length ≤ 3 then (wholeNumber? number).filter numbers.contains else none
  | _, _ => none

/-- The file that the third argument of a system error names.  Of a call
that would block it may be a number, which is no file. -/
def fileOf? (f : Failure) : Option Value :=
  match given? f.args 2 with
  | some v =>
      if (f.systemNumber? blockingNumbers).isSome && (wholeNumber? v).isSome then none
      else some v
  | none => none

/-- The files that a system error concerns. -/
def files (f : Failure) : List Value :=
  match f.fileOf? with
  | some file => file :: (given? f.args 4).toList
  | none => []

/-- A system error: its number, its text and the files concerned. -/
def systemText (number text : Value) (files : List Value) : List Char :=
  "[Errno ".toList ++ number.shownChars ++ ']' :: ' ' :: text.shownChars
    ++ match files with
      | [] => []
      | files => ':' :: ' ' :: join " -> ".toList (files.map (·.literalChars))

/-- The number and the text of a system error, which has up to five
arguments. -/
def asSystem? (f : Failure) : Option (Value × Value) :=
  match f.kind, f.args with
  | .system, number :: text :: rest | .timeout, number :: text :: rest =>
      if rest.length ≤ 3 then some (number, text) else none
  | _, _ => none

/-- The arguments that the failure shows. -/
def shownArgs (f : Failure) : List Value :=
  match f.asSystem? with
  | some (number, text) => number :: text :: f.files
  | none => f.args

/-- What a failure says, if the numbers in it can be written. -/
def text? (f : Failure) : Option String :=
  if f.shownArgs.all (·.isWritable) then
    some <| String.ofList <| match f.asSystem?, f.kind, f.args with
      | some (number, text), _, _ => systemText number text f.files
      | none, .key, [v] => v.literalChars
      | none, _, args => argsText args
  else none

end Failure

end SqlDialect
