/-
  SqlDialect.Database.Basic
  ────────────────────────────────
  **WHAT EXPRESSIONS EVALUATE TO.**

  A database gives the functions, operators and literals of expressions
  their meaning, and a row gives the columns theirs.  An expression
  evaluates from the inside out:

      evaluate (f (e₁, …)) = call f (evaluate e₁, …)

  What has no value in a database has none here.
-/
import SqlDialect.Calendar.Period
import SqlDialect.Calendar.Weekday
import SqlDialect.Sql.Expr

namespace SqlDialect

open SqlDialect.Sql SqlDialect.Calendar SqlDialect.Number

/-! ## §1. Values. -/

/-- A value in a database. -/
inductive Datum where
  | int (n : Int)
  | text (s : String)
  | date (d : Date)
  | timestamp (t : Timestamp)
  deriving Repr, DecidableEq

namespace Datum

/-- The date of a date or a timestamp. -/
def date? : Datum → Option Date
  | .date d => some d
  | .timestamp t => some t.date
  | _ => none

/-- A text as it is, and a whole number in plain decimal. -/
def plain? : Datum → Option String
  | .int n => some (String.ofList (intText n))
  | .text s => some s
  | _ => none

end Datum

/-! ## §2. Databases. -/

/-- The values of the columns of a row. -/
abbrev Columns := List Name → Name → Option Datum

/-- What a database makes of the parts of an expression. -/
structure Database where
  /-- An unsigned number as it is written. -/
  number : String → Option Datum
  /-- A fragment that is written as it is. -/
  fragment : String → Option Datum
  call : String → List Datum → Option Datum
  cast : Datum → DataType → Option Datum
  extract : String → Datum → Option Datum
  operate : Operator → Datum → Datum → Option Datum

namespace Database

mutual

/-- The value of an expression for a row, if it has one. -/
@[simp] def evaluate (db : Database) (row : Columns) : Expr → Option Datum
  | .column path name => row path name
  | .text s => some (.text s)
  | .number digits => db.number digits
  | .raw s => db.fragment s
  | .call f args => do db.call f (← evaluateAll db row args)
  | .cast e type => do db.cast (← evaluate db row e) type
  | .extract part e => do db.extract part (← evaluate db row e)
  | .paren e => evaluate db row e
  -- several expressions have no single value
  | .tuple _ => none
  | .neg e => do db.operate .sub (.int 0) (← evaluate db row e)
  | .binary op a b => do db.operate op (← evaluate db row a) (← evaluate db row b)

/-- The values of expressions. -/
@[simp] def evaluateAll (db : Database) (row : Columns) : List Expr → Option (List Datum)
  | [] => some []
  | e :: es => do return (← evaluate db row e) :: (← evaluateAll db row es)

end

/-! ## §3. Values of parts. -/

section

variable {db : Database} {row : Columns} {e e' : Expr} {v v' : Datum}

theorem evaluate_text (s : String) : db.evaluate row (.text s) = some (.text s) := by
  rw [evaluate]

theorem evaluate_call₁ (h : db.evaluate row e = some v) (f : String) :
    db.evaluate row (.call f [e]) = db.call f [v] := by
  rw [evaluate, evaluateAll, evaluateAll, h]
  rfl

theorem evaluate_call₂ (h : db.evaluate row e = some v) (h' : db.evaluate row e' = some v')
    (f : String) : db.evaluate row (.call f [e, e']) = db.call f [v, v'] := by
  rw [evaluate, evaluateAll, evaluateAll, evaluateAll, h, h']
  rfl

theorem evaluate_call₃ {e'' : Expr} {v'' : Datum} (h : db.evaluate row e = some v)
    (h' : db.evaluate row e' = some v') (h'' : db.evaluate row e'' = some v'') (f : String) :
    db.evaluate row (.call f [e, e', e'']) = db.call f [v, v', v''] := by
  rw [evaluate, evaluateAll, evaluateAll, evaluateAll, evaluateAll, h, h', h'']
  rfl

theorem evaluate_cast (h : db.evaluate row e = some v) (type : DataType) :
    db.evaluate row (.cast e type) = db.cast v type := by
  rw [evaluate, h]
  rfl

theorem evaluate_extract (h : db.evaluate row e = some v) (part : String) :
    db.evaluate row (.extract part e) = db.extract part v := by
  rw [evaluate, h]
  rfl

theorem evaluate_paren (h : db.evaluate row e = some v) :
    db.evaluate row (.paren e) = some v := by
  rw [evaluate, h]

theorem evaluate_binary (h : db.evaluate row e = some v) (h' : db.evaluate row e' = some v')
    (op : Operator) : db.evaluate row (.binary op e e') = db.operate op v v' := by
  rw [evaluate, h, h']
  rfl

end

end Database

end SqlDialect
