/-
  SqlDialect.Sql.Expr
  ────────────────────────────────
  **SQL EXPRESSIONS.**

  The expressions that drivers compose.  Only a verbatim fragment carries
  free text; everything else is built from names, literals and operators.
-/
import SqlDialect.Sql.DataType
import SqlDialect.Value.Text

namespace SqlDialect.Sql

open SqlDialect.Text SqlDialect.Number

/-! ## §1. Operators. -/

/-- The binary operators. -/
inductive Operator where
  | concat | add | sub | mul | div
  deriving Repr, DecidableEq

/-- How tightly an operator binds: concatenation least, then sums, then products. -/
def Operator.level : Operator → Nat
  | .concat => 0
  | .add | .sub => 1
  | .mul | .div => 2

/-! ## §2. Expressions. -/

/-- A SQL expression. -/
inductive Expr where
  /-- A column, with the names that lead to it in front. -/
  | column (path : List Name) (name : Name)
  /-- A text literal. -/
  | text (s : String)
  /-- An unsigned number as it is written. -/
  | number (digits : String)
  /-- A fragment that is written as it is. -/
  | raw (fragment : String)
  | call (function : String) (arguments : List Expr)
  | cast (e : Expr) (type : DataType)
  /-- A field of a date or time. -/
  | extract (part : String) (e : Expr)
  | paren (e : Expr)
  /-- No expression or several ones in parentheses. -/
  | tuple (items : List Expr)
  | neg (e : Expr)
  | binary (op : Operator) (left right : Expr)
  deriving Repr, Inhabited

namespace Expr

/-- The column with the given name. -/
def col (name : String) : Expr := .column [] (.ofText name)

def add (a b : Expr) : Expr := .binary .add a b
def sub (a b : Expr) : Expr := .binary .sub a b
def mul (a b : Expr) : Expr := .binary .mul a b
def div (a b : Expr) : Expr := .binary .div a b

/-- An interval of one second. -/
def oneSecond : Expr := .raw "INTERVAL '1' SECOND"

/-- The operands concatenated from the left. -/
def concat (first : Expr) (rest : List Expr) : Expr :=
  rest.foldl (.binary .concat) first

/-- The number with the given decimal digits. -/
def ofNat (n : Nat) : Expr :=
  .number (String.ofList (natText n))

/-- The number that a value shows as; the sign of a negative one stands
before its magnitude. -/
def ofNumber (v : Value) : Expr :=
  let s := v.shownChars
  match readInt? s with
  | some n =>
      if n < 0 then .neg (ofNat n.natAbs) else .number (String.ofList s)
  | none => match (Decimal.read? s).filter (·.isNegative) >>= Decimal.abs? with
    | some d => .neg (.number (String.ofList d.text))
    | none => .number (String.ofList s)

/-! ## §3. Expressions that may not exist. -/

/-- Why an expression cannot be built. -/
inductive BuildError where
  /-- There is nothing to concatenate. -/
  | noParts
  | unknownType (name : String)
  deriving Repr, DecidableEq

/-- What to say about an expression that cannot be built. -/
def BuildError.message : BuildError → String
  | .noParts => "concat() needs at least one part"
  | .unknownType name => "unknown type " ++ name

/-- The parts concatenated from the left. -/
def ofParts : List Expr → Except BuildError Expr
  | [] => .error .noParts
  | first :: rest => .ok (concat first rest)

/-- The cast to the type with the given name. -/
def castTo (e : Expr) (type : String) : Except BuildError Expr :=
  match DataType.read? type with
  | some t => .ok (.cast e t)
  | none => .error (.unknownType type)

end Expr

end SqlDialect.Sql
