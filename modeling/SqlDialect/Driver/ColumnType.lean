/-
  SqlDialect.Driver.ColumnType
  ────────────────────────────────
  **COLUMN TYPES.**

  A native type name is normalised to a key: trimmed, in upper case,
  without a final UNSIGNED and without a final argument in parentheses.
  The driver's table gives the semantic type of a key.
-/
import SqlDialect.Driver.Basic
import SqlDialect.Text.Quote
import SqlDialect.Text.Segment

namespace SqlDialect

open SqlDialect.Text

namespace ColumnType

/-! ## §1. Normal form. -/

/-- The text without a final word UNSIGNED and the blanks before it. -/
def dropUnsigned (s : List Char) : List Char :=
  match dropFront? "UNSIGNED".toList.reverse s.reverse with
  | some (c :: rest) => if isBlank c then (rest.dropWhile isBlank).reverse else s
  | _ => s

/-- The text without a final argument in parentheses and the blanks before
it.  The argument holds no closing parenthesis and starts as early as it can. -/
def dropArgument (s : List Char) : List Char :=
  match s.reverse with
  | ')' :: rest =>
      let before := (rest.dropWhile (· != ')')).reverse
      let inner := (rest.takeWhile (· != ')')).reverse
      match cut? '(' inner with
      | some (front, _) => dropEndWhile isBlank (before ++ front)
      | none => s
  | _ => s

/-- The key of a native type name. -/
def normalize (native : String) : String :=
  String.ofList (dropArgument (dropUnsigned (upper (trim native.toList))))

end ColumnType

/-! ## §2. Semantic types. -/

namespace Driver

/-- The semantic type of a native type name; unknown types are logged. -/
def semanticType (d : Driver) (native : String) : SemanticType × List LogRecord :=
  match d.columnTypes.get? (ColumnType.normalize native) with
  | some t => (t, [])
  | none =>
      (.unknown, [⟨.debug, driverLogger, d.name ++ ": unmapped column type "
        ++ String.ofList (quoted native.toList)⟩])

/-- A type in the table is logged nowhere. -/
theorem semanticType_of_get? {d : Driver} {native : String} {t : SemanticType}
    (h : d.columnTypes.get? (ColumnType.normalize native) = some t) :
    d.semanticType native = (t, []) := by
  simp [semanticType, h]

end Driver

end SqlDialect
