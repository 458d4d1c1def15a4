/-
  SqlDialect.Sql.Render
  ────────────────────────────────
  **EXPRESSIONS AS TEXT.**

  An expression is written with single gaps around operators and after
  commas.  Parentheses stand where the expression has them and nowhere
  else, so a builder puts them where precedence asks for them.

  A part of a date has one full name and several abbreviations, which are
  read in any case.  A part that is no abbreviation is left as it is.
-/
import SqlDialect.Text.Casing
import SqlDialect.Sql.Lexeme

namespace SqlDialect.Sql.DatePart

open SqlDialect.Text

/-! ## §1. Parts of dates. -/

/-- The full names, each with its abbreviations. -/
def abbreviations : List (String × List String) := [
  ("YEAR", ["Y", "YY", "YYY", "YYYY", "YR", "YEARS", "YRS"]),
  ("MONTH", ["MM", "MON", "MONS", "MONTHS"]),
  ("DAY", ["D", "DD", "DAYS", "DAYOFMONTH"]),
  ("DAYOFWEEK", ["DAY OF WEEK", "DOW", "DW"]),
  ("DAYOFWEEKISO", ["WEEKDAY_ISO", "DOW_ISO", "DW_ISO", "DAYOFWEEK_ISO"]),
  ("ISODOW", ["DAYOFWEEKISO"]),
  ("DAYOFYEAR", ["DAY OF YEAR", "DOY", "DY"]),
  ("WEEK", ["W", "WK", "WEEKOFYEAR", "WOY", "WY"]),
  ("WEEKISO", ["WEEK_ISO", "WEEKOFYEARISO", "WEEKOFYEAR_ISO"]),
  ("QUARTER", ["Q", "QTR", "QTRS", "QUARTERS"]),
  ("HOUR", ["H", "HH", "HR", "HOURS", "HRS"]),
  ("MINUTE", ["M", "MI", "MIN", "MINUTES", "MINS"]),
  ("SECOND", ["S", "SEC", "SECONDS", "SECS"]),
  ("MILLISECOND", ["MS", "MSEC", "MSECS", "MSECOND", "MSECONDS", "MILLISEC", "MILLISECS",
    "MILLISECON", "MILLISECONDS"]),
  ("MICROSECOND", ["US", "USEC", "USECS", "MICROSEC", "MICROSECS", "USECOND", "USECONDS",
    "MICROSECONDS"]),
  ("NANOSECOND", ["NS", "NSEC", "NANOSEC", "NSECOND", "NSECONDS", "NANOSECS"]),
  ("EPOCH", ["EPOCH_SECOND", "EPOCH_SECONDS"]),
  ("EPOCH_MILLISECOND", ["EPOCH_MILLISECONDS"]),
  ("EPOCH_MICROSECOND", ["EPOCH_MICROSECONDS"]),
  ("EPOCH_NANOSECOND", ["EPOCH_NANOSECONDS"]),
  ("TIMEZONE_HOUR", ["TZH"]),
  ("TIMEZONE_MINUTE", ["TZM"]),
  ("DECADE", ["DEC", "DECS", "DECADES"]),
  ("MILLENNIUM", ["MIL", "MILS", "MILLENIA"]),
  ("CENTURY", ["C", "CENT", "CENTS", "CENTURIES"])]

/-- The full name that an abbreviation stands for. -/
def fullName? (part : String) : Option String :=
  let word := String.ofList (upper part.toList)
  (abbreviations.find? fun e => e.2.contains word).map (·.1)

/-- The full name of a part, or the part itself. -/
def canonical (part : String) : String :=
  (fullName? part).getD part

/-- A part that is no abbreviation is left as it is. -/
theorem canonical_of_fullName?_eq_none {part : String} (h : fullName? part = none) :
    canonical part = part := by
  simp [canonical, h]

end SqlDialect.Sql.DatePart

namespace SqlDialect.Sql

open SqlDialect.Text

/-! ## §2. Names and types. -/

/-- The lexeme of a name. -/
def Name.lexeme (d : Dialect) (n : Name) : Lexeme :=
  if n.needsQuotes d then .quotedName n.text else .word n.text

/-- The lexeme of a name is spelled as the name is rendered. -/
theorem spell_lexeme (d : Dialect) (n : Name) :
    (n.lexeme d).spell d.quoteStyle = n.render d := by
  unfold Name.lexeme Name.render
  split <;> rfl

/-- The names of a path with a dot after each. -/
def pathLexemes (d : Dialect) : List Name → List Lexeme
  | [] => []
  | n :: rest => n.lexeme d :: .mark .dot :: pathLexemes d rest

/-- The words of a type name and its arguments in parentheses. -/
def DataType.lexemes (d : Dialect) (t : DataType) : List Lexeme :=
  .word (t.name.render d) ::
    if t.arguments.isEmpty then []
    else .mark .openParen :: arguments t.arguments ++ [.mark .closeParen]
where
  arguments : List String → List Lexeme
    | [] => []
    | [a] => [.number a]
    | a :: b :: rest => .number a :: .mark .comma :: .gap :: arguments (b :: rest)

/-- The field of a date as the dialect calls it. -/
def partText (d : Dialect) (part : String) : String :=
  match d.system with
  | .duckdb => DatePart.canonical part
  | _ => part

/-! ## §3. Expressions. -/

namespace Expr

/-- A text starts with a minus sign. -/
def startsWithMinus (style : QuoteStyle) (ls : List Lexeme) : Bool :=
  (spellAll style ls).head? == some '-'

mutual

/-- The lexemes of an expression. -/
def lexemes (d : Dialect) : Expr → List Lexeme
  | .column path n => pathLexemes d path ++ [n.lexeme d]
  | .text s => [.text s]
  | .number n => [.number n]
  | .raw s => [.fragment s]
  | .call f args =>
      .word (String.ofList (upper f.toList)) :: .mark .openParen
        :: argumentLexemes d args ++ [.mark .closeParen]
  | .cast e t =>
      .word "CAST" :: .mark .openParen :: lexemes d e
        ++ [.gap, .word "AS", .gap] ++ t.lexemes d ++ [.mark .closeParen]
  | .extract part e =>
      [.word "EXTRACT", .mark .openParen, .fragment (partText d part), .gap, .word "FROM", .gap]
        ++ lexemes d e ++ [.mark .closeParen]
  | .paren e => .mark .openParen :: lexemes d e ++ [.mark .closeParen]
  | .tuple es => .mark .openParen :: argumentLexemes d es ++ [.mark .closeParen]
  | .neg e =>
      let ls := lexemes d e
      .mark (.op .sub) :: if startsWithMinus d.quoteStyle ls then .gap :: ls else ls
  | .binary op a b => lexemes d a ++ [.gap, .mark (.op op), .gap] ++ lexemes d b

/-- The lexemes of arguments with commas between them. -/
def argumentLexemes (d : Dialect) : List Expr → List Lexeme
  | [] => []
  | [e] => lexemes d e
  | e :: f :: rest => lexemes d e ++ [.mark .comma, .gap] ++ argumentLexemes d (f :: rest)

end

/-- The text of an expression. -/
def renderChars (d : Dialect) (e : Expr) : List Char :=
  spellAll d.quoteStyle (e.lexemes d)

/-- The text of an expression, without white space at its ends. -/
def render (d : Dialect) (e : Expr) : String :=
  String.ofList (trim (e.renderChars d))

/-- A fragment is written as it is. -/
@[simp] theorem renderChars_raw (d : Dialect) (s : String) :
    (Expr.raw s).renderChars d = s.toList := by
  simp [renderChars, lexemes, spellAll, Lexeme.spell]

/-- The operands of an operator are written as they are. -/
theorem renderChars_binary (d : Dialect) (op : Operator) (a b : Expr) :
    (Expr.binary op a b).renderChars d
      = a.renderChars d ++ ' ' :: op.spell ++ ' ' :: b.renderChars d := by
  simp [renderChars, lexemes, spellAll, Lexeme.spell, Mark.spell]

end Expr

end SqlDialect.Sql
