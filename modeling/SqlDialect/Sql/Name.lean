/-
  SqlDialect.Sql.Name
  ────────────────────────────────
  **NAMES AND THEIR QUOTES.**

  A plain name (an ASCII letter or underscore, then word characters) may
  stand bare.  Every other name, a word that the dialect reserves and a name
  that starts with a digit of any kind stands between the quotes of the
  dialect, with the closing quote doubled inside.
-/
import SqlDialect.Text.Quote
import SqlDialect.Text.Class
import SqlDialect.Text.Word
import SqlDialect.Text.Casing

namespace SqlDialect.Sql

open SqlDialect.Text

/-! ## §1. Dialects. -/

/-- How a dialect writes names that need quotes. -/
inductive QuoteStyle where
  | ansi | mysql | sqlserver
  deriving Repr, DecidableEq

/-- The quotes around a name. -/
def QuoteStyle.quotes : QuoteStyle → Char × Char
  | .ansi => ('"', '"')
  | .mysql => (Char.ofNat 0x60, Char.ofNat 0x60)
  | .sqlserver => ('[', ']')

/-- The systems whose SQL is written. -/
inductive SqlSystem where
  | standard | duckdb | mysql | sqlserver
  deriving Repr, DecidableEq

namespace SqlSystem

/-- How a system quotes names. -/
def quoteStyle : SqlSystem → QuoteStyle
  | .standard | .duckdb => .ansi
  | .mysql => .mysql
  | .sqlserver => .sqlserver

/-- The short name of a system; the standard has none. -/
def label? : SqlSystem → Option String
  | .standard => none
  | .duckdb => some "duckdb"
  | .mysql => some "mysql"
  | .sqlserver => some "tsql"

end SqlSystem

/-- The words that a dialect treats specially. -/
structure SpecialWords where
  /-- Names that are written in quotes, in lower case. -/
  reserved : List String := []
  /-- Words that stand for no name when they are read bare, in upper case. -/
  keywords : List String := []
  deriving Repr, DecidableEq

/-- A few common names of columns that are reserved.  A library of SQL has
lists of its own. -/
def SqlSystem.commonWords : SqlSystem → SpecialWords
  | .duckdb => { reserved := ["order", "select", "table", "user", "end"] }
  | .mysql => { reserved := ["order", "select", "table"] }
  | .standard | .sqlserver => {}

/-- What expressions are rendered and read in. -/
structure Dialect where
  system : SqlSystem
  words : SpecialWords
  deriving Repr, DecidableEq

namespace Dialect

/-- The dialect of a system with the common words. -/
def ofSystem (s : SqlSystem) : Dialect := ⟨s, s.commonWords⟩

def standard : Dialect := ofSystem .standard
def duckdb : Dialect := ofSystem .duckdb
def mysql : Dialect := ofSystem .mysql
def sqlserver : Dialect := ofSystem .sqlserver

/-- The dialect that writes names in the given style. -/
def ofQuoteStyle : QuoteStyle → Dialect
  | .ansi => .standard
  | .mysql => .mysql
  | .sqlserver => .sqlserver

/-- How the dialect quotes names. -/
def quoteStyle (d : Dialect) : QuoteStyle := d.system.quoteStyle

/-- The dialect with the given words in the place of its own. -/
def withWords (d : Dialect) (words : SpecialWords) : Dialect := { d with words }

end Dialect

/-- A style belongs to the dialect that is chosen for it. -/
@[simp] theorem quoteStyle_ofQuoteStyle (s : QuoteStyle) :
    (Dialect.ofQuoteStyle s).quoteStyle = s := by
  cases s <;> rfl

/-! ## §2. Names. -/

/-- Word characters; the last character may also be a newline. -/
def areWords : List Char → Bool
  | [] | ['\n'] => true
  | c :: rest => isWord c && areWords rest

/-- An ASCII letter or an underscore, then word characters. -/
def isPlainName : List Char → Bool
  | [] => false
  | c :: rest => (c.isAlpha || c == '_') && areWords rest

/-- A name starts with a digit of any kind. -/
def startsWithDigit : List Char → Bool
  | [] => false
  | c :: _ => isDigitSign c

/-- A name of a column or table. -/
structure Name where
  text : String
  /-- The name is always written in quotes. -/
  isQuoted : Bool
  deriving Repr, DecidableEq

namespace Name

/-- The name with the given text, in quotes unless it is plain. -/
def ofText (s : String) : Name :=
  ⟨s, !isPlainName s.toList⟩

/-- A text between the quotes of a style. -/
def quote (style : QuoteStyle) (s : List Char) : List Char :=
  Delimited.enclose style.quotes.1 style.quotes.2 s

/-- The dialect writes the name in quotes. -/
def needsQuotes (d : Dialect) (n : Name) : Bool :=
  n.isQuoted || startsWithDigit n.text.toList
    || d.words.reserved.contains (String.ofList (lower n.text.toList))

/-- The name as the dialect writes it. -/
def render (d : Dialect) (n : Name) : List Char :=
  if n.needsQuotes d then quote d.quoteStyle n.text.toList else n.text.toList

end Name

end SqlDialect.Sql
