/-
  SqlDialect.Text.Quote
  ────────────────────────────────
  **TEXTS BETWEEN QUOTES.**

  A delimited text ends at its closing delimiter; a closing delimiter that
  belongs to the text is written twice.  `scan` reads a written text back:

      scan q (encode q s ++ q :: rest) = some (s, rest)

  whenever `rest` does not start with another `q`.  A text that is shown
  stands in single quotes, or in double quotes when it holds a single and no
  double one.  There the backslash, the quote in use and every character that
  does not show as itself are escaped.
-/
import SqlDialect.Text.Class

namespace SqlDialect.Text.Delimited

/-! ## §1. Delimited texts. -/

/-- Write each closing delimiter twice. -/
def encode (close : Char) : List Char → List Char
  | [] => []
  | c :: rest => if c = close then c :: c :: encode close rest else c :: encode close rest

/-- A text between its delimiters. -/
def enclose (first close : Char) (s : List Char) : List Char :=
  first :: encode close s ++ [close]

/-- Read up to the first closing delimiter that stands alone: the text
before it and what follows it. -/
def scan (close : Char) : List Char → Option (List Char × List Char)
  | [] => none
  | [c] => if c = close then some ([], []) else none
  | c :: d :: rest =>
      if c = close then
        if d = close then (scan close rest).map fun r => (c :: r.1, r.2)
        else some ([], d :: rest)
      else (scan close (d :: rest)).map fun r => (c :: r.1, r.2)

end SqlDialect.Text.Delimited

namespace SqlDialect.Text

/-! ## §2. Shown texts. -/

/-- A number in hexadecimal with zeros in front, up to the given width. -/
def hexText (width n : Nat) : List Char :=
  let ds := Nat.toDigits 16 n
  List.replicate (width - ds.length) '0' ++ ds

/-- A character by its code point. -/
def escapedCode (c : Char) : List Char :=
  let n := c.toNat
  if n < 0x100 then '\\' :: 'x' :: hexText 2 n
  else if n < 0x10000 then '\\' :: 'u' :: hexText 4 n
  else '\\' :: 'U' :: hexText 8 n

/-- A character between the given quotes. -/
def quotedChar (quote c : Char) : List Char :=
  if c = quote ∨ c = '\\' then ['\\', c]
  else if c = '\n' then ['\\', 'n']
  else if c = '\r' then ['\\', 'r']
  else if c = '\t' then ['\\', 't']
  else if isVisible c then [c]
  else escapedCode c

/-- The quote that a text is shown in. -/
def quoteFor (s : List Char) : Char :=
  if s.contains '\'' && !s.contains '"' then '"' else '\''

/-- A text in quotes. -/
def quoted (s : List Char) : List Char :=
  let q := quoteFor s
  q :: s.flatMap (quotedChar q) ++ [q]

/-- A text in quotes with every character beyond ASCII by its code point. -/
def quotedAscii (s : List Char) : List Char :=
  (quoted s).flatMap fun c => if c.toNat < 128 then [c] else escapedCode c

end SqlDialect.Text
