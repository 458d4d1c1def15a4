/-
  SqlDialect.Toml.Text
  ────────────────────────────────
  **TEXTS OF A DOCUMENT.**

  Texts stand in double quotes, where a backslash starts an escape, or in
  single quotes, where nothing does.  Three quotes on either side let a
  text run over lines.  Texts are written in double quotes on one line.
-/
import SqlDialect.Text.Quote

namespace SqlDialect.Toml

open SqlDialect.Text

/-! ## §1. Characters. -/

/-- A blank inside a line. -/
def isInlineBlank (c : Char) : Bool := c == ' ' || c == '\t'

/-- A control character that may not stand in a line. -/
def isControl (c : Char) : Bool := (c.toNat < 0x20 && c != '\t') || c.toNat == 0x7f

/-- The character that a backslash and a letter stand for. -/
def escape? : Char → Option Char
  | 'b' => some '\x08'
  | 't' => some '\t'
  | 'n' => some '\n'
  | 'f' => some '\x0c'
  | 'r' => some '\r'
  | '"' => some '"'
  | '\\' => some '\\'
  | _ => none

/-- The value of a hexadecimal digit. -/
def hexDigit? (c : Char) : Option Nat :=
  if '0' ≤ c ∧ c ≤ '9' then some (c.toNat - '0'.toNat)
  else if 'a' ≤ c ∧ c ≤ 'f' then some (c.toNat - 'a'.toNat + 10)
  else if 'A' ≤ c ∧ c ≤ 'F' then some (c.toNat - 'A'.toNat + 10)
  else none

/-- The character with the code point in hexadecimal. -/
def codePoint? (digits : List Char) : Option Char := do
  let ds ← digits.mapM hexDigit?
  let n := ds.foldl (fun n d => 16 * n + d) 0
  if h : n.isValidChar then some ⟨n.toUInt32, by
    have hs : n < UInt32.size := by
      rcases h with h | h <;> simp only [UInt32.size] <;> omega
    simpa [UInt32.isValidChar, Nat.toUInt32, UInt32.toNat_ofNat_of_lt' hs] using h⟩
  else none

/-! ## §2. Reading. -/

/-- A text in double quotes, after the first one. -/
def takeBasic? : List Char → Option (List Char × List Char)
  | [] => none
  | '"' :: rest => some ([], rest)
  | '\\' :: 'u' :: a :: b :: c :: d :: rest => do
      let x ← codePoint? [a, b, c, d]
      let (s, rest) ← takeBasic? rest
      return (x :: s, rest)
  | '\\' :: 'U' :: a :: b :: c :: d :: e :: f :: g :: h :: rest => do
      let x ← codePoint? [a, b, c, d, e, f, g, h]
      let (s, rest) ← takeBasic? rest
      return (x :: s, rest)
  | '\\' :: c :: rest => do
      let x ← escape? c
      let (s, rest) ← takeBasic? rest
      return (x :: s, rest)
  | c :: rest =>
      if c = '\\' ∨ isControl c then none
      else (takeBasic? rest).map fun r => (c :: r.1, r.2)

/-- A text in single quotes, after the first one. -/
def takeLiteral? : List Char → Option (List Char × List Char)
  | [] => none
  | c :: rest =>
      if c = '\'' then some ([], rest)
      else if isControl c then none
      else (takeLiteral? rest).map fun r => (c :: r.1, r.2)

/-- Where a backslash at the end of a line leads: past the blanks and line
ends that follow, if only blanks stand before the first line end. -/
def joinLines? (s : List Char) : Option (List Char) :=
  match s.dropWhile isInlineBlank with
  | '\n' :: rest => some (rest.dropWhile fun c => isInlineBlank c || c == '\n')
  | _ => none

/-- A text over lines in double quotes, up to the three quotes that end it. -/
def takeBasicLines? : Nat → List Char → Option (List Char × List Char)
  | 0, _ => none
  | bound + 1, s =>
      match s with
      | [] => none
      | '"' :: '"' :: '"' :: rest => some ([], rest)
      | '\\' :: 'u' :: a :: b :: c :: d :: rest => do
          let x ← codePoint? [a, b, c, d]
          let (t, rest) ← takeBasicLines? bound rest
          return (x :: t, rest)
      | '\\' :: 'U' :: a :: b :: c :: d :: e :: f :: g :: h :: rest => do
          let x ← codePoint? [a, b, c, d, e, f, g, h]
          let (t, rest) ← takeBasicLines? bound rest
          return (x :: t, rest)
      | '\\' :: c :: rest =>
          if isInlineBlank c ∨ c = '\n' then do takeBasicLines? bound (← joinLines? (c :: rest))
          else do
            let x ← escape? c
            let (t, rest) ← takeBasicLines? bound rest
            return (x :: t, rest)
      | c :: rest =>
          if c = '\\' ∨ (isControl c ∧ c ≠ '\n') then none
          else (takeBasicLines? bound rest).map fun r => (c :: r.1, r.2)

/-- A text over lines in single quotes, up to the three quotes that end it. -/
def takeLiteralLines? : List Char → Option (List Char × List Char)
  | [] => none
  | '\'' :: '\'' :: '\'' :: rest => some ([], rest)
  | c :: rest =>
      if isControl c ∧ c ≠ '\n' then none
      else (takeLiteralLines? rest).map fun r => (c :: r.1, r.2)

/-- Up to two more quotes right behind the end belong to the text. -/
def withFinalQuotes (quote : Char) (r : List Char × List Char) : List Char × List Char :=
  let extra := (r.2.takeWhile (· == quote)).take 2
  (r.1 ++ extra, r.2.drop extra.length)

/-- The text without a line end at its start. -/
def dropFirstLineEnd : List Char → List Char
  | '\n' :: rest => rest
  | s => s

/-- A text in quotes of any kind, over lines or not. -/
def takeText? : List Char → Option (List Char × List Char)
  | '"' :: '"' :: '"' :: rest =>
      let s := dropFirstLineEnd rest
      (takeBasicLines? (s.length + 1) s).map (withFinalQuotes '"')
  | '\'' :: '\'' :: '\'' :: rest =>
      (takeLiteralLines? (dropFirstLineEnd rest)).map (withFinalQuotes '\'')
  | '"' :: rest => takeBasic? rest
  | '\'' :: rest => takeLiteral? rest
  | _ => none

/-! ## §3. Writing. -/

/-- A control character by its code point. -/
def controlEscape (c : Char) : List Char :=
  '\\' :: 'u' :: (hexText 4 c.toNat).map Char.toUpper

/-- A character of a text as it is written. -/
def writtenChar (c : Char) : List Char :=
  match c with
  | '\\' => ['\\', '\\']
  | '"' => ['\\', '"']
  | '\x08' => ['\\', 'b']
  | '\t' => ['\\', 't']
  | '\n' => ['\\', 'n']
  | '\x0c' => ['\\', 'f']
  | '\r' => ['\\', 'r']
  | c => if isControl c then controlEscape c else [c]

/-- A text as it is written. -/
def writtenText (s : List Char) : List Char :=
  '"' :: s.flatMap writtenChar ++ ['"']

end SqlDialect.Toml
