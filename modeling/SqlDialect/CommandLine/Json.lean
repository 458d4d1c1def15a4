/-
  SqlDialect.CommandLine.Json
  ────────────────────────────────
  **JSON OUTPUT.**

  Objects keep the order of their entries.  Every entry stands on a line of
  its own, two spaces deeper than its brackets, and texts are written in
  ASCII alone.
-/
import SqlDialect.Text.Quote
import SqlDialect.Text.Segment
import SqlDialect.Value.Text

namespace SqlDialect.CommandLine

open SqlDialect.Text SqlDialect.Number

/-- A value to print. -/
inductive Json where
  | null
  | bool (b : Bool)
  | int (n : Int)
  | text (s : String)
  | list (items : List Json)
  | object (entries : List (String × Json))
  deriving Repr, Inhabited

namespace Json

/-! ## §1. Texts. -/

/-- A code unit of sixteen bits in hexadecimal. -/
def unitEscape (n : Nat) : List Char := '\\' :: 'u' :: hexText 4 n

/-- A character by its code units: one, or two beyond the first 65536. -/
def codeEscape (c : Char) : List Char :=
  let n := c.toNat
  if n < 0x10000 then unitEscape n
  else
    unitEscape (0xd800 + (n - 0x10000) / 0x400) ++ unitEscape (0xdc00 + (n - 0x10000) % 0x400)

/-- A character of a text. -/
def textChar (c : Char) : List Char :=
  match c with
  | '"' => ['\\', '"']
  | '\\' => ['\\', '\\']
  | '\n' => ['\\', 'n']
  | '\r' => ['\\', 'r']
  | '\t' => ['\\', 't']
  | '\x08' => ['\\', 'b']
  | '\x0c' => ['\\', 'f']
  | c => if 0x20 ≤ c.toNat ∧ c.toNat < 0x7f then [c] else codeEscape c

/-- A text in double quotes. -/
def quotedText (s : String) : List Char :=
  '"' :: s.toList.flatMap textChar ++ ['"']

/-! ## §2. Values. -/

/-- A new line at a depth. -/
def lineBreak (depth : Nat) : List Char :=
  '\n' :: List.replicate (2 * depth) ' '

/-- Items between brackets, one a line. -/
def bracketed (first last : Char) (depth : Nat) (items : List (List Char)) : List Char :=
  if items.isEmpty then [first, last]
  else first :: lineBreak (depth + 1) ++ join (',' :: lineBreak (depth + 1)) items
    ++ lineBreak depth ++ [last]

mutual

/-- A value at a depth. -/
def renderAt (depth : Nat) : Json → List Char
  | .null => "null".toList
  | .bool b => (if b then "true" else "false").toList
  | .int n => intText n
  | .text s => quotedText s
  | .list items => bracketed '[' ']' depth (renderItems (depth + 1) items)
  | .object entries => bracketed '{' '}' depth (renderEntries (depth + 1) entries)

/-- The items of a list. -/
def renderItems (depth : Nat) : List Json → List (List Char)
  | [] => []
  | v :: rest => renderAt depth v :: renderItems depth rest

/-- The entries of an object. -/
def renderEntries (depth : Nat) : List (String × Json) → List (List Char)
  | [] => []
  | (k, v) :: rest =>
      (quotedText k ++ ':' :: ' ' :: renderAt depth v) :: renderEntries depth rest

end

/-- A value on lines of its own. -/
def render (v : Json) : String := String.ofList (renderAt 0 v)

/-- The text, or null. -/
def ofText? (s : Option String) : Json := (s.map .text).getD .null

/-- A value of unknown kind: simple ones as they are, others by their text. -/
def ofValue (v : Value) : Json :=
  match v with
  | .null => .null
  | .bool b => .bool b
  | .int n => .int n
  | v => .text v.shown

end Json

end SqlDialect.CommandLine
