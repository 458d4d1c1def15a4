/-
  SqlDialect.Sql.Lexeme
  ────────────────────────────────
  **THE LEXEMES OF SQL TEXT.**

  The smallest pieces of an expression's text: words, numbers, quoted names,
  text literals, marks, and the gaps between them.
-/
import SqlDialect.Sql.Expr

namespace SqlDialect.Sql

open SqlDialect.Text

/-! ## §1. Lexemes. -/

/-- Marks of punctuation, the operators among them. -/
inductive Mark where
  | openParen | closeParen | comma | dot
  | op (o : Operator)
  deriving Repr, DecidableEq

/-- A piece of SQL text. -/
inductive Lexeme where
  | word (s : String)
  | number (s : String)
  | quotedName (s : String)
  | text (s : String)
  | mark (m : Mark)
  | fragment (s : String)
  | gap
  deriving Repr, DecidableEq

/-! ## §2. Spelling. -/

/-- The text of an operator. -/
def Operator.spell : Operator → List Char
  | .concat => ['|', '|']
  | .add => ['+']
  | .sub => ['-']
  | .mul => ['*']
  | .div => ['/']

/-- The text of a mark. -/
def Mark.spell : Mark → List Char
  | .openParen => ['(']
  | .closeParen => [')']
  | .comma => [',']
  | .dot => ['.']
  | .op o => o.spell

/-- The text of a text literal. -/
def textLiteral (s : List Char) : List Char :=
  Delimited.enclose '\'' '\'' s

/-- The text of a lexeme, with names in the given quotes. -/
def Lexeme.spell (style : QuoteStyle) : Lexeme → List Char
  | .word s | .number s | .fragment s => s.toList
  | .quotedName s => Name.quote style s.toList
  | .text s => textLiteral s.toList
  | .mark m => m.spell
  | .gap => [' ']

/-- The text of lexemes. -/
def spellAll (style : QuoteStyle) (ls : List Lexeme) : List Char :=
  ls.flatMap (·.spell style)

@[simp] theorem spellAll_append (style : QuoteStyle) (ls ms : List Lexeme) :
    spellAll style (ls ++ ms) = spellAll style ls ++ spellAll style ms := by
  simp [spellAll]

/-! ## §3. Scanning. -/

/-- Why a text has no expression. -/
inductive ReadFault where
  /-- A text literal or quoted name does not end. -/
  | unterminated
  /-- The lexemes do not make an expression. -/
  | malformed
  deriving Repr, DecidableEq

/-- What a number has had so far. -/
structure NumberState where
  point : Bool := false
  exponent : Bool := false
  /-- The sign that may follow the exponent mark, at once or after digits. -/
  sign : Bool := false

/-- The state after one more character of a number, if it belongs to it. -/
def NumberState.next? (n : NumberState) (c : Char) (rest : List Char) : Option NumberState :=
  if c.isDigit then some n
  else if c = '.' && !n.point then some { n with point := true }
  else if (c = '+' || c = '-') && n.exponent && !n.sign && (rest.head?.any Char.isDigit) then
    some { n with sign := true }
  else if (c = 'e' || c = 'E') && !n.exponent then some { n with exponent := true }
  else none

/-- A number at the front: digits with at most one point, one exponent mark
and behind it one sign before a digit. -/
def takeNumber (n : NumberState) : List Char → List Char × List Char
  | [] => ([], [])
  | c :: rest => match n.next? c rest with
    | some n =>
        let (taken, rest) := takeNumber n rest
        (c :: taken, rest)
    | none => ([], c :: rest)

/-- The characters that end a word, white space apart. -/
def wordEnds : List Char :=
  ['(', ')', '[', ']', '\x7b', '\x7d', '&', '^', ':', ',', '-', '.', '=', '>', '<', '%', '!', '|',
    '+', ';', '/', '\\', '*', '~', '?', '@', '#', '\'', '"', Char.ofNat 0x60]

/-- A character may stand in a bare word. -/
def isInWord (c : Char) : Bool :=
  !isBlank c && !wordEnds.contains c

/-- The mark that a text starts with. -/
def takeMark? : List Char → Option (Mark × List Char)
  | '(' :: rest => some (.openParen, rest)
  | ')' :: rest => some (.closeParen, rest)
  | ',' :: rest => some (.comma, rest)
  | '.' :: rest => some (.dot, rest)
  | '+' :: rest => some (.op .add, rest)
  | '-' :: rest => some (.op .sub, rest)
  | '*' :: rest => some (.op .mul, rest)
  | '/' :: rest => some (.op .div, rest)
  | '|' :: '|' :: rest => some (.op .concat, rest)
  | _ => none

/-- The lexeme that a text without leading blanks starts with. -/
def takeLexeme (s : List Char) : Except ReadFault (Lexeme × List Char) :=
  match s with
  | [] => .error .malformed
  | '\'' :: rest => match Delimited.scan '\'' rest with
    | some (t, rest) => .ok (.text (String.ofList t), rest)
    | none => .error .unterminated
  | '"' :: rest => match Delimited.scan '"' rest with
    | some (t, rest) => .ok (.quotedName (String.ofList t), rest)
    | none => .error .unterminated
  | c :: _ =>
      if c.isDigit then
        let (n, rest) := takeNumber {} s
        .ok (.number (String.ofList n), rest)
      else if isInWord c then
        .ok (.word (String.ofList (s.takeWhile isInWord)), s.dropWhile isInWord)
      else match takeMark? s with
        | some (m, rest) => .ok (.mark m, rest)
        | none => .error .malformed

/-- The lexemes of a text without the gaps; the bound is the number of
lexemes that are read at most. -/
def scanUpTo : Nat → List Char → Except ReadFault (List Lexeme)
  | 0, _ => .ok []
  | bound + 1, s => do
      let s := s.dropWhile isBlank
      if s.isEmpty then return []
      match takeLexeme s with
      | .ok (l, rest) => return l :: (← scanUpTo bound rest)
      | .error .unterminated => throw .unterminated
      -- quotes that do not end further on are the fault that counts
      | .error .malformed => do
          let _ ← scanUpTo bound s.tail
          throw .malformed

/-- The lexemes of a text without the gaps. -/
def scan (s : List Char) : Except ReadFault (List Lexeme) :=
  scanUpTo (s.length + 1) s

end SqlDialect.Sql
