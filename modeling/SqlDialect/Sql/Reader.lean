/-
  SqlDialect.Sql.Reader
  ────────────────────────────────
  **EXPRESSIONS FROM TEXT.**

  Reads names, literals, calls, casts and operators by precedence, in a dialect
  that knows its own names of types.  Products bind tighter than sums, sums
  tighter than concatenation, a sign tightest; operators of one level group
  from the left.  Names are read as they are, parentheses are kept.  Between
  commas there may be nothing, which does not count.

  This is how the text of a composed expression is to be understood.  What else
  there is in SQL (comments, comparisons, constructs with keywords of their
  own) is for a library to read, of which only this much is asked:

      tokenize : Dialect → String → Except SqlFault (List Token)
      parse    : Dialect → List Token → Except SqlFault Expr
-/
import SqlDialect.Sql.Lexeme

namespace SqlDialect.Sql

open SqlDialect.Text

/-! ## §1. Parts. -/

/-- What follows the given mark. -/
def expectMark (m : Mark) : List Lexeme → Except ReadFault (List Lexeme)
  | l :: rest => if l = .mark m then .ok rest else .error .malformed
  | [] => .error .malformed

/-- The lexeme is the given keyword, in any case. -/
def isKeyword (keyword : String) (l : Lexeme) : Bool :=
  match l with
  | .word s => String.ofList (upper s.toList) == keyword
  | _ => false

/-- What follows the given keyword. -/
def expectKeyword (keyword : String) : List Lexeme → Except ReadFault (List Lexeme)
  | l :: rest => if isKeyword keyword l then .ok rest else .error .malformed
  | [] => .error .malformed

/-- A name in quotes or a bare word. -/
def nameOf? : Lexeme → Option Name
  | .word s => some ⟨s, false⟩
  | .quotedName s => some ⟨s, true⟩
  | _ => none

/-- The names of constants. -/
def constantNames : List String := ["NULL", "TRUE", "FALSE"]

/-- The word is a constant or another keyword of the dialect. -/
def Dialect.isKeyword (d : Dialect) (s : String) : Bool :=
  (constantNames ++ d.words.keywords).contains (String.ofList (upper s.toList))

/-- The name that a bare word stands for: a constant, in upper case, or a word
that is no keyword, as it is. -/
def nameOfWord? (d : Dialect) (s : String) : Option Name :=
  let name := String.ofList (upper s.toList)
  if constantNames.contains name then some ⟨name, false⟩
  else if d.isKeyword s then none
  else some ⟨s, false⟩

/-- A column: the first name, then names after dots. -/
def readPath (path : List Name) (name : Name) : List Lexeme →
    Except ReadFault (Expr × List Lexeme)
  | .mark .dot :: l :: rest => match nameOf? l with
    | some n => readPath (path ++ [name]) n rest
    | none => .error .malformed
  | .mark .dot :: [] => .error .malformed
  | rest => .ok (.column path name, rest)

/-- What follows the text and the word of an interval of one second. -/
def takeSecond? (word : String) : List Lexeme → Option (List Lexeme)
  | .text n :: .word u :: rest =>
      if isKeyword "INTERVAL" (.word word) && n == "1" && isKeyword "SECOND" (.word u) then
        some rest
      else none
  | _ => none

/-- An argument of a type: a number, or a word in upper case. -/
def typeArgument? : Lexeme → Option String
  | .number n => some n
  | .word s => some (String.ofList (upper s.toList))
  | _ => none

/-- The arguments of a type up to the closing parenthesis. -/
def readTypeArguments : List Lexeme → Except ReadFault (List String × List Lexeme)
  | l :: .mark m :: rest => match typeArgument? l, m with
    | some a, .closeParen => .ok ([a], rest)
    | some a, .comma => do
        let (as, rest) ← readTypeArguments rest
        return (a :: as, rest)
    | _, _ => .error .malformed
  | _ => .error .malformed

/-- The words at the front. -/
def takeWords : List Lexeme → List (List Char) × List Lexeme
  | .word s :: rest => let (ws, rest) := takeWords rest; (s.toList :: ws, rest)
  | rest => ([], rest)

/-- The arguments of a type, if there are any. -/
def readOptionalArguments : List Lexeme → Except ReadFault (List String × List Lexeme)
  | .mark .openParen :: rest => readTypeArguments rest
  | rest => .ok ([], rest)

/-- A data type. -/
def readType (d : Dialect) (ls : List Lexeme) : Except ReadFault (DataType × List Lexeme) := do
  let (words, rest) := takeWords ls
  let (arguments, rest) ← readOptionalArguments rest
  match DataType.ofWords? d words arguments with
  | some t => return (t, rest)
  | none => throw .malformed

/-- What follows the plus signs at the front. -/
def dropPluses : List Lexeme → List Lexeme
  | .mark (.op .add) :: rest => dropPluses rest
  | ls => ls

/-- What stands between parentheses. -/
structure Items where
  items : List Expr
  /-- A comma stands before the closing parenthesis. -/
  endWithComma : Bool

/-- An expression in parentheses, or a tuple. -/
def Items.inParens (i : Items) : Expr :=
  match i.items, i.endWithComma with
  | [e], false => .paren e
  | es, _ => .tuple es

/-! ## §2. Expressions. -/

/-- The level above all operators. -/
def unaryLevel : Nat := 3

variable (d : Dialect)

mutual

/-- An expression whose operators bind at the given level or tighter. -/
def readLevel : Nat → Nat → List Lexeme → Except ReadFault (Expr × List Lexeme)
  | 0, _, _ => .error .malformed
  | bound + 1, level, ls =>
      if unaryLevel ≤ level then readSigned bound ls
      else do
        let (left, rest) ← readLevel bound (level + 1) ls
        readRest bound level left rest

/-- The operators of the given level after a left operand. -/
def readRest : Nat → Nat → Expr → List Lexeme → Except ReadFault (Expr × List Lexeme)
  | 0, _, _, _ => .error .malformed
  | bound + 1, level, left, ls =>
      match ls with
      | .mark (.op o) :: rest =>
          if o.level = level then do
            let (right, rest) ← readLevel bound (level + 1) rest
            readRest bound level (.binary o left right) rest
          else .ok (left, ls)
      | _ => .ok (left, ls)

/-- An operand with signs in front; a plus sign is dropped. -/
def readSigned : Nat → List Lexeme → Except ReadFault (Expr × List Lexeme)
  | 0, _ => .error .malformed
  | bound + 1, ls =>
      match ls with
      | .mark (.op .sub) :: rest => do
          let (e, rest) ← readSigned bound rest
          return (.neg e, rest)
      | .mark (.op .add) :: rest => readSigned bound rest
      | _ => readOperand bound ls

/-- A literal, a column, a call, a cast or an expression in parentheses. -/
def readOperand : Nat → List Lexeme → Except ReadFault (Expr × List Lexeme)
  | 0, _ => .error .malformed
  | bound + 1, ls =>
      match ls with
      | .number n :: rest => .ok (.number n, rest)
      | .mark .dot :: .number n :: rest => .ok (.number ("0." ++ n), rest)
      | .text s :: rest => .ok (.text s, rest)
      | .quotedName s :: rest => readPath [] ⟨s, true⟩ rest
      | .mark .openParen :: rest => do
          let (items, rest) ← readItems bound false rest
          return (items.inParens, rest)
      | .word f :: .mark .openParen :: rest =>
          if isKeyword "CAST" (.word f) then do
            let (e, rest) ← readLevel bound 0 rest
            let (t, rest) ← readType d (← expectKeyword "AS" rest)
            return (.cast e t, ← expectMark .closeParen rest)
          else if isKeyword "EXTRACT" (.word f) then
            match rest with
            | .word part :: rest => do
                let (e, rest) ← readLevel bound 0 (← expectKeyword "FROM" rest)
                return (.extract part e, ← expectMark .closeParen rest)
            | _ => .error .malformed
          else do
            let (items, rest) ← readItems bound false rest
            return (.call f items.items, rest)
      | .word s :: rest => match takeSecond? s rest, nameOfWord? d s with
        | some rest, _ => .ok (.oneSecond, rest)
        | none, some name => readPath [] name rest
        | none, none => .error .malformed
      | _ => .error .malformed

/-- Items up to the closing parenthesis, the first of which comes after a
comma or not. -/
def readItems : Nat → Bool → List Lexeme → Except ReadFault (Items × List Lexeme)
  | 0, _, _ => .error .malformed
  | bound + 1, afterComma, ls =>
      match dropPluses ls with
      | .mark .closeParen :: rest =>
          .ok (⟨[], afterComma && ls.head? == some (.mark .closeParen)⟩, rest)
      | .mark .comma :: rest => readItems bound true rest
      | _ => do
          let (e, rest) ← readLevel bound 0 ls
          match rest with
          | .mark .comma :: rest => do
              let (items, rest) ← readItems bound true rest
              return (⟨e :: items.items, items.endWithComma⟩, rest)
          | _ => return (⟨[e], false⟩, ← expectMark .closeParen rest)

end

/-- The expression that lexemes make. -/
def Expr.ofLexemes (ls : List Lexeme) : Except ReadFault Expr := do
  let (e, rest) ← readLevel d (8 * (ls.length + 1)) 0 ls
  if rest.isEmpty then return e else throw .malformed

/-- The expression that a text stands for in the dialect, by precedence. -/
def Expr.read (s : String) : Except ReadFault Expr := do
  Expr.ofLexemes d (← scan s.toList)

/-! ## §3. Libraries of SQL. -/

/-- What a library raises on a text. -/
inductive SqlFault where
  /-- The text cannot be cut into tokens. -/
  | tokens (message : String)
  /-- The tokens make no expression. -/
  | grammar (message : String)
  /-- A fault of any other kind. -/
  | other (kind : String)
  deriving Repr, DecidableEq

/-- The text of what is raised. -/
def SqlFault.message : SqlFault → String
  | .tokens message | .grammar message => message
  | .other kind => kind

/-- A tokenizer, and a parser of its tokens.  An expression that is not composed
of what is known here stands as the fragment that it is rendered to. -/
structure SqlParser (Token : Type) where
  tokenize : Dialect → String → Except SqlFault (List Token)
  parse : Dialect → List Token → Except SqlFault Expr

namespace SqlParser

variable {Token : Type}

/-- The expression that a text stands for. -/
def read (p : SqlParser Token) (d : Dialect) (s : String) :
    Except SqlFault Expr := do
  p.parse d (← p.tokenize d s)

/-- The text has tokens, and they make the expression. -/
def Reads (p : SqlParser Token) (d : Dialect) (s : String) (e : Expr) : Prop :=
  ∃ tokens, p.tokenize d s = .ok tokens ∧ p.parse d tokens = .ok e

/-- The tokenizer raises the fault, or the parser at the tokens. -/
def Raises (p : SqlParser Token) (d : Dialect) (s : String) (fault : SqlFault) : Prop :=
  p.tokenize d s = .error fault ∨
    ∃ tokens, p.tokenize d s = .ok tokens ∧ p.parse d tokens = .error fault

/-- A text behind an open quotation mark has no tokens. -/
def RefusesOpenQuotes (p : SqlParser Token) : Prop :=
  ∀ (d : Dialect) (s : String), '\'' ∉ s.toList →
    ∃ message, p.tokenize d ("'" ++ s) = .error (.tokens message)

/-- What is raised for a text that is not read by precedence. -/
def faultOf : ReadFault → SqlFault
  | .unterminated => .tokens "The quotes are not closed"
  | .malformed => .grammar "The parts make no expression"

/-- The parser that reads by precedence. -/
def plain : SqlParser Lexeme where
  tokenize _ s := (scan s.toList).mapError faultOf
  parse d ls := (Expr.ofLexemes d ls).mapError faultOf

end SqlParser

/-- What a program has of its library. -/
structure SqlLibrary where
  wordsOf : SqlSystem → SpecialWords
  read : Dialect → String → Except SqlFault Expr

namespace SqlLibrary

/-- A dialect with the words of the library. -/
def dialect (l : SqlLibrary) (d : Dialect) : Dialect := d.withWords (l.wordsOf d.system)

/-- The library that reads by precedence. -/
def plain : SqlLibrary := ⟨SqlSystem.commonWords, SqlParser.plain.read⟩

end SqlLibrary

end SqlDialect.Sql
