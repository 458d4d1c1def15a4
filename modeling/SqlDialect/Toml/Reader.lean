/-
  SqlDialect.Toml.Reader
  ────────────────────────────────
  **READING DOCUMENTS.**

  A document is read line by line into statements, and the statements are
  followed one after another.  Any fault makes the whole document
  unreadable.
-/
import SqlDialect.Toml.Document
import SqlDialect.Toml.Scalar

namespace SqlDialect.Toml

open SqlDialect.Text

/-! ## §1. Lines. -/

/-- Each line end as one character. -/
def unifyLineEnds : List Char → List Char
  | '\r' :: '\n' :: rest => '\n' :: unifyLineEnds rest
  | '\r' :: rest => '\n' :: unifyLineEnds rest
  | c :: rest => c :: unifyLineEnds rest
  | [] => []

/-- The rest of the line without blanks in front. -/
def skipBlanks (s : List Char) : List Char := s.dropWhile isInlineBlank

/-- What stands behind a comment, from its line end on. -/
def skipComment? (s : List Char) : Option (List Char) :=
  match s with
  | '#' :: rest =>
      if (rest.takeWhile (· != '\n')).any isControl then none
      else some (rest.dropWhile (· != '\n'))
  | _ => some s

/-- What stands on the next lines, if nothing but a comment is left on this one. -/
def endLine? (s : List Char) : Option (List Char) := do
  match ← skipComment? (skipBlanks s) with
  | [] => some []
  | '\n' :: rest => some rest
  | _ => none

/-- What stands behind blanks, line ends and comments. -/
def skipSpace? : Nat → List Char → Option (List Char)
  | 0, _ => none
  | bound + 1, s =>
      match s.dropWhile fun c => isInlineBlank c || c == '\n' with
      | '#' :: rest => do skipSpace? bound (← skipComment? ('#' :: rest))
      | rest => some rest

/-! ## §2. Keys. -/

/-- A character of a name without quotes. -/
def isBare (c : Char) : Bool := c.isAlphanum || c == '-' || c == '_'

/-- One name of a key. -/
def takeName? (s : List Char) : Option (String × List Char) :=
  match s with
  | '"' :: rest => (takeBasic? rest).map fun r => (String.ofList r.1, r.2)
  | '\'' :: rest => (takeLiteral? rest).map fun r => (String.ofList r.1, r.2)
  | _ =>
      let name := s.takeWhile isBare
      if name.isEmpty then none else some (String.ofList name, s.dropWhile isBare)

/-- Names with points between them, and the blanks behind the last. -/
def takeKey? : Nat → List Char → Option (Key × List Char)
  | 0, _ => none
  | bound + 1, s => do
      let (name, rest) ← takeName? s
      match skipBlanks rest with
      | '.' :: rest =>
          let (key, rest) ← takeKey? bound (skipBlanks rest)
          return (name :: key, rest)
      | rest => return ([name], rest)

/-- A key and the equals sign behind it. -/
def takeAssigned? (s : List Char) : Option (Key × List Char) := do
  match ← takeKey? (s.length + 1) s with
  | (key, '=' :: rest) => some (key, skipBlanks rest)
  | _ => none

/-! ## §3. Values. -/

/-- A step that may fail as malformed. -/
def orMalformed {α : Type} : Option α → Except ReadError α
  | some a => .ok a
  | none => .error .malformed

/-- What stands behind blanks, line ends and comments inside an array. -/
def skipArraySpace (s : List Char) : Except ReadError (List Char) :=
  orMalformed (skipSpace? (s.length + 1) s)

/-- Give a key of an inline table its value. -/
def assignInline? (t : Table) (marks : Marks) (key : Key) (v : Value) : Option Table :=
  if marks.isClosed key then none
  else t.changeAt? false (Table.add? (key.getLastD "") v) key.dropLast

mutual

/-- A value. -/
def readValue : Nat → List Char → Except ReadError (Value × List Char)
  | 0, _ => .error .malformed
  | bound + 1, s =>
      match s with
      | '"' :: _ | '\'' :: _ => do
          let (t, rest) ← orMalformed (takeText? s)
          return (.text (String.ofList t), rest)
      | '[' :: rest => do
          match ← skipArraySpace rest with
          | ']' :: rest => return (.list [], rest)
          | rest =>
              let (items, rest) ← readItems bound rest
              return (.list items, rest)
      | '{' :: rest =>
          match skipBlanks rest with
          | '}' :: rest => .ok (.map [], rest)
          | rest => do
              let (t, rest) ← readPairs bound [] [] rest
              return (.map t, rest)
      | _ => takeScalar s

/-- The items of an array up to its end. -/
def readItems : Nat → List Char → Except ReadError (List Value × List Char)
  | 0, _ => .error .malformed
  | bound + 1, s => do
      let (v, rest) ← readValue bound s
      match ← skipArraySpace rest with
      | ']' :: rest => return ([v], rest)
      | ',' :: rest =>
          match ← skipArraySpace rest with
          | ']' :: rest => return ([v], rest)
          | rest =>
              let (vs, rest) ← readItems bound rest
              return (v :: vs, rest)
      | _ => throw .malformed

/-- The assignments of an inline table up to its end. -/
def readPairs : Nat → Table → Marks → List Char → Except ReadError (Table × List Char)
  | 0, _, _, _ => .error .malformed
  | bound + 1, t, marks, s => do
      let (key, rest) ← orMalformed (takeAssigned? s)
      let (v, rest) ← readValue bound rest
      let t ← orMalformed (assignInline? t marks key v)
      match skipBlanks rest with
      | '}' :: rest => return (t, rest)
      | ',' :: rest => readPairs bound t (marks.closeFor key v) (skipBlanks rest)
      | _ => throw .malformed

end

/-! ## §4. Statements. -/

/-- A header between single or double brackets. -/
def takeHeader? (s : List Char) : Option (Statement × List Char) :=
  match s with
  | '[' :: '[' :: rest => do
      match ← takeKey? (rest.length + 1) (skipBlanks rest) with
      | (key, ']' :: ']' :: rest) => some (.item key, rest)
      | _ => none
  | '[' :: rest => do
      match ← takeKey? (rest.length + 1) (skipBlanks rest) with
      | (key, ']' :: rest) => some (.table key, rest)
      | _ => none
  | _ => none

/-- A statement at the start of a line. -/
def readStatement (s : List Char) : Except ReadError (Statement × List Char) :=
  match s with
  | '[' :: _ => orMalformed (takeHeader? s)
  | _ => do
      let (key, rest) ← orMalformed (takeAssigned? s)
      let (v, rest) ← readValue (2 * (rest.length + 1)) rest
      return (.assign key v, rest)

/-- The statements up to the first fault, and the fault. -/
def readStatements : Nat → List Char → List Statement × Option ReadError
  | 0, _ => ([], some .malformed)
  | bound + 1, s =>
      match skipBlanks s with
      | [] => ([], none)
      | '\n' :: rest => readStatements bound rest
      | '#' :: rest => match endLine? ('#' :: rest) with
        | some rest => readStatements bound rest
        | none => ([], some .malformed)
      | start => match readStatement start with
        | .error e => ([], some e)
        | .ok (statement, rest) => match endLine? rest with
          | some rest =>
              let (statements, fault) := readStatements bound rest
              (statement :: statements, fault)
          | none => ([statement], some .malformed)

/-! ## §5. Documents. -/

/-- The document that statements make, unless they or the reading failed. -/
def ofStatements (statements : List Statement) (fault : Option ReadError) :
    Except ReadError (Settings Value) :=
  match State.followAll? {} statements, fault with
  | none, _ => .error .malformed
  | some _, some e => .error e
  | some s, none => .ok s.table.toSettings

/-- The document that a text holds. -/
def read (text : String) : Except ReadError (Settings Value) :=
  let s := unifyLineEnds text.toList
  let (statements, fault) := readStatements (s.length + 1) s
  ofStatements statements fault

end SqlDialect.Toml
