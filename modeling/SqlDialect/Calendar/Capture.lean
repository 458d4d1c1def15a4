/-
  SqlDialect.Calendar.Capture
  ────────────────────────────────
  **WHAT THE PIECES OF A FORMAT TAKE FROM A TEXT.**

  Each piece takes from the front of a text in every way it can, the
  preferred way first; the first way in which all pieces succeed counts.
  Letters count without regard to case, and where a digit is free it may be
  of any script.
-/
import SqlDialect.Calendar.Format
import SqlDialect.Text.Casing

namespace SqlDialect.Calendar

open SqlDialect.Text

/-! ## §1. Shapes of numbers. -/

/-- What may stand in one place of a number. -/
inductive Place where
  /-- An ASCII digit between two bounds. -/
  | between (least most : Nat)
  /-- A digit of any script. -/
  | digit
  /-- A space. -/
  | space
  deriving Repr, DecidableEq

/-- A character may stand in the place. -/
def Place.admits (p : Place) (c : Char) : Bool :=
  match p with
  | .between least most => (asciiDigit? c).any fun d => least ≤ d && d ≤ most
  | .digit => (digit? c).isSome
  | .space => c == ' '

/-- The digit and nothing else. -/
def Place.only (d : Nat) : Place := .between d d

/-- What a field takes: the text, and what follows it. -/
abbrev Taken := List Char × List Char

/-- The characters at the front that have the given shape. -/
def takeShape? : List Place → List Char → Option Taken
  | [], s => some ([], s)
  | _ :: _, [] => none
  | p :: ps, c :: rest =>
      if p.admits c then (takeShape? ps rest).map fun (taken, rest) => (c :: taken, rest) else none

/-- The shapes of the numbers that a field takes, in the order in which they
are tried. -/
def Field.shapes : Field → List (List Place)
  | .year | .isoYear => [[.digit, .digit, .digit, .digit]]
  | .shortYear => [[.digit, .digit]]
  | .month | .hourOfHalf =>
      [[.only 1, .between 0 2], [.only 0, .between 1 9], [.between 1 9]]
  | .day =>
      [[.only 3, .between 0 1], [.between 1 2, .digit], [.only 0, .between 1 9],
        [.between 1 9], [.space, .between 1 9]]
  | .dayOfYear =>
      [[.only 3, .only 6, .between 0 6], [.only 3, .between 0 5, .digit],
        [.between 1 2, .digit, .digit], [.only 0, .between 1 9, .digit],
        [.only 0, .only 0, .between 1 9], [.between 1 9, .digit], [.only 0, .between 1 9],
        [.between 1 9]]
  | .weekdayDigit => [[.between 1 7]]
  | .sundayDigit => [[.between 0 6]]
  | .sundayWeek | .mondayWeek => [[.only 5, .between 0 3], [.between 0 4, .digit], [.digit]]
  | .isoWeek => [[.only 5, .between 0 3], [.only 0, .between 1 9], [.between 1 4, .digit], [.digit]]
  | .hour => [[.only 2, .between 0 3], [.between 0 1, .digit], [.digit]]
  | .minute => [[.between 0 5, .digit], [.digit]]
  | .second => [[.only 6, .between 0 1], [.between 0 5, .digit], [.digit]]
  | _ => []

/-! ## §2. Names and places. -/

/-- The text that is the given name but for case. -/
def takeName? : List Char → List Char → Option Taken
  | [], s => some ([], s)
  | _ :: _, [] => none
  | a :: name, c :: rest =>
      if sameLetter a c then (takeName? name rest).map fun (taken, rest) => (c :: taken, rest)
      else none

/-- The ways to take one to six characters of a kind, the longest first. -/
def takeSix (isKind : Char → Bool) (s : List Char) : List Taken :=
  let n := min 6 (s.takeWhile isKind).length
  (List.range n).map fun i => (s.take (n - i), s.drop (n - i))

/-! ## §3. Offsets. -/

/-- The given mark, or nothing. -/
def optionalMark (mark : Char) (s : List Char) : List Taken :=
  match s with
  | c :: rest => if c = mark then [([c], rest), ([], s)] else [([], s)]
  | [] => [([], s)]

/-- A point and one to six digits, or nothing. -/
def takePlacesOfOffset (s : List Char) : List Taken :=
  match s with
  | '.' :: rest =>
      (takeSix (fun c => (digit? c).isSome) rest).map (fun (places, rest) =>
        ('.' :: places, rest)) ++ [([], s)]
  | _ => [([], s)]

/-- The seconds of an offset, or nothing. -/
def takeSecondsOfOffset (s : List Char) : List Taken :=
  ((optionalMark ':' s).flatMap fun (colon, s) =>
    match takeShape? [.between 0 5, .digit] s with
    | some (sec, s) => (takePlacesOfOffset s).map fun (places, s) => (colon ++ sec ++ places, s)
    | none => []) ++ [([], s)]

/-- An offset: a sign, hours, minutes and seconds, with or without colons,
or the letter Z. -/
def takeOffset (s : List Char) : List Taken :=
  match s with
  | 'Z' :: rest => [(['Z'], rest)]
  | c :: rest =>
      if c = '+' ∨ c = '-' then
        match takeShape? [.digit, .digit] rest with
        | some (h, s) => (optionalMark ':' s).flatMap fun (colon, s) =>
            match takeShape? [.between 0 5, .digit] s with
            | some (m, s) =>
                (takeSecondsOfOffset s).map fun (sec, s) => (c :: h ++ colon ++ m ++ sec, s)
            | none => []
        | none => []
      else []
  | [] => []

/-! ## §4. Pieces. -/

/-- The ways in which a field takes from a text. -/
def Field.take (f : Field) (s : List Char) : List Taken :=
  match f.names? with
  | some names => names.filterMap fun name => takeName? name.toList s
  | none => match f with
    | .fraction => takeSix Char.isDigit s
    | .offset => takeOffset s
    | _ => f.shapes.filterMap (takeShape? · s)

/-- The ways to take one or more blanks, the longest first. -/
def takeBlanks (s : List Char) : List Taken :=
  let n := (s.takeWhile isBlank).length
  (List.range n).map fun i => (s.take (n - i), s.drop (n - i))

/-- The ways in which a piece takes from a text. -/
def Piece.take (p : Piece) (s : List Char) : List Taken :=
  match p with
  | .literal a => (takeName? [a] s).toList
  | .blanks => takeBlanks s
  | .field f => f.take s

/-- What the fields of a format take, in order. -/
abbrev Captures := List (Field × List Char)

/-- The capture of a piece, if it is a field. -/
def Piece.capture (p : Piece) (taken : List Char) : Captures :=
  match p with
  | .field f => [(f, taken)]
  | _ => []

/-- The first way in which all pieces take from a text, and what follows. -/
def takeAll? : List Piece → List Char → Option (Captures × List Char)
  | [], s => some ([], s)
  | p :: ps, s => (p.take s).findSome? fun (taken, s) =>
      (takeAll? ps s).map fun (captures, rest) => (p.capture taken ++ captures, rest)

end SqlDialect.Calendar
