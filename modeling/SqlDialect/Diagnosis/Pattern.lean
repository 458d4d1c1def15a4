/-
  SqlDialect.Diagnosis.Pattern
  ────────────────────────────────
  **PATTERNS OF MESSAGE TEXTS.**

  A pattern describes whole texts.  `run` tries every way in which the
  pattern can take from the front of a text and asks what follows it:

      run (seq a b) s k = run a s fun t => run b t k

  A text matches when some way leaves nothing over.
-/
import SqlDialect.Text.Segment
import SqlDialect.Text.Casing

namespace SqlDialect

open SqlDialect.Text

/-! ## §1. Patterns. -/

/-- A class of characters. -/
inductive CharClass where
  | letter (c : Char)
  | any
  | blank
  | nonBlank
  deriving Repr, DecidableEq

/-- A pattern of texts. -/
inductive Pattern where
  | empty
  | one (c : CharClass)
  /-- Any number of characters of a class. -/
  | many (c : CharClass)
  /-- One or more characters of a class. -/
  | atLeastOne (c : CharClass)
  | atStart
  /-- The end of the text, or the place before its last line break. -/
  | atEnd
  | seq (a b : Pattern)
  | alt (a b : Pattern)
  deriving Repr, DecidableEq

namespace Pattern

/-- The given characters one after another. -/
def literal (s : List Char) : Pattern :=
  s.foldr (fun c p => .seq (.one (.letter c)) p) .empty

/-- The given text. -/
def text (s : String) : Pattern :=
  literal s.toList

/-- Any text. -/
def anything : Pattern := .many .any

/-- The patterns one after another. -/
def sequence (ps : List Pattern) : Pattern :=
  ps.foldr .seq .empty

/-- One of the patterns. -/
def choice (p : Pattern) (ps : List Pattern) : Pattern :=
  match ps with
  | [] => p
  | q :: rest => .alt p (choice q rest)

/-- The pattern or nothing. -/
def optional (p : Pattern) : Pattern := .alt p .empty

end Pattern

/-! ## §2. Matching. -/

/-- A character belongs to the class, with or without regard to case. -/
def CharClass.test (ignoreCase : Bool) (k : CharClass) (c : Char) : Bool :=
  match k with
  | .letter a => if ignoreCase then sameLetter a c else a == c
  | .any => true
  | .blank => isBlank c
  | .nonBlank => !isBlank c

/-- A position in a text: what follows it, and whether it is the start. -/
structure Position where
  rest : List Char
  isStart : Bool
  deriving Repr, DecidableEq

namespace Pattern

/-- Take any number of characters that pass the test, then go on with `k`. -/
def runMany (test : Char → Bool) (k : Position → Bool) : List Char → Bool → Bool
  | [], b => k ⟨[], b⟩
  | c :: rest, b => k ⟨c :: rest, b⟩ || (test c && runMany test k rest false)

/-- Take one character that passes the test, then go on with `k`. -/
def runOne (test : Char → Bool) (k : Position → Bool) (s : Position) : Bool :=
  match s.rest with
  | c :: rest => test c && k ⟨rest, false⟩
  | [] => false

/-- Whether the pattern can take from the front of a text so that `k` holds
of what follows. -/
def run (ignoreCase : Bool) : Pattern → Position → (Position → Bool) → Bool
  | .empty, s, k => k s
  | .one c, s, k => runOne (c.test ignoreCase) k s
  | .many c, s, k => runMany (c.test ignoreCase) k s.rest s.isStart
  | .atLeastOne c, s, k =>
      runOne (c.test ignoreCase) (fun s => runMany (c.test ignoreCase) k s.rest s.isStart) s
  | .atStart, s, k => s.isStart && k s
  | .atEnd, s, k => (s.rest == [] || s.rest == ['\n']) && k s
  | .seq a b, s, k => run ignoreCase a s fun t => run ignoreCase b t k
  | .alt a b, s, k => run ignoreCase a s k || run ignoreCase b s k

/-- The whole text matches the pattern. -/
def matchesAll (p : Pattern) (ignoreCase : Bool) (s : List Char) : Bool :=
  p.run ignoreCase ⟨s, true⟩ fun t => t.rest.isEmpty

/-! ## §3. Patterns from text. -/

/-- What a pattern text is made of. -/
inductive Token where
  | atom (p : Pattern)
  | charClass (c : CharClass)
  | openGroup
  | closeGroup
  | bar
  | star
  | plus
  | question
  deriving Repr, DecidableEq

/-- The class that an escaped character stands for. -/
def escaped : Char → CharClass
  | 's' => .blank
  | 'S' => .nonBlank
  | c => .letter c

/-- The tokens of a pattern text. -/
def tokens : List Char → List Token
  | '(' :: '?' :: ':' :: rest => .openGroup :: tokens rest
  | '\\' :: c :: rest => .charClass (escaped c) :: tokens rest
  | c :: rest =>
      (match c with
        | '(' => .openGroup
        | ')' => .closeGroup
        | '|' => .bar
        | '*' => .star
        | '+' => .plus
        | '?' => .question
        | '.' => .charClass .any
        | '^' => .atom .atStart
        | '$' => .atom .atEnd
        | c => .charClass (.letter c)) :: tokens rest
  | [] => []

mutual

/-- Alternatives up to a closing parenthesis or the end. -/
def readChoice : Nat → List Token → Option (Pattern × List Token)
  | 0, _ => none
  | bound + 1, ts => do
      let (p, rest) ← readSequence bound ts
      match rest with
      | .bar :: rest => do
          let (q, rest) ← readChoice bound rest
          return (.alt p q, rest)
      | rest => return (p, rest)

/-- Items up to a bar, a closing parenthesis or the end. -/
def readSequence : Nat → List Token → Option (Pattern × List Token)
  | 0, _ => none
  | bound + 1, ts =>
      match ts with
      | .charClass c :: .star :: rest => follow bound (.many c) rest
      | .charClass c :: .plus :: rest => follow bound (.atLeastOne c) rest
      | .charClass c :: .question :: rest => follow bound (optional (.one c)) rest
      | .charClass c :: rest => follow bound (.one c) rest
      | .atom p :: rest => follow bound p rest
      | .openGroup :: rest => do
          let (p, rest) ← readChoice bound rest
          match rest with
          | .closeGroup :: .question :: rest => follow bound (optional p) rest
          | .closeGroup :: rest => follow bound p rest
          | _ => none
      | .star :: _ | .plus :: _ | .question :: _ => none
      | rest => some (.empty, rest)

/-- An item and the items that follow it. -/
def follow : Nat → Pattern → List Token → Option (Pattern × List Token)
  | 0, _, _ => none
  | bound + 1, p, ts => do
      let (q, rest) ← readSequence bound ts
      return (.seq p q, rest)

end

/-- The pattern that a text describes. -/
def read? (s : String) : Option Pattern :=
  let ts := tokens s.toList
  match readChoice (4 * (ts.length + 1)) ts with
  | some (p, []) => some p
  | _ => none

end Pattern

end SqlDialect
