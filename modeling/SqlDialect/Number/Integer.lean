/-
  SqlDialect.Number.Integer
  ────────────────────────────────
  **WHOLE NUMBERS FROM AND TO TEXT.**

  Numbers are written with ASCII digits and no leading zero.  A run of
  digits is read by its value, one digit at a time:

      ofDigits (ds ++ [d]) = 10 * ofDigits ds + d

  A whole number that is read may stand between spaces, carry a sign, use
  the digits of any script and group them with underscores.  Neither texts
  of more than 4300 digits are read nor such numbers written.
-/
import SqlDialect.Text.Class
import SqlDialect.Number.Binary64
import SqlDialect.Text.Segment

namespace SqlDialect.Number

open SqlDialect.Text

/-! ## §1. Writing digits. -/

/-- A natural number in decimal digits. -/
def natText (n : Nat) : List Char :=
  Nat.toDigits 10 n

/-- A whole number in decimal digits, with a minus sign if it is negative. -/
def intText : Int → List Char
  | .ofNat n => natText n
  | .negSucc n => '-' :: natText (n + 1)

/-- A natural number with zeros in front, up to the given width. -/
def paddedText (width n : Nat) : List Char :=
  List.replicate (width - (natText n).length) '0' ++ natText n

/-! ## §2. Reading digits. -/

/-- The value of digits, the most significant first. -/
def ofDigits (ds : List Nat) : Nat :=
  ds.foldl (fun n d => 10 * n + d) 0

@[simp] theorem ofDigits_append_singleton (ds : List Nat) (d : Nat) :
    ofDigits (ds ++ [d]) = 10 * ofDigits ds + d := by
  simp [ofDigits]

/-- The digits of a non-empty run in which single underscores may stand
between two digits. -/
def digitRun? : List Char → Option (List Nat)
  | [] => none
  | [c] => (digit? c).map ([·])
  | c :: '_' :: rest => do return (← digit? c) :: (← digitRun? rest)
  | c :: rest => do return (← digit? c) :: (← digitRun? rest)

/-- The sign in front of a number, `true` for a minus, and what follows it. -/
def splitSign : List Char → Bool × List Char
  | '-' :: rest => (true, rest)
  | '+' :: rest => (false, rest)
  | s => (false, s)

/-! ## §3. The limit. -/

/-- The most digits of a whole number that are read or written. -/
def maxDigits : Nat := 4300

/-- What to say about a whole number with more digits; a number that is read
has its digits counted. -/
def digitLimitMessage (count : Option Nat) : String :=
  let number (n : Nat) : String := String.ofList (natText n)
  "Exceeds the limit (" ++ number maxDigits ++ " digits) for integer string conversion"
    ++ (match count with
      | some n => ": value has " ++ number n ++ " digits"
      | none => "")
    ++ "; use sys.set_int_max_str_digits() to increase the limit"

/-- The number has at most as many digits as are written. -/
def isWritable (n : Int) : Bool :=
  n.natAbs < power 10 maxDigits

/-! ## §4. Whole numbers. -/

/-- The whole number with the given sign. -/
def signed (negative : Bool) (n : Nat) : Int :=
  if negative then -n else n

/-- Why a text is no whole number. -/
inductive IntegerFault where
  | malformed
  | tooManyDigits (count : Nat)
  deriving Repr, DecidableEq

/-- The whole number that a text stands for.  The digits are counted before
what follows them is looked at. -/
def readInt (s : List Char) : Except IntegerFault Int :=
  let (negative, body) := splitSign (s.dropWhile isSpace)
  let run := body.takeWhile fun c => c == '_' || (digit? c).isSome
  match digitRun? run with
  | none => .error .malformed
  | some ds =>
      if maxDigits < ds.length then .error (.tooManyDigits ds.length)
      else if (body.drop run.length).all isSpace then .ok (signed negative (ofDigits ds))
      else .error .malformed

/-- The whole number that a text stands for, if it does. -/
def readInt? (s : List Char) : Option Int :=
  (readInt s).toOption

end SqlDialect.Number
