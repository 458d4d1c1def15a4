/-
  SqlDialect.Text.Template
  ────────────────────────────────
  **TEMPLATES WITH ONE PLACE.**

  A percent sign starts a place, which may set flags, a width, a precision
  and a size before the letter that says how the value is shown; two percent
  signs stand for one.  A template takes exactly one value, a text:

      s as it is · r in quotes · a in quotes with ASCII characters only
-/
import SqlDialect.Number.Integer
import SqlDialect.Text.Quote

namespace SqlDialect.Text

open SqlDialect.Number

/-! ## §1. Faults. -/

/-- Why a template cannot be filled. -/
inductive TemplateError where
  /-- The text ends inside a place. -/
  | incomplete
  /-- There is a place for something else, a second place or none. -/
  | wrongPlaces
  | widthTooBig
  | precisionTooBig
  /-- The width asks for a longer text than can be made. -/
  | tooLong
  /-- The character at the given index means nothing. -/
  | unsupported (c : Char) (index : Nat)
  deriving Repr, DecidableEq

/-- The character as it is reported. -/
def reportedLetter (c : Char) : Char :=
  if 31 ≤ c.toNat ∧ c.toNat ≤ 126 then c else '?'

/-- What to say about a template that cannot be filled. -/
def TemplateError.message : TemplateError → String
  | .incomplete => "incomplete format"
  | .wrongPlaces => "The template must have exactly one place for a text"
  | .widthTooBig => "width too big"
  | .precisionTooBig => "precision too big"
  | .tooLong => "The text is too long"
  | .unsupported c index =>
      "unsupported format character '" ++ String.singleton (reportedLetter c) ++ "' (0x"
        ++ String.ofList (hexText 1 c.toNat) ++ ") at index " ++ String.ofList (natText index)

namespace Template

/-! ## §2. Places. -/

/-- How a value is set into its place. -/
structure Setting where
  /-- Blanks go behind the value, not before it. -/
  isLeft : Bool := false
  width : Nat := 0
  precision : Option Nat := none
  deriving Repr, DecidableEq

/-- A text in the given setting. -/
def Setting.set (f : Setting) (s : List Char) : List Char :=
  let s := match f.precision with
    | some n => s.take n
    | none => s
  let blanks := List.replicate (f.width - s.length) ' '
  if f.isLeft then s ++ blanks else blanks ++ s

/-- Without a width and a precision a text stays as it is. -/
theorem Setting.set_plain (isLeft : Bool) (s : List Char) :
    Setting.set { isLeft } s = s := by
  cases isLeft <;> simp [Setting.set]

/-- The marks that may stand first in a place; only the hyphen has a meaning
for texts. -/
def isFlag (c : Char) : Bool :=
  ['-', '+', ' ', '#', '0'].contains c

/-- The greatest width. -/
def maxWidth : Nat := 9223372036854775807

/-- The greatest precision. -/
def maxPrecision : Nat := 2147483647

/-- The greatest width to which a value is filled up. -/
def maxLength : Nat := 1073741823

/-- The number that ASCII digits at the front make, none being zero. -/
def takeNumber (s : List Char) : Nat × List Char :=
  (ofDigits ((s.takeWhile Char.isDigit).filterMap asciiDigit?), s.dropWhile Char.isDigit)

/-- The precision behind a point. -/
def takePrecision (s : List Char) : Except TemplateError (Option Nat × List Char) :=
  match s with
  | '.' :: '*' :: _ => .error .wrongPlaces
  | '.' :: rest =>
      let (n, rest) := takeNumber rest
      if maxPrecision < n then .error .precisionTooBig else .ok (some n, rest)
  | _ => .ok (none, s)

/-- What follows a mark of size, which has no meaning. -/
def dropSize (s : List Char) : List Char :=
  match s with
  | c :: rest => if c = 'h' ∨ c = 'l' ∨ c = 'L' then rest else s
  | [] => []

/-- The setting of a place, and what follows from its letter on.  A place
for the value of a name or of another width takes no text. -/
def takeSetting (s : List Char) : Except TemplateError (Setting × List Char) := do
  if s.head? = some '(' then throw .wrongPlaces
  let behind := s.dropWhile isFlag
  if behind.head? = some '*' then throw .wrongPlaces
  let (width, rest) := takeNumber behind
  if maxWidth < width then throw .widthTooBig
  let (precision, rest) ← takePrecision rest
  return (⟨(s.takeWhile isFlag).contains '-', width, precision⟩, dropSize rest)

/-! ## §3. Filling. -/

/-- The letters of places for numbers and single characters. -/
def otherLetters : List Char := "diouxXeEfFgGc".toList

/-- A value as a letter shows it. -/
def shownAs? (letter : Char) (value : List Char) : Option (List Char) :=
  match letter with
  | 's' => some value
  | 'r' => some (quoted value)
  | 'a' => some (quotedAscii value)
  | _ => none

/-- Fill the place that starts behind a percent sign, and give what follows.
The length is that of the whole template. -/
def fillPlace (value : List Char) (filled : Bool) (length : Nat) (s : List Char) :
    Except TemplateError (List Char × List Char) := do
  let (setting, rest) ← takeSetting s
  match rest with
  | [] => throw .incomplete
  | letter :: after =>
      if filled then throw .wrongPlaces
      match shownAs? letter value with
      | some shown =>
          if maxLength < setting.width then throw .tooLong
          return (setting.set shown, after)
      | none =>
          if otherLetters.contains letter then throw .wrongPlaces
          else throw (.unsupported letter (length - rest.length))

/-- Fill the places of a template, where `filled` says whether the value has
been placed already.  The bound is the number of characters and places that
are looked at, the length that of the whole template. -/
def fill (value : List Char) (length : Nat) :
    Nat → Bool → List Char → Except TemplateError (List Char)
  | _, filled, [] => if filled then .ok [] else .error .wrongPlaces
  | 0, _, _ => .ok []
  | bound + 1, filled, '%' :: rest =>
      match rest with
      | '%' :: rest => ('%' :: ·) <$> fill value length bound filled rest
      | _ => do
          let (shown, rest) ← fillPlace value filled length rest
          return shown ++ (← fill value length bound true rest)
  | bound + 1, filled, c :: rest => (c :: ·) <$> fill value length bound filled rest

/-- The template with the value in its place. -/
def apply (template value : List Char) : Except TemplateError (List Char) :=
  fill value template.length template.length false template

end Template

end SqlDialect.Text
