/-
  SqlDialect.Calendar.Format
  ────────────────────────────────
  **FORMATS OF TIME TEXTS.**

  A format is a list of pieces: literal characters, stretches of blanks and
  fields.  Some letters stand for several pieces.  No field may occur twice;
  what is said about a second occurrence counts groups and characters in the
  format written out as a pattern, with one named group for each field.
-/
import SqlDialect.Number.Integer
import SqlDialect.Text.Segment

namespace SqlDialect.Calendar

open SqlDialect.Text SqlDialect.Number

/-! ## §1. Fields. -/

/-- A field of a time text. -/
inductive Field where
  | year
  /-- The last two digits of the year. -/
  | shortYear
  /-- The year that an ISO week belongs to. -/
  | isoYear
  | month
  | monthName
  | shortMonthName
  | day
  | dayOfYear
  | weekday
  | shortWeekday
  /-- The day of the week as a digit, 1 for Monday. -/
  | weekdayDigit
  /-- The day of the week as a digit, 0 for Sunday. -/
  | sundayDigit
  /-- The week of the year, where weeks begin on Sunday. -/
  | sundayWeek
  /-- The week of the year, where weeks begin on Monday. -/
  | mondayWeek
  | isoWeek
  | hour
  /-- The hour since noon or midnight. -/
  | hourOfHalf
  | half
  | minute
  | second
  | fraction
  | offset
  | zone
  deriving Repr, DecidableEq

namespace Field

/-- All fields. -/
def all : List Field :=
  [year, shortYear, isoYear, month, monthName, shortMonthName, day, dayOfYear, weekday,
    shortWeekday, weekdayDigit, sundayDigit, sundayWeek, mondayWeek, isoWeek, hour, hourOfHalf,
    half, minute, second, fraction, offset, zone]

/-- The letter of a field in a format. -/
def letter : Field → Char
  | year => 'Y'
  | shortYear => 'y'
  | isoYear => 'G'
  | month => 'm'
  | monthName => 'B'
  | shortMonthName => 'b'
  | day => 'd'
  | dayOfYear => 'j'
  | weekday => 'A'
  | shortWeekday => 'a'
  | weekdayDigit => 'u'
  | sundayDigit => 'w'
  | sundayWeek => 'U'
  | mondayWeek => 'W'
  | isoWeek => 'V'
  | hour => 'H'
  | hourOfHalf => 'I'
  | half => 'p'
  | minute => 'M'
  | second => 'S'
  | fraction => 'f'
  | offset => 'z'
  | zone => 'Z'

/-- Every field is listed. -/
theorem mem_all (f : Field) : f ∈ all := by
  cases f <;> decide

/-- The field with the given letter. -/
def ofLetter? (c : Char) : Option Field :=
  all.find? (·.letter == c)

end Field

/-! ## §2. Names. -/

/-- The months. -/
def monthNames : List String :=
  ["january", "february", "march", "april", "may", "june", "july", "august", "september",
    "october", "november", "december"]

/-- The days of the week. -/
def weekdayNames : List String :=
  ["monday", "tuesday", "wednesday", "thursday", "friday", "saturday", "sunday"]

/-- The halves of the day. -/
def halfNames : List String := ["am", "pm"]

/-- The names of universal time. -/
def zoneNames : List String := ["utc", "gmt"]

/-- The first three letters of a name. -/
def abbreviation (name : String) : String :=
  String.ofList (name.toList.take 3)

/-- The names that a field takes, if it is a name. -/
def Field.names? : Field → Option (List String)
  | .monthName => some monthNames
  | .shortMonthName => some (monthNames.map abbreviation)
  | .weekday => some weekdayNames
  | .shortWeekday => some (weekdayNames.map abbreviation)
  | .half => some halfNames
  | .zone => some zoneNames
  | _ => none

/-! ## §3. Pieces. -/

/-- A piece of a format. -/
inductive Piece where
  | literal (c : Char)
  | blanks
  | field (f : Field)
  deriving Repr, DecidableEq

/-- The time of day in the order hour, minute, second. -/
def clockPieces : List Piece :=
  [.field .hour, .literal ':', .field .minute, .literal ':', .field .second]

/-- The pieces that the letter of a format stands for. -/
def piecesOfLetter? : Char → Option (List Piece)
  | '%' => some [.literal '%']
  | 'c' => some ([.field .shortWeekday, .blanks, .field .shortMonthName, .blanks, .field .day,
      .blanks] ++ clockPieces ++ [.blanks, .field .year])
  | 'x' => some [.field .month, .literal '/', .field .day, .literal '/', .field .shortYear]
  | 'X' => some clockPieces
  | c => (Field.ofLetter? c).map fun f => [.field f]

/-- A mark that has a meaning in patterns. -/
def isPatternMark (c : Char) : Bool :=
  "\\.^$*+?()\x7b\x7d[]|".toList.contains c

/-- Why a format is refused. -/
inductive FormatFault where
  | badDirective (c : Char)
  | strayPercent
  deriving Repr, DecidableEq

/-- A directive that is a blank or a mark of patterns is reported as a
percent sign. -/
def reportedDirective (c : Char) : Char :=
  if isBlank c || isPatternMark c then '%' else c

/-- The pieces of a format text; neighbouring blanks make one stretch. -/
def pieces : List Char → Except FormatFault (List Piece)
  | [] => .ok []
  | ['%'] => .error .strayPercent
  | '%' :: c :: rest =>
      match piecesOfLetter? c with
      | some ps => (ps ++ ·) <$> pieces rest
      | none => .error (.badDirective (reportedDirective c))
  | c :: rest =>
      if isBlank c then do
        match ← pieces rest with
        | .blanks :: ps => return .blanks :: ps
        | ps => return .blanks :: ps
      else (.literal c :: ·) <$> pieces rest

/-! ## §4. Formats as patterns. -/

/-- The pattern of the texts that a field takes. -/
def Field.pattern (f : Field) : String :=
  match f.names? with
  | some names => "|".intercalate names
  | none => match f with
    | .year | .isoYear => "\\d\\d\\d\\d"
    | .shortYear => "\\d\\d"
    | .month | .hourOfHalf => "1[0-2]|0[1-9]|[1-9]"
    | .day => "3[0-1]|[1-2]\\d|0[1-9]|[1-9]| [1-9]"
    | .dayOfYear =>
        "36[0-6]|3[0-5]\\d|[1-2]\\d\\d|0[1-9]\\d|00[1-9]|[1-9]\\d|0[1-9]|[1-9]"
    | .weekdayDigit => "[1-7]"
    | .sundayDigit => "[0-6]"
    | .sundayWeek | .mondayWeek => "5[0-3]|[0-4]\\d|\\d"
    | .isoWeek => "5[0-3]|0[1-9]|[1-4]\\d|\\d"
    | .hour => "2[0-3]|[0-1]\\d|\\d"
    | .minute => "[0-5]\\d|\\d"
    | .second => "6[0-1]|[0-5]\\d|\\d"
    | .fraction => "[0-9]\x7b1,6\x7d"
    | .offset => "[+-]\\d\\d:?[0-5]\\d(:?[0-5]\\d(\\.\\d\x7b1,6\x7d)?)?|(?-i:Z)"
    | _ => ""

/-- The groups of a field in the pattern; those of the seconds of an offset
and of their places count too. -/
def Field.groups : Field → Nat
  | .offset => 3
  | _ => 1

/-- The number of characters of a piece in the pattern: a field is a group
with its letter as the name. -/
def Piece.width : Piece → Nat
  | .literal c => if isPatternMark c then 2 else 1
  | .blanks => "\\s+".length
  | .field f => "(?P<".length + 1 + ">".length + f.pattern.length + ")".length

/-- A field that occurs twice: the numbers of its groups, and where the name
of the second one stands. -/
structure Repetition where
  field : Field
  group : Nat
  earlier : Nat
  position : Nat
  deriving Repr, DecidableEq

/-- What to say about a field that occurs twice. -/
def Repetition.message (r : Repetition) : String :=
  let number (n : Nat) : String := String.ofList (natText n)
  "redefinition of group name '" ++ String.singleton r.field.letter ++ "' as group "
    ++ number r.group ++ "; was group " ++ number r.earlier ++ " at position "
    ++ number r.position

/-- The first field that occurs twice, where `seen` are the fields before
with their groups, of which there are `groups`, and `position` characters
stand before the pieces. -/
def repetition? (seen : List (Field × Nat)) (groups position : Nat) :
    List Piece → Option Repetition
  | [] => none
  | .field f :: ps =>
      match seen.lookup f with
      | some earlier => some ⟨f, groups + 1, earlier, position + "(?P<".length⟩
      | none =>
          repetition? ((f, groups + 1) :: seen) (groups + f.groups)
            (position + (Piece.field f).width) ps
  | p :: ps => repetition? seen groups (position + p.width) ps

end SqlDialect.Calendar
