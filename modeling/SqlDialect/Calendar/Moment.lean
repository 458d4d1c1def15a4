/-
  SqlDialect.Calendar.Moment
  ────────────────────────────────
  **TIMES OF DAY AND MOMENTS.**

  A time of day to the microsecond, and the offset of a wall clock from
  universal time.  The places after the second are written as six digits,
  and only when they are not zero.  A moment is a date and a time of day;
  with an offset it is a point on the time line, without one it is a wall
  clock somewhere.
-/
import SqlDialect.Calendar.Date

namespace SqlDialect.Calendar

open SqlDialect.Number

/-! ## §1. Times of day. -/

/-- A time of day. -/
structure Clock where
  hour : Nat
  minute : Nat
  second : Nat
  microsecond : Nat
  isClock : hour < 24 ∧ minute < 60 ∧ second < 60 ∧ microsecond < 1000000
  deriving Repr, DecidableEq

/-- The time of day with the given fields; the first one out of range is refused. -/
def Clock.ofFields (h m s us : Int) : Except FieldError Clock :=
  if hh : ¬ (0 ≤ h ∧ h < 24) then .error .hour
  else if hm : ¬ (0 ≤ m ∧ m < 60) then .error .minute
  else if hs : ¬ (0 ≤ s ∧ s < 60) then .error .second
  else if hu : ¬ (0 ≤ us ∧ us < 1000000) then .error .microsecond
  else .ok ⟨h.toNat, m.toNat, s.toNat, us.toNat, by omega⟩

/-- The fields of a time of day give the time of day. -/
theorem Clock.ofFields_self (c : Clock) :
    Clock.ofFields c.hour c.minute c.second c.microsecond = .ok c := by
  have h := c.isClock
  unfold Clock.ofFields
  repeat' split
  all_goals first | (exfalso; omega) | skip
  cases c
  rfl

/-- The places after the second, `.ffffff`, if there are any. -/
def microsecondText (us : Nat) : List Char :=
  if us = 0 then [] else '.' :: paddedText 6 us

/-- The text `HH:MM:SS` with the places after the second. -/
def Clock.text (c : Clock) : List Char :=
  paddedText 2 c.hour ++ ':' :: paddedText 2 c.minute ++ ':' :: paddedText 2 c.second
    ++ microsecondText c.microsecond

/-- The microseconds since midnight. -/
def Clock.sinceMidnight (c : Clock) : Nat :=
  ((c.hour * 60 + c.minute) * 60 + c.second) * 1000000 + c.microsecond

/-! ## §2. Offsets. -/

/-- How far a wall clock is ahead of universal time, in microseconds. -/
structure Offset where
  microseconds : Int
  deriving Repr, DecidableEq

namespace Offset

/-- Universal time. -/
def utc : Offset := ⟨0⟩

/-- One day in microseconds. -/
def day : Int := 86400000000

/-- An offset of whole seconds and microseconds, less than a day either way. -/
def ofMicroseconds? (us : Int) : Option Offset :=
  if us.natAbs < day.natAbs then some ⟨us⟩ else none

/-- The text `+HH:MM`, with seconds and microseconds only where they count. -/
def text (o : Offset) : List Char :=
  let us := o.microseconds.natAbs
  let s := us / 1000000
  let rest := us % 1000000
  (if o.microseconds < 0 then '-' else '+') :: paddedText 2 (s / 3600)
    ++ ':' :: paddedText 2 (s / 60 % 60)
    ++ if s % 60 = 0 ∧ rest = 0 then [] else ':' :: paddedText 2 (s % 60) ++ microsecondText rest

end Offset

/-- Two times of day with their offsets are the same in universal time; one
with an offset is never the same as one without. -/
def Clock.sameTime (c : Clock) (o : Option Offset) (c' : Clock) (o' : Option Offset) : Bool :=
  match o, o' with
  | none, none => c == c'
  | some o, some o' =>
      c.sinceMidnight - o.microseconds == c'.sinceMidnight - o'.microseconds
        && c.microsecond == c'.microsecond
  | _, _ => false

/-! ## §3. Moments. -/

/-- A date with a time of day. -/
structure Moment where
  date : Date
  clock : Clock
  offset : Option Offset
  deriving Repr, DecidableEq

namespace Moment

/-- A moment with an offset as it is, one without as universal time. -/
def assumingUtc (m : Moment) : Moment :=
  match m.offset with
  | some _ => m
  | none => { m with offset := some .utc }

/-- The text of an offset, if there is one. -/
def offsetText (o : Option Offset) : List Char :=
  (o.map (·.text)).getD []

/-- Date and time of day with `sep` between them. -/
def text (sep : Char) (m : Moment) : List Char :=
  m.date.text ++ sep :: m.clock.text ++ offsetText m.offset

/-- The microseconds of universal time since the first of January of the
year 1, if there is an offset. -/
def instant? (m : Moment) : Option Int :=
  m.offset.map fun o => m.date.dayNumber * Offset.day + m.clock.sinceMidnight - o.microseconds

/-- The same point on the time line, or without offsets the same date and
time of day. -/
def same (m m' : Moment) : Bool :=
  match m.instant?, m'.instant? with
  | some t, some t' => t == t'
  | none, none => m.date == m'.date && m.clock == m'.clock
  | _, _ => false

/-- Afterwards there is an offset. -/
theorem isSome_assumingUtc (m : Moment) : m.assumingUtc.offset.isSome = true := by
  unfold assumingUtc
  split
  · next h => simp [h]
  · rfl

end Moment

end SqlDialect.Calendar
