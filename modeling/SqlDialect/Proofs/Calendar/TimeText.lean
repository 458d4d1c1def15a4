/-
  SqlDialect.Proofs.Calendar.TimeText
  ────────────────────────────────
  **TIME TEXTS.**

  A text in the usual format is read exactly if it is made of a date, blanks
  and a time of day with places behind the second,

      year-month-day⟨blanks⟩hour:minute:second.places

  each part in one of its shapes, and the date and the time of day exist.
  Then it stands for the wall clock that its numbers tell.
-/
import SqlDialect.Calendar.Formatted
import SqlDialect.Proofs.Calendar.Capture
import SqlDialect.Proofs.Steps

namespace SqlDialect.Calendar

open SqlDialect.Text SqlDialect.Number

/-! ## §1. The parts of a time text. -/

/-- The format in which databases are asked for their time. -/
def usualFormat : String := "%Y-%m-%d %H:%M:%S.%f"

/-- The pieces of the usual format. -/
def usualPieces : List Piece :=
  [.field .year, .literal '-', .field .month, .literal '-', .field .day, .blanks, .field .hour,
    .literal ':', .field .minute, .literal ':', .field .second, .literal '.', .field .fraction]

/-- The usual format, cut into its pieces. -/
theorem pieces_usualFormat : pieces usualFormat.toList = .ok usualPieces := by
  decide +kernel

/-- The parts of a time text in the usual format, without the marks. -/
structure TimeParts where
  year : List Char
  month : List Char
  day : List Char
  gap : List Char
  hour : List Char
  minute : List Char
  second : List Char
  places : List Char

namespace TimeParts

/-- The parts with the marks between them. -/
def text (p : TimeParts) : List Char :=
  p.year ++ '-' :: (p.month ++ '-' :: (p.day ++ (p.gap ++ (p.hour ++ ':' :: (p.minute ++ ':' ::
    (p.second ++ '.' :: p.places))))))

/-- What the fields of the usual format take. -/
def captures (p : TimeParts) : Captures :=
  [(.year, p.year), (.month, p.month), (.day, p.day), (.hour, p.hour), (.minute, p.minute),
    (.second, p.second), (.fraction, p.places)]

/-- Each part has one of its shapes. -/
structure IsWellFormed (p : TimeParts) : Prop where
  year : (Piece.field .year).Takes p.year
  month : (Piece.field .month).Takes p.month
  day : (Piece.field .day).Takes p.day
  gap : Piece.blanks.Takes p.gap
  hour : (Piece.field .hour).Takes p.hour
  minute : (Piece.field .minute).Takes p.minute
  second : (Piece.field .second).Takes p.second
  places : (Piece.field .fraction).Takes p.places

end TimeParts

/-- An hour begins with a digit. -/
theorem startsWith_of_hour {ps : List Piece} {s : List Char}
    (h : (takeAll? (.field .hour :: ps) s).isSome = true) : StartsWith (!isBlank ·) s := by
  obtain ⟨x, hx⟩ := Option.isSome_iff_exists.1 h
  obtain ⟨⟨t, u⟩, hmem, -⟩ := List.exists_of_findSome?_eq_some hx
  obtain ⟨rfl, ht⟩ := (Piece.mem_take_iff rfl).1 hmem
  obtain ⟨shape, hshape, hfits⟩ := (Piece.takes_field_iff (f := .hour) nofun).1 ht
  have hfirst : ∀ shape ∈ Field.hour.shapes, ∀ p ∈ shape.head?, p ≠ .space := by decide
  cases hfits with
  | nil => exact absurd hshape (by decide)
  | @cons p c places digits hc _ =>
      have hblank : isBlank c = false :=
        isBlank_of_digit (digit_of_admits (hfirst _ hshape p rfl) hc)
      exact ⟨c, digits ++ u, rfl, congrArg Bool.not hblank⟩

/-- **The usual format takes the parts of a time text.** -/
theorem takeAll?_usual_iff {s : List Char} {captures : Captures} :
    takeAll? usualPieces s = some (captures, []) ↔
      ∃ p : TimeParts, p.IsWellFormed ∧ s = p.text ∧ captures = p.captures := by
  constructor
  · -- each number is cut off at the mark behind it, from the front
    intro h
    obtain ⟨year, s₁, c₁, rfl, hyear, h₁, rfl⟩ :=
      (takeAll?_number_mark_iff (by decide) (by decide)).1 h
    obtain ⟨month, s₂, c₂, rfl, hmonth, h₂, rfl⟩ :=
      (takeAll?_number_mark_iff (by decide) (by decide)).1 h₁
    obtain ⟨day, gap, s₃, c₃, rfl, hday, hgap, h₃, rfl⟩ :=
      (takeAll?_number_blanks_iff (by decide) fun _ => startsWith_of_hour).1 h₂
    obtain ⟨hour, s₄, c₄, rfl, hhour, h₄, rfl⟩ :=
      (takeAll?_number_mark_iff (by decide) (by decide)).1 h₃
    obtain ⟨minute, s₅, c₅, rfl, hminute, h₅, rfl⟩ :=
      (takeAll?_number_mark_iff (by decide) (by decide)).1 h₄
    obtain ⟨second, s₆, c₆, rfl, hsecond, h₆, rfl⟩ :=
      (takeAll?_number_mark_iff (by decide) (by decide)).1 h₅
    obtain ⟨hplaces, rfl⟩ := takeAll?_fraction_iff.1 h₆
    exact ⟨⟨year, month, day, gap, hour, minute, second, s₆⟩,
      ⟨hyear, hmonth, hday, hgap, hhour, hminute, hsecond, hplaces⟩, rfl, rfl⟩
  -- conversely the text is taken part by part
  · rintro ⟨p, hp, rfl, rfl⟩
    refine (takeAll?_number_mark_iff (by decide) (by decide)).2 ⟨_, _, _, rfl, hp.year, ?_, rfl⟩
    refine (takeAll?_number_mark_iff (by decide) (by decide)).2 ⟨_, _, _, rfl, hp.month, ?_, rfl⟩
    refine (takeAll?_number_blanks_iff (by decide) fun _ => startsWith_of_hour).2
      ⟨_, _, _, _, rfl, hp.day, hp.gap, ?_, rfl⟩
    refine (takeAll?_number_mark_iff (by decide) (by decide)).2 ⟨_, _, _, rfl, hp.hour, ?_, rfl⟩
    refine (takeAll?_number_mark_iff (by decide) (by decide)).2 ⟨_, _, _, rfl, hp.minute, ?_, rfl⟩
    refine (takeAll?_number_mark_iff (by decide) (by decide)).2 ⟨_, _, _, rfl, hp.second, ?_, rfl⟩
    exact takeAll?_fraction_iff.2 ⟨hp.places, rfl⟩

/-! ## §2. What the parts tell. -/

/-- A date is made of its fields exactly if it has them. -/
theorem Date.ofFields_eq_ok_iff {y m d : Nat} {date : Date} :
    Date.ofFields y m d = .ok date ↔ date.year = y ∧ date.month = m ∧ date.day = d := by
  constructor
  · intro h
    unfold Date.ofFields at h
    split at h
    · obtain rfl := Except.ok.inj h
      exact ⟨rfl, rfl, rfl⟩
    · split at h
      · cases h
      · split at h <;> cases h
  · rintro ⟨rfl, rfl, rfl⟩
    exact date.ofFields_self

/-- A clock is made of its fields exactly if it has them. -/
theorem Clock.ofFields_eq_ok_iff {h m s us : Nat} {clock : Clock} :
    Clock.ofFields h m s us = .ok clock ↔
      clock.hour = h ∧ clock.minute = m ∧ clock.second = s ∧ clock.microsecond = us := by
  constructor
  · intro hok
    unfold Clock.ofFields at hok
    repeat' split at hok
    case isFalse.isFalse.isFalse.isFalse =>
      obtain rfl := Except.ok.inj hok
      exact ⟨rfl, rfl, rfl, rfl⟩
    all_goals cases hok
  · rintro ⟨rfl, rfl, rfl, rfl⟩
    exact clock.ofFields_self

/-- The numbers of the parts are those of a wall clock. -/
structure TimeParts.Tells (p : TimeParts) (date : Date) (clock : Clock) : Prop where
  year : date.year = digitsValue p.year
  month : date.month = digitsValue p.month
  day : date.day = digitsValue p.day
  hour : clock.hour = digitsValue p.hour
  minute : clock.minute = digitsValue p.minute
  second : clock.second = digitsValue p.second
  /-- Up to six places are read as microseconds. -/
  microsecond : clock.microsecond = microseconds (p.places.filterMap digit?)

/-- What is noted of the captures. -/
theorem moment_of_captures (p : TimeParts) :
    (TimeNotes.ofCaptures p.captures >>= TimeNotes.moment) = (do
      let date ← (Date.ofFields (digitsValue p.year) (digitsValue p.month)
        (digitsValue p.day)).mapError .field
      let clock ← (Clock.ofFields (digitsValue p.hour) (digitsValue p.minute)
        (digitsValue p.second) (microseconds (p.places.filterMap digit?))).mapError .field
      return ⟨date, clock, none⟩ : Except TimeFault Moment) := by
  rfl

/-! ## §3. Reading a time text. -/

/-- The text stands for the wall clock in the usual format. -/
def IsTimeText (text : List Char) (date : Date) (clock : Clock) : Prop :=
  ∃ p : TimeParts, p.IsWellFormed ∧ text = p.text ∧ p.Tells date clock

/-- A text is taken whole or refused. -/
theorem ofFormat_usual (text : List Char) :
    Moment.ofFormat usualFormat.toList text = match takeAll? usualPieces text with
      | none => .error .mismatch
      | some (captures, rest) =>
          if rest.isEmpty then TimeNotes.ofCaptures captures >>= TimeNotes.moment
          else .error (.leftover rest) := by
  have hpieces : (pieces usualFormat.toList).mapError TimeFault.format = .ok usualPieces := by
    rw [pieces_usualFormat]
    rfl
  have hunrepeated : repetition? [] 0 0 usualPieces = none := by decide
  rw [Moment.ofFormat, hpieces, ok_bind, hunrepeated]
  cases takeAll? usualPieces text with
  | none => rfl
  | some x =>
      obtain ⟨captures, rest⟩ := x
      cases rest <;> rfl

/-- **Exactly the time texts are read**, as the wall clock that they tell. -/
theorem ofFormat_usual_eq_ok_iff {text : List Char} {m : Moment} :
    Moment.ofFormat usualFormat.toList text = .ok m ↔
      ∃ date clock, IsTimeText text date clock ∧ m = ⟨date, clock, none⟩ := by
  rw [ofFormat_usual]
  constructor
  · intro h
    split at h
    · exact absurd h nofun
    next captures rest htake =>
      cases rest with
      | cons c rest => exact absurd h nofun
      | nil =>
          -- the text is that of its parts, and they are the fields
          obtain ⟨p, hp, rfl, rfl⟩ := takeAll?_usual_iff.1 htake
          replace h := (moment_of_captures p).symm.trans h
          obtain ⟨date, hdate, h⟩ := exists_of_bind_eq_ok h
          obtain ⟨clock, hclock, h⟩ := exists_of_bind_eq_ok h
          obtain ⟨hy, hm, hd⟩ := Date.ofFields_eq_ok_iff.1 (ok_of_mapError_eq_ok hdate)
          obtain ⟨hh, hmin, hs, hus⟩ := Clock.ofFields_eq_ok_iff.1 (ok_of_mapError_eq_ok hclock)
          exact ⟨date, clock, ⟨p, hp, rfl, ⟨hy, hm, hd, hh, hmin, hs, hus⟩⟩,
            (Except.ok.inj h).symm⟩
  · rintro ⟨date, clock, ⟨p, hp, rfl, htells⟩, rfl⟩
    rw [takeAll?_usual_iff.2 ⟨p, hp, rfl, rfl⟩]
    refine (moment_of_captures p).trans ?_
    rw [Date.ofFields_eq_ok_iff.2 ⟨htells.year, htells.month, htells.day⟩,
      Clock.ofFields_eq_ok_iff.2 ⟨htells.hour, htells.minute, htells.second, htells.microsecond⟩]
    rfl

/-- Any other text is refused for its shape, for what is left of it or for a
field out of range. -/
theorem fault_of_ofFormat_usual {text : List Char} {fault : TimeFault}
    (h : Moment.ofFormat usualFormat.toList text = .error fault) :
    fault = .mismatch ∨ (∃ rest, fault = .leftover rest) ∨ ∃ e, fault = .field e := by
  rw [ofFormat_usual] at h
  split at h
  · exact .inl (Except.error.inj h).symm
  next captures rest htake =>
    cases rest with
    | cons c rest => exact .inr (.inl ⟨_, (Except.error.inj h).symm⟩)
    | nil =>
        obtain ⟨p, -, -, rfl⟩ := takeAll?_usual_iff.1 htake
        replace h := (moment_of_captures p).symm.trans h
        refine .inr (.inr ?_)
        -- the fields are no date, or no time of day
        obtain h | ⟨date, -, h⟩ := error_of_bind_eq_error h
        · obtain ⟨e, -, hfield⟩ := exists_of_mapError_eq_error h
          exact ⟨e, hfield⟩
        · obtain h | ⟨clock, -, h⟩ := error_of_bind_eq_error h
          · obtain ⟨e, -, hfield⟩ := exists_of_mapError_eq_error h
            exact ⟨e, hfield⟩
          · exact absurd h nofun

end SqlDialect.Calendar
