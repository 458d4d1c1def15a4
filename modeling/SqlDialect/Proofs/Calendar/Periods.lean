/-
  SqlDialect.Proofs.Calendar.Periods
  ────────────────────────────────
  **PERIODS BEGIN AT MIDNIGHT OF THEIR FIRST DAY.**

  No day of a month comes before its first one, and no month of a quarter
  before month `3q - 2`, so the first instant of either is midnight of a
  first day.
-/
import SqlDialect.Proofs.Calendar.Days

namespace SqlDialect.Calendar

variable {d d' : Date}

/-- No instant of a later day is before midnight of an earlier one. -/
theorem instant_le_of_dayNumber_le {t : Timestamp} (h : d.dayNumber ≤ t.date.dayNumber) :
    Timestamp.instant ⟨d, .midnight⟩ ≤ t.instant := by
  have hday : d.dayNumber * microsecondsInDay ≤ t.date.dayNumber * microsecondsInDay :=
    Nat.mul_le_mul_right _ h
  have hmidnight : Clock.midnight.sinceMidnight = 0 := rfl
  rw [Timestamp.instant, Timestamp.instant, hmidnight, Nat.add_zero]
  exact Nat.le_trans hday (Nat.le_add_right _ _)

/-- The time of a day is less than a day. -/
theorem Clock.sinceMidnight_lt (c : Clock) : c.sinceMidnight < microsecondsInDay := by
  obtain ⟨hh, hm, hs, hu⟩ := c.isClock
  unfold sinceMidnight microsecondsInDay
  omega

/-- A clock is known from the microseconds since midnight. -/
theorem Clock.eq_of_sinceMidnight_eq {c c' : Clock} (h : c.sinceMidnight = c'.sinceMidnight) :
    c = c' := by
  obtain ⟨hr, mi, se, us, hc⟩ := c
  obtain ⟨hr', mi', se', us', hc'⟩ := c'
  have hfields : hr = hr' ∧ mi = mi' ∧ se = se' ∧ us = us' := by
    unfold sinceMidnight at h
    dsimp only at h
    omega
  obtain ⟨rfl, rfl, rfl, rfl⟩ := hfields
  rfl

/-- **The instant determines the timestamp.** -/
theorem Timestamp.eq_of_instant_eq {t t' : Timestamp} (h : t.instant = t'.instant) : t = t' := by
  have hc := t.clock.sinceMidnight_lt
  have hc' := t'.clock.sinceMidnight_lt
  have hday : t.date.dayNumber = t'.date.dayNumber := by
    unfold instant microsecondsInDay at *
    omega
  have hclock : t.clock.sinceMidnight = t'.clock.sinceMidnight := by
    unfold instant at h
    rw [hday] at h
    exact Nat.add_left_cancel h
  obtain ⟨d, c⟩ := t
  obtain ⟨d', c'⟩ := t'
  obtain rfl : d = d' := Date.eq_of_dayNumber_eq hday
  obtain rfl : c = c' := Clock.eq_of_sinceMidnight_eq hclock
  rfl

/-- The first day of a month comes before the days of that month and of all later ones. -/
theorem Date.dayNumber_firstOf_le {m : Nat} (hm : 1 ≤ m ∧ m ≤ 12) (hyear : d.year = d'.year)
    (h : m ≤ d'.month) : (d.firstOf m hm).dayNumber ≤ d'.dayNumber := by
  have hmonths : daysInMonths d'.year (m - 1) ≤ daysInMonths d'.year (d'.month - 1) :=
    daysInMonths_le d'.year (Nat.sub_le_sub_right h 1)
  show daysBeforeYear d.year + daysInMonths d.year (m - 1) + (1 - 1)
    ≤ daysBeforeYear d'.year + daysInMonths d'.year (d'.month - 1) + (d'.day - 1)
  rw [hyear]
  omega

/-- A quarter lies between its months. -/
theorem Date.quarter_bounds (d : Date) :
    1 ≤ d.quarter ∧ d.quarter ≤ 4 ∧ 3 * d.quarter - 2 ≤ d.month := by
  have hm := d.isDate.2.1
  unfold quarter
  omega

/-- The first day of a quarter is in it. -/
theorem Date.quarter_firstOfQuarter (d : Date) : d.firstOfQuarter.quarter = d.quarter := by
  have hq := d.quarter_bounds
  show (3 * d.quarter - 2 - 1) / 3 + 1 = d.quarter
  omega

namespace Period

/-- **The first instant of a period is midnight of its first day.** -/
theorem isFirstInstant_midnight (p : Period) (t : Timestamp) :
    p.IsFirstInstant t ⟨p.firstDay t.date, .midnight⟩ := by
  cases p with
  | month =>
      refine ⟨⟨rfl, rfl⟩, fun t' h => instant_le_of_dayNumber_le ?_⟩
      exact Date.dayNumber_firstOf_le t.date.isDate.2.1 h.1.symm (Nat.le_of_eq h.2.symm)
  | quarter =>
      refine ⟨⟨rfl, t.date.quarter_firstOfQuarter⟩, fun t' h => instant_le_of_dayNumber_le ?_⟩
      have hq := t.date.quarter_bounds
      have hle : 3 * t.date.quarter - 2 ≤ t'.date.month := by
        rw [← h.2]
        exact t'.date.quarter_bounds.2.2
      exact Date.dayNumber_firstOf_le (by omega) h.1.symm hle

/-- A period has one first instant. -/
theorem IsFirstInstant.eq {p : Period} {t first : Timestamp} (h : p.IsFirstInstant t first) :
    first = ⟨p.firstDay t.date, .midnight⟩ := by
  have hmidnight := p.isFirstInstant_midnight t
  exact Timestamp.eq_of_instant_eq
    (Nat.le_antisymm (h.2 _ hmidnight.1) (hmidnight.2 _ h.1))

end Period

end SqlDialect.Calendar
