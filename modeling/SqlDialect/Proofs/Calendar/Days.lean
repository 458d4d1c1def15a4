/-
  SqlDialect.Proofs.Calendar.Days
  ────────────────────────────────
  **DAYS ARE COUNTED WITHOUT GAPS.**

  Every year adds its days to those before it, and every month its days to
  those of the year, so the number of a date lies between the first days of
  its year and of the next:

      daysBeforeYear y ≤ dayNumber < daysBeforeYear (y + 1)
-/
import SqlDialect.Calendar.Period

namespace SqlDialect.Calendar

/-! ## §1. Years. -/

/-- One if the number divides the year, else zero. -/
def dividesOnce (m y : Nat) : Nat := if y % m = 0 then 1 else 0

/-- A leap year has a day more: every fourth year, but no full century unless it
is a fourth one. -/
theorem daysInYear_eq (y : Nat) :
    daysInYear y = 365 + dividesOnce 4 y - dividesOnce 100 y + dividesOnce 400 y := by
  unfold daysInYear isLeapYear dividesOnce
  simp only [Bool.and_eq_true, Bool.or_eq_true, beq_iff_eq, bne_iff_ne]
  repeat' split
  all_goals omega

/-- A quotient goes up where the divisor divides. -/
theorem succ_div_eq (m k : Nat) : (k + 1) / m = k / m + dividesOnce m (k + 1) := by
  unfold dividesOnce
  simp only [Nat.succ_div, Nat.dvd_iff_mod_eq_zero]

/-- A year adds its days. -/
theorem daysBeforeYear_succ {y : Nat} (hy : 1 ≤ y) :
    daysBeforeYear (y + 1) = daysBeforeYear y + daysInYear y := by
  obtain ⟨k, rfl⟩ : ∃ k, y = k + 1 := ⟨y - 1, by omega⟩
  -- a century divides no year that four does not divide
  have hcentury : dividesOnce 100 (k + 1) ≤ dividesOnce 4 (k + 1) := by
    unfold dividesOnce
    repeat' split
    all_goals omega
  have hquotient : k / 100 ≤ k / 4 := Nat.div_le_div_left (by decide) (by decide)
  rw [daysInYear_eq]
  unfold daysBeforeYear
  rw [Nat.add_sub_cancel, Nat.add_sub_cancel, succ_div_eq, succ_div_eq, succ_div_eq]
  omega

/-- A later year starts no earlier. -/
theorem daysBeforeYear_le {y y' : Nat} (hy : 1 ≤ y) (h : y ≤ y') :
    daysBeforeYear y ≤ daysBeforeYear y' := by
  induction h with
  | refl => exact Nat.le_refl _
  | @step k hk ih =>
      have hsucc := daysBeforeYear_succ (Nat.le_trans hy hk)
      exact Nat.le_trans ih (hsucc ▸ Nat.le_add_right _ _)

/-! ## §2. Months. -/

/-- A later month has more days before it. -/
theorem daysInMonths_le (y : Nat) {i j : Nat} (h : i ≤ j) :
    daysInMonths y i ≤ daysInMonths y j := by
  induction h with
  | refl => exact Nat.le_refl _
  | @step k _ ih => exact Nat.le_trans ih (Nat.le_add_right _ _)

/-- The months of a year are the year. -/
theorem daysInMonths_twelve (y : Nat) : daysInMonths y 12 = daysInYear y := by
  have hfebruary : daysInYear y = 337 + daysInMonth y 2 := by
    unfold daysInYear daysInMonth
    rw [if_pos rfl]
    split <;> rfl
  -- all months but February are as long in every year
  show 0 + daysInMonth y 1 + daysInMonth y 2 + daysInMonth y 3 + daysInMonth y 4 + daysInMonth y 5
    + daysInMonth y 6 + daysInMonth y 7 + daysInMonth y 8 + daysInMonth y 9 + daysInMonth y 10
    + daysInMonth y 11 + daysInMonth y 12 = _
  rw [hfebruary]
  show 0 + 31 + daysInMonth y 2 + 31 + 30 + 31 + 30 + 31 + 31 + 30 + 31 + 30 + 31 = _
  omega

/-! ## §3. Dates. -/

namespace Date

variable {d d' : Date}

/-- The days of the years before and those of the year. -/
theorem dayNumber_succ (d : Date) : d.dayNumber + 1 = daysBeforeYear d.year + d.dayOfYear := by
  have hday : 1 ≤ d.day := d.isDate.2.2.1
  unfold dayNumber dayOfYear
  omega

/-- The days of a year are counted from one. -/
theorem one_le_dayOfYear (d : Date) : 1 ≤ d.dayOfYear :=
  Nat.le_trans d.isDate.2.2.1 (Nat.le_add_left _ _)

/-- No day stands behind the last one of its year. -/
theorem dayOfYear_le (d : Date) : d.dayOfYear ≤ daysInYear d.year := by
  obtain ⟨-, ⟨hm, hm'⟩, -, hd⟩ := d.isDate
  have hmonth : daysInMonths d.year d.month
      = daysInMonths d.year (d.month - 1) + daysInMonth d.year d.month := by
    obtain ⟨k, hk⟩ : ∃ k, d.month = k + 1 := ⟨d.month - 1, by omega⟩
    rw [hk]
    rfl
  have hyear : daysInMonths d.year d.month ≤ daysInMonths d.year 12 := daysInMonths_le d.year hm'
  rw [daysInMonths_twelve] at hyear
  unfold dayOfYear
  omega

/-- A date comes before the next year. -/
theorem dayNumber_lt (d : Date) : d.dayNumber < daysBeforeYear (d.year + 1) := by
  have hsucc := daysBeforeYear_succ d.isDate.1.1
  have hday := d.dayNumber_succ
  have hle := d.dayOfYear_le
  omega

/-- A day stands behind all days of the years before. -/
theorem daysBeforeYear_le_dayNumber (d : Date) : daysBeforeYear d.year ≤ d.dayNumber := by
  have hday := d.dayNumber_succ
  have hone := d.one_le_dayOfYear
  omega

/-- **Later days are not in earlier years.** -/
theorem year_le_of_dayNumber_le (h : d.dayNumber ≤ d'.dayNumber) : d.year ≤ d'.year := by
  refine Nat.le_of_not_lt fun hlt => ?_
  have hyears : daysBeforeYear (d'.year + 1) ≤ daysBeforeYear d.year :=
    daysBeforeYear_le (Nat.le_add_left _ _) hlt
  have hafter := d'.dayNumber_lt
  have hbefore := d.daysBeforeYear_le_dayNumber
  omega

/-- In a year, a date of an earlier month comes first. -/
theorem dayNumber_lt_of_month_lt (hyear : d.year = d'.year) (h : d.month < d'.month) :
    d.dayNumber < d'.dayNumber := by
  obtain ⟨-, ⟨hm, -⟩, hd, hd'⟩ := d.isDate
  obtain ⟨k, hk⟩ : ∃ k, d.month = k + 1 := ⟨d.month - 1, by omega⟩
  have hmonth : daysInMonths d.year (k + 1) = daysInMonths d.year k + daysInMonth d.year (k + 1) :=
    rfl
  have hmonths : daysInMonths d.year (k + 1) ≤ daysInMonths d.year (d'.month - 1) :=
    daysInMonths_le d.year (by omega)
  rw [hk] at hd'
  rw [dayNumber, dayNumber, ← hyear, hk, Nat.add_sub_cancel]
  omega

/-- **The number of a date determines it.** -/
theorem eq_of_dayNumber_eq (h : d.dayNumber = d'.dayNumber) : d = d' := by
  have hyear : d.year = d'.year :=
    Nat.le_antisymm (year_le_of_dayNumber_le (Nat.le_of_eq h))
      (year_le_of_dayNumber_le (Nat.le_of_eq h.symm))
  -- days of different months do not have one number
  have hmonth : d.month = d'.month := by
    refine Nat.le_antisymm (Nat.le_of_not_lt fun hlt => ?_) (Nat.le_of_not_lt fun hlt => ?_)
    · exact absurd (dayNumber_lt_of_month_lt hyear.symm hlt) (by omega)
    · exact absurd (dayNumber_lt_of_month_lt hyear hlt) (by omega)
  have hday : d.day = d'.day := by
    have hd := d.isDate.2.2.1
    have hd' := d'.isDate.2.2.1
    rw [dayNumber, dayNumber, hyear, hmonth] at h
    omega
  obtain ⟨y, m, k, _⟩ := d
  obtain ⟨y', m', k', _⟩ := d'
  obtain rfl : y = y' := hyear
  obtain rfl : m = m' := hmonth
  obtain rfl : k = k' := hday
  rfl

/-- Every day of a year but the first comes after another one of it. -/
theorem exists_previous (h : d.dayOfYear ≠ 1) :
    ∃ d' : Date, d'.year = d.year ∧ d.dayNumber = d'.dayNumber + 1 := by
  obtain ⟨hy, ⟨hm, hm'⟩, hd, hd'⟩ := d.isDate
  by_cases hday : d.day = 1
  · -- the last day of the month before, as there is one
    have hmonth : 1 < d.month := by
      refine Nat.lt_of_le_of_ne hm fun hone => h ?_
      rw [dayOfYear, ← hone, hday]
      rfl
    obtain ⟨k, hk⟩ : ∃ k, d.month = k + 2 := ⟨d.month - 2, by omega⟩
    have hlast : 1 ≤ daysInMonth d.year (k + 1) := by
      unfold daysInMonth
      repeat' split
      all_goals omega
    refine ⟨⟨d.year, k + 1, daysInMonth d.year (k + 1), hy, by omega, hlast, Nat.le_refl _⟩,
      rfl, ?_⟩
    show _ = daysBeforeYear d.year + daysInMonths d.year k + (daysInMonth d.year (k + 1) - 1) + 1
    rw [dayNumber, hk, hday]
    show daysBeforeYear d.year + (daysInMonths d.year k + daysInMonth d.year (k + 1)) + (1 - 1) = _
    omega
  · refine ⟨⟨d.year, d.month, d.day - 1, hy, ⟨hm, hm'⟩, by omega, by omega⟩, rfl, ?_⟩
    show daysBeforeYear d.year + daysInMonths d.year (d.month - 1) + (d.day - 1)
      = daysBeforeYear d.year + daysInMonths d.year (d.month - 1) + (d.day - 1 - 1) + 1
    omega

end Date

end SqlDialect.Calendar
