/-
  SqlDialect.Proofs.Calendar.Weeks
  ────────────────────────────────
  **WEEKS OF A YEAR.**

  Weeks that are counted from the first of January and go up by one with
  every Monday are counted by the Mondays since the year 1:

      week d = d / 7 - (days before its year) / 7 + 1

  So two dates of a year are in the same week of it exactly if their weeks
  begin with the same Monday, later dates have no smaller week, and no year
  has more than 54 weeks.
-/
import SqlDialect.Database.Laws
import SqlDialect.Proofs.Calendar.Days

namespace SqlDialect

open SqlDialect.Calendar

variable {n : WeekNumbering} {week : Date → Nat} {d d' : Date}

/-! ## §1. Mondays. -/

/-- The weekdays repeat every seven days. -/
theorem Calendar.Date.fromMonday_weekday (d : Date) : d.weekday.fromMonday = d.dayNumber % 7 :=
  Weekday.fromMonday_after d.dayNumber

/-- The Monday of a date is that of the seven days to which it belongs. -/
theorem Calendar.Date.monday_eq (d : Date) : d.monday = 7 * (d.dayNumber / 7) := by
  rw [Date.monday, d.fromMonday_weekday]
  omega

/-- Two dates have one Monday exactly if they are in one week. -/
theorem Calendar.Date.monday_eq_iff :
    d.monday = d'.monday ↔ d.dayNumber / 7 = d'.dayNumber / 7 := by
  rw [d.monday_eq, d'.monday_eq]
  omega

/-! ## §2. The number of a week. -/

namespace CountsWeeks

/-- **Weeks are counted by their Mondays.**  The induction is on the day of
the year: each day but the first has another one before it. -/
theorem week_eq (h : CountsWeeks n week) (hn : n.minDays ≤ 1)
    (hmonday : n.firstDay = "monday") (d : Date) :
    week d + daysBeforeYear d.year / 7 = d.dayNumber / 7 + 1 := by
  generalize hk : d.dayOfYear = k
  -- on the day of the year: a week is counted on from the day before
  induction k using Nat.strongRecOn generalizing d with
  | _ k ih =>
      by_cases hone : d.dayOfYear = 1
      · have hday := d.dayNumber_succ
        rw [h.first hn hone]
        omega
      · obtain ⟨d', hyear, hnext⟩ := Date.exists_previous hone
        have hday := d.dayNumber_succ
        have hday' := d'.dayNumber_succ
        have hbefore := ih d'.dayOfYear (by rw [hyear] at hday'; omega) d' rfl
        rw [hyear] at hbefore
        have hweek := h.next hn hyear.symm hnext
        rw [hmonday] at hweek
        by_cases hstart : d.weekday.name = "monday"
        · -- a Monday begins the next seven days
          rw [if_pos hstart] at hweek
          rw [Weekday.name_eq_monday_iff, d.fromMonday_weekday] at hstart
          omega
        · rw [if_neg hstart] at hweek
          rw [Weekday.name_eq_monday_iff, d.fromMonday_weekday] at hstart
          omega

/-- A year has no more than 54 weeks. -/
theorem week_le (h : CountsWeeks n week) (hn : n.minDays ≤ 1)
    (hmonday : n.firstDay = "monday") (d : Date) : week d ≤ 54 := by
  have hweek := h.week_eq hn hmonday d
  have hday := d.dayNumber_succ
  have hyear : d.dayOfYear ≤ 366 := by
    refine Nat.le_trans d.dayOfYear_le ?_
    unfold daysInYear
    split <;> decide
  omega

/-- **Weeks of a year are the same if their Mondays are.** -/
theorem week_eq_iff (h : CountsWeeks n week) (hn : n.minDays ≤ 1)
    (hmonday : n.firstDay = "monday") (hyear : d.year = d'.year) :
    week d = week d' ↔ d.monday = d'.monday := by
  have hweek := h.week_eq hn hmonday d
  have hweek' := h.week_eq hn hmonday d'
  rw [hyear] at hweek
  rw [Date.monday_eq_iff]
  omega

/-- Later days of a year are not in earlier weeks. -/
theorem week_le_week (h : CountsWeeks n week) (hn : n.minDays ≤ 1)
    (hmonday : n.firstDay = "monday") (hyear : d.year = d'.year)
    (hle : d.dayNumber ≤ d'.dayNumber) : week d ≤ week d' := by
  have hweek := h.week_eq hn hmonday d
  have hweek' := h.week_eq hn hmonday d'
  rw [hyear] at hweek
  omega

end CountsWeeks

end SqlDialect
