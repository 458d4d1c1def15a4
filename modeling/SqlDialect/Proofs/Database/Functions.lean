/-
  SqlDialect.Proofs.Database.Functions
  ────────────────────────────────
  **THE DATABASES DO WHAT IS RELIED ON.**

  The functions as they are computed have the properties that the buckets
  take from HANA and from the baseline: texts of dates are read back, periods
  are truncated to their first instants and weeks go up by one on Mondays.
-/
import SqlDialect.Database.Functions
import SqlDialect.Proofs.Calendar.Periods
import SqlDialect.Proofs.Calendar.Weeks
import SqlDialect.Proofs.Number.Digits
import SqlDialect.Proofs.Text.Segment

namespace SqlDialect

open SqlDialect.Sql SqlDialect.Calendar SqlDialect.Number SqlDialect.Text

variable {v w : Datum} {d d' : Date} {s t : String}

/-! ## §1. Numbers. -/

/-- The digits of a number have its value. -/
theorem digitsValue_natText (n : Nat) : digitsValue (natText n) = n :=
  foldl_natText n

/-- Leading zeros add no value. -/
theorem digitsValue_paddedText (width n : Nat) : digitsValue (paddedText width n) = n :=
  foldl_paddedText width n

/-- A number is known from its decimal text. -/
theorem numberOf_natText (n : Nat) : numberOf (String.ofList (natText n)) = some (.int n) := by
  have hdigits : (natText n).all Char.isDigit = true :=
    List.all_eq_true.2 fun c hc => isDigit_of_mem_natText hc
  rw [numberOf, String.toList_ofList, if_pos hdigits, digitsValue_natText]

/-- Values are concatenated as their plain texts. -/
theorem operateOn_concat (hv : v.plain? = some s) (hw : w.plain? = some t) :
    operateOn .concat v w = some (.text (s ++ t)) := by
  rw [operateOn, hv, hw]
  rfl

/-- A function of dates is applied to any value that gives a date. -/
theorem ofDate_of_date? (h : v.date? = some d) (f : Date → Datum) : ofDate f v = some (f d) := by
  rw [ofDate, h]
  rfl

/-! ## §2. Texts of dates. -/

/-- No dash stands in a number, so none is taken for one between fields. -/
theorem dash_notMem_natText (n : Nat) : '-' ∉ natText n := fun h =>
  absurd (isDigit_of_mem_natText h) (by decide)

/-- No dash stands in a padded number. -/
theorem dash_notMem_paddedText (width n : Nat) : '-' ∉ paddedText width n := by
  rw [paddedText, List.mem_append, not_or]
  exact ⟨fun h => absurd (List.eq_of_mem_replicate h) (by decide), dash_notMem_natText n⟩

/-- **A date is read back from its texts.** -/
theorem readDate?_of_isWrittenAs {s : List Char} (h : d.IsWrittenAs s) : readDate? s = some d := by
  obtain ⟨month, hmonth, rfl⟩ := h
  have hdash : '-' ∉ month ∧ digitsValue month = d.month := by
    obtain rfl | rfl := hmonth
    · exact ⟨dash_notMem_natText _, digitsValue_natText _⟩
    · exact ⟨dash_notMem_paddedText _ _, digitsValue_paddedText _ _⟩
  have hsplit : splitOn '-' (paddedText 4 d.year ++ '-' :: month ++ '-' :: paddedText 2 d.day)
      = [paddedText 4 d.year, month, paddedText 2 d.day] := by
    rw [List.append_assoc, List.cons_append, splitOn_append (dash_notMem_paddedText _ _),
      splitOn_append hdash.1, splitOn_of_notMem (dash_notMem_paddedText _ _)]
  rw [readDate?, hsplit]
  dsimp only
  rw [digitsValue_paddedText, digitsValue_paddedText, hdash.2, Date.ofFields_self]
  rfl

/-! ## §3. Weeks. -/

/-- The weeks that begin on Monday are counted so. -/
theorem countsWeeks_week : CountsWeeks Driver.hana.weekNumbering Date.week where
  first := by
    intro d _ hone
    have hday := d.dayNumber_succ
    unfold Date.week
    omega
  next := by
    intro d d' _ hyear hnext
    have hbefore := d.daysBeforeYear_le_dayNumber
    have hstart : d'.weekday.name = "monday" ↔ d'.dayNumber % 7 = 0 := by
      rw [Weekday.name_eq_monday_iff, d'.fromMonday_weekday]
    unfold Date.week
    rw [hyear]
    -- the count goes up at a Monday and stays on other days
    by_cases hmonday : d'.weekday.name = Driver.hana.weekNumbering.firstDay
    · have hzero := hstart.1 hmonday
      rw [if_pos hmonday]
      omega
    · have hzero : ¬ d'.dayNumber % 7 = 0 := fun h => hmonday (hstart.2 h)
      rw [if_neg hmonday]
      omega

/-! ## §4. The databases. -/

/-- The functions of the dialect satisfy the laws on numbers. -/
theorem hanaNumbers_hana : HanaNumbers .hana where
  number := numberOf_natText
  add _ _ := rfl
  sub _ _ := rfl
  mul _ _ := rfl
  concat := operateOn_concat
  year h := ofDate_of_date? h _

/-- The functions of the dialect satisfy the laws on dates. -/
theorem hanaDates_hana : HanaDates .hana where
  toHanaNumbers := hanaNumbers_hana
  minute _ := rfl
  hour _ := rfl
  toDate h := ofDate_of_date? h _
  -- a date that is written with a short month or day is read too
  readDate := by
    intro d s h
    show (readDate? (String.ofList s).toList).map Datum.date = _
    rw [String.toList_ofList, readDate?_of_isWrittenAs h]
    rfl
  toChar h := ofDate_of_date? h _
  weekday h := ofDate_of_date? h _
  dayOfMonth h := ofDate_of_date? h _
  dayOfYear h := ofDate_of_date? h _
  month h := ofDate_of_date? h _
  quarter h := ofDate_of_date? h _
  right := by
    intro s n _
    show some (Datum.text (String.ofList ((String.ofList s).toList.drop
      ((String.ofList s).toList.length - n)))) = _
    rw [String.toList_ofList]
  toInteger := numberOf_natText
  mod := by
    intro a b _
    rfl

/-- The functions of the dialect satisfy the laws on weeks, with the weeks of
the calendar. -/
theorem hanaWeeks_hana : HanaWeeks .hana Date.week where
  toHanaNumbers := hanaNumbers_hana
  counts := countsWeeks_week
  week h := ofDate_of_date? h _
  toVarchar _ := rfl
  lpad := by
    intro s width c _
    show (String.ofList [c]).toList.head?.map _ = _
    rw [String.toList_ofList, String.toList_ofList]
    rfl

/-- The standard functions satisfy the laws on dates. -/
theorem standardDates_standard : StandardDates .standard where
  number := numberOf_natText
  add _ _ := rfl
  minute _ := rfl
  hour _ := rfl
  dayOfWeek h := ofDate_of_date? h _
  day h := ofDate_of_date? h _
  dayOfYear h := ofDate_of_date? h _
  month h := ofDate_of_date? h _
  quarter h := ofDate_of_date? h _
  castDate h := ofDate_of_date? h _
  truncate := by
    intro p t first h
    rw [h.eq]
    cases p <;> rfl

end SqlDialect
