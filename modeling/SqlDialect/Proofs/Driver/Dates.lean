/-
  SqlDialect.Proofs.Driver.Dates
  ────────────────────────────────
  **BUCKETS OF HANA AND OF THE BASELINE.**

  HANA formats a date to a text and reads the text back where the baseline
  truncates, and it counts weekdays from Monday where the baseline counts
  them from Sunday.  Both come to the same bucket: a period as its first day,
  and a place in a period as its number.
-/
import SqlDialect.Driver.Temporal
import SqlDialect.Proofs.Database.Functions

namespace SqlDialect.Driver

open SqlDialect.Sql SqlDialect.Calendar SqlDialect.Number SqlDialect.Database

/-! ## §1. Buckets of timestamps. -/

/-- The units that HANA and the baseline bucket alike. -/
def commonUnits : List TemporalUnit :=
  [.day, .month, .quarter, .minuteOfHour, .hourOfDay, .dayOfWeek, .dayOfMonth, .dayOfYear,
    .monthOfYear, .quarterOfYear]

/-- The bucket of a timestamp in these units. -/
def bucketOf? (t : Timestamp) : TemporalUnit → Option Datum
  | .day => some (.date t.date)
  | .month => some (.date t.date.firstOfMonth)
  | .quarter => some (.date t.date.firstOfQuarter)
  | .minuteOfHour => some (.int t.clock.minute)
  | .hourOfDay => some (.int t.clock.hour)
  -- 1 is Sunday
  | .dayOfWeek => some (.int (t.date.weekday.fromSunday + 1))
  | .dayOfMonth => some (.int t.date.day)
  | .dayOfYear => some (.int t.date.dayOfYear)
  | .monthOfYear => some (.int t.date.month)
  | .quarterOfYear => some (.int t.date.quarter)
  | _ => none

/-- Periods are compared as dates. -/
def compared (u : TemporalUnit) (v : Datum) : Option Datum :=
  match u with
  | .day | .month | .quarter => v.date?.map .date
  | _ => some v

variable {db : Database} {row : Columns} {e : Expr} {v : Datum} {d : Date} {t : Timestamp}

/-- A number in an expression is that number. -/
theorem evaluate_ofNat (h : ∀ n, db.number (String.ofList (natText n)) = some (.int n)) (n : Nat) :
    db.evaluate row (.ofNat n) = some (.int n) := by
  rw [Expr.ofNat, evaluate]
  exact h n

/-! ## §2. HANA. -/

/-- The number of the quarter is the last character of the quarter's text. -/
theorem drop_quarterText (d : Date) :
    d.quarterText.drop (d.quarterText.length - 1) = natText d.quarter := by
  have hone : (natText d.quarter).length = 1 := by
    have hq := d.quarter_bounds
    exact length_natText_eq (k := 0) (by show 1 ≤ d.quarter; omega) (by show d.quarter < 10; omega)
  have htext : d.quarterText = (paddedText 4 d.year ++ ['-', 'Q']) ++ natText d.quarter := by
    rw [Date.quarterText, List.append_assoc]
    rfl
  have hlength : d.quarterText.length = (paddedText 4 d.year ++ ['-', 'Q']).length + 1 := by
    rw [htext, List.length_append, hone]
  rw [hlength, Nat.add_sub_cancel, htext]
  exact List.drop_left

/-- The quarter is found as the last digit of a text. -/
theorem evaluate_hanaQuarter (h : HanaDates db) (he : db.evaluate row e = some v)
    (hv : v.date? = some d) : db.evaluate row (hanaQuarter e) = some (.int d.quarter) := by
  have hquarter : db.evaluate row (.call "QUARTER" [e])
      = some (.text (String.ofList d.quarterText)) :=
    (evaluate_call₁ he "QUARTER").trans (h.quarter hv)
  have hlast : db.evaluate row (.call "RIGHT" [.call "QUARTER" [e], .ofNat 1])
      = some (.text (String.ofList (natText d.quarter))) := by
    have hlength : 1 ≤ d.quarterText.length := by
      rw [Date.quarterText, List.length_append, List.length_cons]
      omega
    rw [evaluate_call₂ hquarter (evaluate_ofNat h.number 1), ← drop_quarterText d]
    exact h.right hlength
  exact (evaluate_call₁ hlast "TO_INTEGER").trans (h.toInteger d.quarter)

/-- A text that writes a date is turned into it. -/
theorem evaluate_hanaDate (h : HanaDates db) {s : List Char}
    (he : db.evaluate row e = some (.text (String.ofList s))) (hs : d.IsWrittenAs s) :
    db.evaluate row (hanaDate e) = some (.date d) :=
  (evaluate_call₂ he (evaluate_text _) "TO_DATE").trans (h.readDate hs)

/-- A year of four digits is written without zeros in front. -/
theorem paddedText_year (hyear : 1000 ≤ d.year) : paddedText 4 d.year = natText d.year := by
  have hfour : (natText d.year).length = 4 := by
    have hy := d.isDate.1.2
    exact length_natText_eq (k := 3) hyear (by show d.year < 10000; omega)
  rw [paddedText, hfour]
  rfl

/-- The first day of a month is written after its year and month. -/
theorem isWrittenAs_of_day {s month : List Char} (hday : d.day = 1)
    (hmonth : month = natText d.month ∨ month = paddedText 2 d.month)
    (hs : s = paddedText 4 d.year ++ '-' :: month ++ ['-', '0', '1']) : d.IsWrittenAs s := by
  refine ⟨month, hmonth, ?_⟩
  have hone : paddedText 2 d.day = ['0', '1'] := by
    rw [hday]
    decide
  rw [hs, hone]

/-- The bucket of a month is its first day. -/
theorem evaluate_hanaMonth (h : HanaDates db) (he : db.evaluate row e = some v)
    (hv : v.date? = some d) :
    db.evaluate row (hanaBucket .month e) = some (.date d.firstOfMonth) := by
  have hmonth : db.evaluate row (.call "TO_CHAR" [e, .text "YYYY-MM"])
      = some (.text (String.ofList d.monthText)) :=
    (evaluate_call₂ he (evaluate_text _) "TO_CHAR").trans (h.toChar hv)
  have hfirst : db.evaluate row
      (.concat (.call "TO_CHAR" [e, .text "YYYY-MM"]) [.text "-01"])
        = some (.text (String.ofList (d.monthText ++ ['-', '0', '1']))) := by
    refine (evaluate_binary hmonth (evaluate_text _) .concat).trans ?_
    rw [String.ofList_append]
    exact h.concat rfl rfl
  exact evaluate_hanaDate h hfirst (isWrittenAs_of_day rfl (.inr rfl) rfl)

/-- Each quarter has three months, so its first one is two before three times
its number. -/
theorem evaluate_hanaFirstMonth (h : HanaDates db) (he : db.evaluate row e = some v)
    (hv : v.date? = some d) :
    db.evaluate row (.sub (.mul (hanaQuarter e) (.ofNat 3)) (.ofNat 2))
      = some (.int (3 * d.quarter - 2 : Nat)) := by
  have htriple : db.evaluate row (.mul (hanaQuarter e) (.ofNat 3)) = some (.int (d.quarter * 3)) :=
    (evaluate_binary (evaluate_hanaQuarter h he hv) (evaluate_ofNat h.number 3) .mul).trans
      (h.mul _ _)
  have hq := d.quarter_bounds.1
  have hint : (d.quarter * 3 - 2 : Int) = (3 * d.quarter - 2 : Nat) := by omega
  rw [← hint]
  exact (evaluate_binary htriple (evaluate_ofNat h.number 2) .sub).trans (h.sub _ _)

/-- The bucket of a quarter is its first day, for years that need no padding. -/
theorem evaluate_hanaQuarterStart (h : HanaDates db) (he : db.evaluate row e = some v)
    (hv : v.date? = some d) (hyear : 1000 ≤ d.year) :
    db.evaluate row (hanaBucket .quarter e) = some (.date d.firstOfQuarter) := by
  let first := d.firstOfQuarter
  have hmonth : db.evaluate row (.paren (.sub (.mul (hanaQuarter e) (.ofNat 3)) (.ofNat 2)))
      = some (.int first.month) :=
    evaluate_paren (evaluate_hanaFirstMonth h he hv)
  have hyearText : db.evaluate row (.call "YEAR" [e]) = some (.int d.year) :=
    (evaluate_call₁ he "YEAR").trans (h.year hv)
  -- year, month and day are concatenated from the left
  have htext : db.evaluate row (.concat (.call "YEAR" [e])
      [.text "-", .paren (.sub (.mul (hanaQuarter e) (.ofNat 3)) (.ofNat 2)), .text "-01"])
        = some (.text (String.ofList (natText d.year) ++ "-" ++ String.ofList (natText first.month)
            ++ "-01")) := by
    have hdash := (evaluate_binary hyearText (evaluate_text "-") .concat).trans
      (h.concat rfl rfl)
    have hjoined := (evaluate_binary hdash hmonth .concat).trans (h.concat rfl rfl)
    exact (evaluate_binary hjoined (evaluate_text "-01") .concat).trans (h.concat rfl rfl)
  have hwritten : String.ofList (natText d.year) ++ "-" ++ String.ofList (natText first.month)
      ++ "-01" = String.ofList (paddedText 4 first.year ++ '-' :: natText first.month
        ++ ['-', '0', '1']) := by
    -- a year of four digits needs no padding
    have hfour : paddedText 4 first.year = natText d.year := paddedText_year hyear
    rw [hfour]
    refine String.toList_inj.1 ?_
    simp
  rw [hwritten] at htext
  exact evaluate_hanaDate h htext (isWrittenAs_of_day rfl (.inl rfl) rfl)

/-- A weekday that is counted from Monday comes to be counted from Sunday. -/
theorem evaluate_hanaWeekday (h : HanaDates db) (he : db.evaluate row e = some v)
    (hv : v.date? = some d) :
    db.evaluate row (hanaBucket .dayOfWeek e) = some (.int (d.weekday.fromSunday + 1)) := by
  have hnumber : ∀ n, db.evaluate row (.ofNat n) = some (.int n) :=
    evaluate_ofNat h.number
  have hweekday : db.evaluate row (.call "WEEKDAY" [e]) = some (.int d.weekday.fromMonday) :=
    (evaluate_call₁ he "WEEKDAY").trans (h.weekday hv)
  have hnext : db.evaluate row (.add (.call "WEEKDAY" [e]) (.ofNat 1))
      = some (.int (d.weekday.fromMonday + 1 : Nat)) :=
    (evaluate_binary hweekday (hnumber 1) .add).trans (h.add _ _)
  have hround : db.evaluate row
      (.call "MOD" [.add (.call "WEEKDAY" [e]) (.ofNat 1), .ofNat 7])
        = some (.int d.weekday.fromSunday) := by
    rw [Weekday.fromSunday_eq]
    exact (evaluate_call₂ hnext (hnumber 7) "MOD").trans (h.mod (by decide))
  exact (evaluate_binary hround (hnumber 1) .add).trans (h.add _ _)

/-- **HANA's buckets of a timestamp.** -/
theorem evaluate_hanaBucket (h : HanaDates db) (he : db.evaluate row e = some (.timestamp t))
    (hyear : 1000 ≤ t.date.year) {u : TemporalUnit} (hu : u ∈ commonUnits) :
    db.evaluate row (hanaBucket u e) = bucketOf? t u := by
  have hv : (Datum.timestamp t).date? = some t.date := rfl
  cases u with
  | day => exact (evaluate_call₁ he "TO_DATE").trans (h.toDate hv)
  | month => exact evaluate_hanaMonth h he hv
  | quarter => exact evaluate_hanaQuarterStart h he hv hyear
  | minuteOfHour => exact (evaluate_extract he "MINUTE").trans (h.minute t)
  | hourOfDay => exact (evaluate_extract he "HOUR").trans (h.hour t)
  | dayOfWeek => exact evaluate_hanaWeekday h he hv
  | dayOfMonth => exact (evaluate_call₁ he "DAYOFMONTH").trans (h.dayOfMonth hv)
  | dayOfYear => exact (evaluate_call₁ he "DAYOFYEAR").trans (h.dayOfYear hv)
  | monthOfYear => exact (evaluate_call₁ he "MONTH").trans (h.month hv)
  | quarterOfYear => exact evaluate_hanaQuarter h he hv
  | _ => exact absurd hu (by decide)

/-! ## §3. The baseline. -/

/-- A truncated timestamp lies on the first day of its period. -/
theorem evaluate_truncated (h : StandardDates db) (p : Period)
    (he : db.evaluate row e = some (.timestamp t)) :
    db.evaluate row (truncated p.name e)
      = some (.timestamp ⟨p.firstDay t.date, .midnight⟩) :=
  (evaluate_call₂ (evaluate_text p.name) he "DATE_TRUNC").trans
    (h.truncate (p.isFirstInstant_midnight t))

/-- The weekdays are counted from Sunday, which is one. -/
theorem evaluate_standardWeekday (h : StandardDates db) (he : db.evaluate row e = some v)
    (hv : v.date? = some d) :
    db.evaluate row (standardBucket .dayOfWeek e) = some (.int (d.weekday.fromSunday + 1)) := by
  have hday : db.evaluate row (.extract "DOW" e) = some (.int d.weekday.fromSunday) :=
    (evaluate_extract he "DOW").trans (h.dayOfWeek hv)
  exact (evaluate_binary hday (evaluate_ofNat h.number 1) .add).trans (h.add _ _)

/-- **The baseline's buckets of a timestamp**, with periods as dates. -/
theorem evaluate_standardBucket (h : StandardDates db)
    (he : db.evaluate row e = some (.timestamp t)) {u : TemporalUnit} (hu : u ∈ commonUnits) :
    (db.evaluate row (standardBucket u e)).bind (compared u) = bucketOf? t u := by
  have hv : (Datum.timestamp t).date? = some t.date := rfl
  -- one law for each unit; the truncated ones are cast to dates
  cases u with
  | day => rw [standardBucket, evaluate_cast he, h.castDate hv]; rfl
  | month =>
      have hmonth := evaluate_truncated h .month he
      exact congrArg (Option.bind · (compared .month)) hmonth
  | quarter =>
      have hquarter := evaluate_truncated h .quarter he
      exact congrArg (Option.bind · (compared .quarter)) hquarter
  | minuteOfHour => rw [standardBucket, evaluate_extract he, h.minute]; rfl
  | hourOfDay => rw [standardBucket, evaluate_extract he, h.hour]; rfl
  | dayOfWeek => rw [evaluate_standardWeekday h he hv]; rfl
  | dayOfMonth => rw [standardBucket, evaluate_extract he, h.day hv]; rfl
  | dayOfYear => rw [standardBucket, evaluate_extract he, h.dayOfYear hv]; rfl
  | monthOfYear => rw [standardBucket, evaluate_extract he, h.month hv]; rfl
  | quarterOfYear => rw [standardBucket, evaluate_extract he, h.quarter hv]; rfl
  | _ => exact absurd hu (by decide)

/-! ## §4. Both. -/

/-- **HANA buckets as the baseline does.**  Whatever expression has the same
timestamp as its value in both databases, from the year 1000 on, its bucket in
a common unit has the same value in both: in particular the day of the week,
with 1 for Sunday, and the first day of the quarter. -/
theorem hana_buckets_as_standard {db db' : Database} (h : HanaDates db) (h' : StandardDates db')
    {row row' : Columns} {e : Expr} {t : Timestamp}
    (he : db.evaluate row e = some (.timestamp t))
    (he' : db'.evaluate row' e = some (.timestamp t)) (hyear : 1000 ≤ t.date.year) :
    (∀ u ∈ commonUnits, ∃ v, bucketOf? t u = some v ∧
      db.evaluate row (hana.bucket u e) = some v ∧
      (db'.evaluate row' (standard.bucket u e)).bind (compared u) = some v) ∧
    db.evaluate row (hana.bucket .dayOfWeek e) = some (.int (t.date.weekday.fromSunday + 1)) ∧
    db.evaluate row (hana.bucket .quarter e) = some (.date t.date.firstOfQuarter) ∧
    Period.quarter.IsFirstInstant t ⟨t.date.firstOfQuarter, .midnight⟩ := by
  have hhana : ∀ u ∈ commonUnits, db.evaluate row (hana.bucket u e) = bucketOf? t u :=
    fun u hu => evaluate_hanaBucket h he hyear hu
  have hstandard : ∀ u ∈ commonUnits,
      (db'.evaluate row' (standard.bucket u e)).bind (compared u) = bucketOf? t u :=
    fun u hu => evaluate_standardBucket h' he' hu
  -- every common unit has a bucket to compare
  have hsome : ∀ u ∈ commonUnits, ∃ v, bucketOf? t u = some v := by
    intro u hu
    cases u with
    | default | minute | hour | week | weekOfYear | year => exact absurd hu (by decide)
    | _ => exact ⟨_, rfl⟩
  refine ⟨fun u hu => ?_, hhana .dayOfWeek (by decide), hhana .quarter (by decide),
    Period.quarter.isFirstInstant_midnight t⟩
  obtain ⟨v, hv⟩ := hsome u hu
  exact ⟨v, hv, (hhana u hu).trans hv, (hstandard u hu).trans hv⟩

/-- The last instant before midnight of a Sunday. -/
def sundayNight : Timestamp := ⟨⟨2024, 11, 17, by decide⟩, ⟨23, 59, 59, 999999, by decide⟩⟩

/-- A row with nothing but that instant. -/
def sundayRow : Columns := fun _ _ => some (.timestamp sundayNight)

/-- It lies on the first day of a week and in the quarter that October begins. -/
theorem sundayNight_buckets :
    Database.hana.evaluate sundayRow (hana.bucket .dayOfWeek (.col "t")) = some (.int 1) ∧
    Database.hana.evaluate sundayRow (hana.bucket .quarter (.col "t"))
      = some (.date ⟨2024, 10, 1, by decide⟩) := by
  have he : ∀ db : Database, db.evaluate sundayRow (.col "t") = some (.timestamp sundayNight) :=
    fun db => by
      rw [Expr.col, evaluate]
      rfl
  obtain ⟨-, hday, hquarter, -⟩ := hana_buckets_as_standard hanaDates_hana standardDates_standard
    (he .hana) (he .standard) (by decide)
  have hsunday : sundayNight.date.weekday.fromSunday = 0 := by decide
  rw [hsunday] at hday
  exact ⟨hday, hquarter⟩

end SqlDialect.Driver
