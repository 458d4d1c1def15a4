/-
  SqlDialect.Proofs.Driver.WeekKey
  ────────────────────────────────
  **HANA'S WEEKS ARE KEYS THAT SORT.**

  The week of a date in HANA is a text, the year with two digits for the
  week behind it.  No year has more than 54 weeks, so the text is the number

      100 * year + week

  It tells the weeks of all years apart, and from the year 1000 on it sorts
  as the dates do.
-/
import Mathlib.Data.String.Basic
import SqlDialect.Proofs.Database.Functions
import SqlDialect.Proofs.Driver.Dates

namespace SqlDialect.Driver

open SqlDialect.Sql SqlDialect.Calendar SqlDialect.Number SqlDialect.Database

variable {db : Database} {row : Columns} {week : Date → Nat} {e : Expr} {v : Datum}
  {d d₁ d₂ : Date}

/-! ## §1. Keys. -/

/-- The year and the week as one number. -/
def weekKey (week : Date → Nat) (d : Date) : Nat := 100 * d.year + week d

/-- The number of a week has two digits at most. -/
theorem week_lt (h : HanaWeeks db week) (d : Date) : week d < 100 :=
  Nat.lt_of_le_of_lt (h.counts.week_le (by decide) rfl d) (by decide)

/-- The two last digits are the week. -/
theorem weekKey_eq_iff (h : HanaWeeks db week) :
    weekKey week d₁ = weekKey week d₂ ↔ d₁.year = d₂.year ∧ week d₁ = week d₂ := by
  have hlt := week_lt h d₁
  have hlt' := week_lt h d₂
  unfold weekKey
  omega

/-- **Later dates have no smaller key.**  A later year decides by itself, and
in one year later dates are not in earlier weeks. -/
theorem weekKey_le (h : HanaWeeks db week) (hle : d₁.dayNumber ≤ d₂.dayNumber) :
    weekKey week d₁ ≤ weekKey week d₂ := by
  have hlt := week_lt h d₁
  have hyears : d₁.year ≤ d₂.year := Date.year_le_of_dayNumber_le hle
  unfold weekKey
  by_cases hyear : d₁.year = d₂.year
  · have hweeks := h.counts.week_le_week (by decide) rfl hyear hle
    omega
  · omega

/-- From the year 1000 on, keys have six digits. -/
theorem length_weekKey (h : HanaWeeks db week) (hyear : 1000 ≤ d.year) :
    (natText (weekKey week d)).length = 6 := by
  have hlt := week_lt h d
  have hy := d.isDate.1.2
  refine length_natText_eq (k := 5) ?_ ?_
  · show 100000 ≤ 100 * d.year + week d
    omega
  · show 100 * d.year + week d < 1000000
    omega

/-! ## §2. Keys as texts. -/

/-- The text of a key. -/
def weekText (week : Date → Nat) (d : Date) : String :=
  String.ofList (natText (weekKey week d))

/-- Two dates have one key exactly if they agree in year and week. -/
theorem weekText_eq_iff (h : HanaWeeks db week) :
    weekText week d₁ = weekText week d₂ ↔ d₁.year = d₂.year ∧ week d₁ = week d₂ := by
  rw [← weekKey_eq_iff h]
  refine ⟨fun htext => natText_inj ?_, fun hkey => ?_⟩
  · exact String.ofList_inj.1 htext
  · rw [weekText, weekText, hkey]

/-- **Texts of keys sort as the dates do.** -/
theorem weekText_le (h : HanaWeeks db week) (hyear : 1000 ≤ d₁.year)
    (hle : d₁.dayNumber ≤ d₂.dayNumber) : weekText week d₁ ≤ weekText week d₂ := by
  have hyear' : 1000 ≤ d₂.year := Nat.le_trans hyear (Date.year_le_of_dayNumber_le hle)
  rw [String.le_iff_toList_le, weekText, weekText, String.toList_ofList, String.toList_ofList]
  obtain hlt | heq := Nat.lt_or_eq_of_le (weekKey_le h hle)
  · have hlength := (length_weekKey h hyear).trans (length_weekKey h hyear').symm
    exact le_of_lt (natText_lt_natText hlength hlt)
  · rw [heq]

/-! ## §3. HANA. -/

/-- The bucket of a week is its number in the year. -/
theorem evaluate_hanaWeekOfYear (h : HanaWeeks db week) (he : db.evaluate row e = some v)
    (hv : v.date? = some d) :
    db.evaluate row (hanaBucket .weekOfYear e) = some (.int (week d)) :=
  (evaluate_call₁ he "WEEK").trans (h.week hv)

/-- The week of a date is the text of its key. -/
theorem evaluate_hanaWeek (h : HanaWeeks db week) (he : db.evaluate row e = some v)
    (hv : v.date? = some d) :
    db.evaluate row (hanaBucket .week e) = some (.text (weekText week d)) := by
  have hyear : db.evaluate row (.call "YEAR" [e]) = some (.int d.year) :=
    (evaluate_call₁ he "YEAR").trans (h.year hv)
  have hnumber : db.evaluate row (.call "TO_VARCHAR" [.call "WEEK" [e]])
      = some (.text (String.ofList (natText (week d)))) :=
    (evaluate_call₁ (evaluate_hanaWeekOfYear h he hv) "TO_VARCHAR").trans (h.toVarchar _)
  -- a week has two digits at most, so the padding cuts nothing off
  have hpadded : db.evaluate row
      (.call "LPAD" [.call "TO_VARCHAR" [.call "WEEK" [e]], .ofNat 2, .text "0"])
        = some (.text (String.ofList (paddedText 2 (week d)))) := by
    have hlength : (natText (week d)).length ≤ 2 :=
      (length_natText_le_iff _ (by decide)).2 (week_lt h d)
    exact (evaluate_call₃ hnumber (evaluate_ofNat h.number 2) (evaluate_text "0") "LPAD").trans
      (h.lpad '0' hlength)
  have hkey : weekText week d
      = String.ofList (natText d.year) ++ String.ofList (paddedText 2 (week d)) := by
    rw [weekText, weekKey, ← natText_append_two d.isDate.1.1 (week_lt h d), String.ofList_append]
  rw [hkey]
  exact (evaluate_binary hyear hpadded .concat).trans (h.concat rfl rfl)

/-- **HANA's weeks are keys that tell weeks apart and sort.**  The keys of two
dates are the same exactly if the dates are in one year and in the same week
of it, which begins with the same Monday, and from the year 1000 on the key of
a later date is not before that of an earlier one. -/
theorem hana_week_keys_sort {db : Database} {week : Date → Nat} (h : HanaWeeks db week)
    {row₁ row₂ : Columns} {e₁ e₂ : Expr} {v₁ v₂ : Datum} {d₁ d₂ : Date}
    (he₁ : db.evaluate row₁ e₁ = some v₁) (hd₁ : v₁.date? = some d₁)
    (he₂ : db.evaluate row₂ e₂ = some v₂) (hd₂ : v₂.date? = some d₂) :
    ∃ k₁ k₂ : String,
      db.evaluate row₁ (hana.bucket .week e₁) = some (.text k₁) ∧
      db.evaluate row₂ (hana.bucket .week e₂) = some (.text k₂) ∧
      db.evaluate row₁ (hana.bucket .weekOfYear e₁) = some (.int (week d₁)) ∧
      db.evaluate row₂ (hana.bucket .weekOfYear e₂) = some (.int (week d₂)) ∧
      (k₁ = k₂ ↔ d₁.year = d₂.year ∧
        db.evaluate row₁ (hana.bucket .weekOfYear e₁)
          = db.evaluate row₂ (hana.bucket .weekOfYear e₂)) ∧
      (k₁ = k₂ ↔ d₁.year = d₂.year ∧ d₁.monday = d₂.monday) ∧
      (1000 ≤ d₁.year → d₁.dayNumber ≤ d₂.dayNumber → k₁ ≤ k₂) := by
  have hweek₁ : db.evaluate row₁ (hana.bucket .weekOfYear e₁) = some (.int (week d₁)) :=
    evaluate_hanaWeekOfYear h he₁ hd₁
  have hweek₂ : db.evaluate row₂ (hana.bucket .weekOfYear e₂) = some (.int (week d₂)) :=
    evaluate_hanaWeekOfYear h he₂ hd₂
  refine ⟨weekText week d₁, weekText week d₂, evaluate_hanaWeek h he₁ hd₁,
    evaluate_hanaWeek h he₂ hd₂, hweek₁, hweek₂, ?_, ?_, fun hyear hle => weekText_le h hyear hle⟩
  · rw [weekText_eq_iff h, hweek₁, hweek₂]
    refine and_congr_right fun _ => ⟨fun hweek => by rw [hweek], fun hweek => ?_⟩
    exact Int.ofNat.inj (Datum.int.inj (Option.some.inj hweek))
  -- within one year the weeks are counted by their Mondays
  · rw [weekText_eq_iff h]
    exact and_congr_right fun hyear => h.counts.week_eq_iff (by decide) rfl hyear

/-- The rows of a date. -/
def dateRow (d : Date) : Columns := fun _ _ => some (.date d)

/-- The last Sunday of a year and the Monday after it. -/
def lastSunday : Date := ⟨2024, 12, 29, by decide⟩

def lastMonday : Date := ⟨2024, 12, 30, by decide⟩

/-- Their keys are apart and in order. -/
theorem lastSunday_before_lastMonday :
    ∃ k₁ k₂ : String,
      Database.hana.evaluate (dateRow lastSunday) (hana.bucket .week (.col "d")) = some (.text k₁) ∧
      Database.hana.evaluate (dateRow lastMonday) (hana.bucket .week (.col "d")) = some (.text k₂) ∧
      k₁ ≠ k₂ ∧ k₁ ≤ k₂ := by
  have he : ∀ d, Database.hana.evaluate (dateRow d) (.col "d") = some (.date d) := fun d => by
    rw [Expr.col, evaluate]
    rfl
  obtain ⟨k₁, k₂, hk₁, hk₂, -, -, -, hmonday, hsorted⟩ :=
    hana_week_keys_sort hanaWeeks_hana (he lastSunday) rfl (he lastMonday) rfl
  refine ⟨k₁, k₂, hk₁, hk₂, fun hkey => ?_, hsorted (by decide) (by decide)⟩
  exact absurd (hmonday.1 hkey).2 (by decide)

end SqlDialect.Driver
