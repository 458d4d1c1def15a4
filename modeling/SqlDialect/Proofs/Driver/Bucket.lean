/-
  SqlDialect.Proofs.Driver.Bucket
  ────────────────────────────────
  **DRIVERS BUILD SAFE TREES.**

  Buckets and times of timestamps put an operand only where it is alone: as
  an argument, behind a part of a date, or in parentheses.  So they are safe
  for every safe operand, and their text stands for what was built.
-/
import SqlDialect.Driver.Builtin
import SqlDialect.Driver.Temporal
import SqlDialect.Proofs.Sql.Precedence

namespace SqlDialect.Driver

open SqlDialect.Sql SqlDialect.Text SqlDialect.Number

variable {dialect : Dialect}

/-! ## §1. Calls. -/

/-- The functions that drivers call. -/
def functionNames : List String := [
  "ADD_SECONDS", "DATE_TRUNC", "DAYOFMONTH", "DAYOFYEAR", "HOUR", "LPAD", "MINUTE", "MOD", "MONTH",
  "QUARTER", "RIGHT", "TO_CHAR", "TO_DATE", "TO_INTEGER", "TO_TIMESTAMP", "TO_VARCHAR", "WEEK",
  "WEEKDAY", "YEAR"]

/-- None of the functions has a form of its own. -/
theorem isFunctionName_of_mem {f : String} (h : f ∈ functionNames) : IsFunctionName f := by
  have hall : ∀ f ∈ functionNames, isBareName f = true ∧
      isKeyword "CAST" (.word (String.ofList (upper f.toList))) = false ∧
      isKeyword "EXTRACT" (.word (String.ofList (upper f.toList))) = false := by decide +kernel
  obtain ⟨hbare, hcast, hextract⟩ := hall f h
  exact ⟨isBareWord_of_isBareName hbare, hcast, hextract⟩

/-- A call of one argument encloses it. -/
theorem safe_call₁ {f : String} (hf : f ∈ functionNames) {a : Expr}
    (ha : a.PrecedenceSafe dialect) : (Expr.call f [a]).PrecedenceSafe dialect :=
  .call (isFunctionName_of_mem hf) (List.forall_mem_singleton.2 ha)

/-- A call of two arguments encloses both. -/
theorem safe_call₂ {f : String} (hf : f ∈ functionNames) {a b : Expr}
    (ha : a.PrecedenceSafe dialect) (hb : b.PrecedenceSafe dialect) :
    (Expr.call f [a, b]).PrecedenceSafe dialect :=
  .call (isFunctionName_of_mem hf) (List.forall_mem_cons.2 ⟨ha, List.forall_mem_singleton.2 hb⟩)

theorem safe_ofNat (n : Nat) : (Expr.ofNat n).PrecedenceSafe dialect :=
  .number (Expr.isDigits_natText n)

/-- An operator between operands without operators of their own. -/
theorem safe_binary {op : Operator} {a b : Expr} (ha : a.PrecedenceSafe dialect)
    (hb : b.PrecedenceSafe dialect) (hatight : a.tightness = unaryLevel) (hbtight : b.tightness = unaryLevel) :
    (Expr.binary op a b).PrecedenceSafe dialect := by
  refine .binary ha hb ?_ ?_
  · rw [hatight]
    exact Nat.le_of_lt (level_lt_unaryLevel op)
  · rw [hbtight]
    exact level_lt_unaryLevel op

/-- Concatenation groups from the left, so only what is added must bind tighter. -/
theorem safe_concat {first : Expr} (hfirst : first.PrecedenceSafe dialect) {rest : List Expr}
    (h : ∀ a ∈ rest, a.PrecedenceSafe dialect ∧ a.tightness = unaryLevel) :
    (Expr.concat first rest).PrecedenceSafe dialect := by
  induction rest generalizing first with
  | nil => exact hfirst
  | cons a rest ih =>
      obtain ⟨ha, htight⟩ := h a (by simp)
      have hstep : (Expr.binary .concat first a).PrecedenceSafe dialect := by
        refine .binary hfirst ha (Nat.zero_le _) ?_
        rw [htight]
        exact level_lt_unaryLevel .concat
      exact ih hstep fun x hx => h x (by simp [hx])

/-! ## §2. Buckets. -/

variable {e : Expr}

/-- Truncating to a period is a call. -/
theorem safe_truncated {period : String} (he : e.PrecedenceSafe dialect) :
    (truncated period e).PrecedenceSafe dialect :=
  safe_call₂ (by decide) (.text period) he

/-- The parts of dates that drivers extract. -/
def partNames : List String := ["DAY", "DOW", "DOY", "HOUR", "MINUTE", "MONTH", "QUARTER", "WEEK"]

/-- Extracting a part encloses the expression. -/
theorem safe_extract {part : String} (hpart : part ∈ partNames) (he : e.PrecedenceSafe dialect) :
    (Expr.extract part e).PrecedenceSafe dialect := by
  have hall : ∀ part ∈ partNames, isBareName part = true := by decide +kernel
  exact .extract (isBareWord_of_isBareName (hall part hpart)) he

/-- The standard buckets regroup nothing. -/
theorem safe_standardBucket (u : TemporalUnit) (he : e.PrecedenceSafe dialect) :
    (standardBucket u e).PrecedenceSafe dialect := by
  cases u with
  | default => exact he
  | minute | hour | week | month | quarter | year => exact safe_truncated he
  | day => exact .cast he (fun _ h => absurd h (by simp))
  | dayOfWeek =>
      have hdow : (Expr.extract "DOW" e).PrecedenceSafe dialect := safe_extract (by decide) he
      exact safe_binary hdow (safe_ofNat 1) rfl rfl
  | _ => exact safe_extract (by decide) he

/-- The quarter is cut from a text by calls only. -/
theorem safe_hanaQuarter (he : e.PrecedenceSafe dialect) :
    (hanaQuarter e).PrecedenceSafe dialect := by
  have hquarter : (Expr.call "QUARTER" [e]).PrecedenceSafe dialect :=
    safe_call₁ (by decide) he
  have hright : (Expr.call "RIGHT" [.call "QUARTER" [e], .ofNat 1]).PrecedenceSafe dialect :=
    safe_call₂ (by decide) hquarter (safe_ofNat 1)
  exact safe_call₁ (by decide) hright

theorem safe_hanaDate (he : e.PrecedenceSafe dialect) : (hanaDate e).PrecedenceSafe dialect :=
  safe_call₂ (by decide) he (.text _)

/-- The buckets of HANA regroup nothing. -/
theorem safe_hanaBucket (u : TemporalUnit) (he : e.PrecedenceSafe dialect) :
    (hanaBucket u e).PrecedenceSafe dialect := by
  cases u with
  | default => exact he
  | minuteOfHour | hourOfDay => exact safe_extract (by decide) he
  | dayOfWeek =>
      have hweekday : (Expr.call "WEEKDAY" [e]).PrecedenceSafe dialect :=
        safe_call₁ (by decide) he
      have hnext : (Expr.add (.call "WEEKDAY" [e]) (.ofNat 1)).PrecedenceSafe dialect :=
        safe_binary hweekday (safe_ofNat 1) rfl rfl
      have hmod := safe_call₂ (f := "MOD") (by decide) hnext (safe_ofNat 7)
      exact safe_binary hmod (safe_ofNat 1) rfl rfl
  | week =>
      have hyear : (Expr.call "YEAR" [e]).PrecedenceSafe dialect :=
        safe_call₁ (by decide) he
      have hweek : (Expr.call "WEEK" [e]).PrecedenceSafe dialect :=
        safe_call₁ (by decide) he
      have htext := safe_call₁ (f := "TO_VARCHAR") (by decide) hweek
      have hpadded : ∀ a ∈ [Expr.call "TO_VARCHAR" [.call "WEEK" [e]], .ofNat 2, .text "0"],
          a.PrecedenceSafe dialect := by
        simp only [List.forall_mem_cons]
        exact ⟨htext, safe_ofNat 2, .text _, fun _ h => absurd h (by simp)⟩
      have hpad := Expr.PrecedenceSafe.call (f := "LPAD")
        (isFunctionName_of_mem (by decide)) hpadded
      exact safe_concat hyear (List.forall_mem_singleton.2 ⟨hpad, rfl⟩)
  | month =>
      have hchar := safe_call₂ (f := "TO_CHAR") (by decide) he (.text "YYYY-MM")
      exact safe_hanaDate (safe_concat hchar (List.forall_mem_singleton.2 ⟨.text _, rfl⟩))
  | quarter =>
      have hyear : (Expr.call "YEAR" [e]).PrecedenceSafe dialect :=
        safe_call₁ (by decide) he
      have hproduct : (Expr.mul (hanaQuarter e) (.ofNat 3)).PrecedenceSafe dialect :=
        safe_binary (safe_hanaQuarter he) (safe_ofNat 3) rfl rfl
      -- the product may stand on the left of the difference without parentheses
      have hmonth : (Expr.sub (.mul (hanaQuarter e) (.ofNat 3)) (.ofNat 2)).PrecedenceSafe
          dialect :=
        .binary hproduct (safe_ofNat 2) (Nat.le_succ 1) (level_lt_unaryLevel .sub)
      have hrest : ∀ a ∈ [Expr.text "-", .paren (.sub (.mul (hanaQuarter e) (.ofNat 3)) (.ofNat 2)),
          .text "-01"], a.PrecedenceSafe dialect ∧ a.tightness = unaryLevel := by
        simp only [List.forall_mem_cons]
        exact ⟨⟨.text _, rfl⟩, ⟨hmonth.paren, rfl⟩, ⟨.text _, rfl⟩, fun _ h => absurd h (by simp)⟩
      exact safe_hanaDate (safe_concat hyear hrest)
  | quarterOfYear => exact safe_hanaQuarter he
  | _ => exact safe_call₁ (by decide) he

/-- The buckets of every driver regroup nothing. -/
theorem safe_bucket (d : Driver) (u : TemporalUnit) (he : e.PrecedenceSafe dialect) :
    (d.bucket u e).PrecedenceSafe dialect := by
  unfold bucket
  split
  · exact safe_hanaBucket u he
  · exact safe_standardBucket u he
  · exact safe_standardBucket u he

/-! ## §3. Timestamps. -/

/-- The start of the epoch is an operand by itself. -/
theorem safe_epoch (d : Driver) : d.epoch.PrecedenceSafe dialect := by
  unfold epoch
  have hcast : (Expr.cast (.text "1970-01-01") ⟨.timestamp, []⟩).PrecedenceSafe dialect :=
    .cast (.text _) (fun _ h => absurd h (by simp))
  split
  · exact safe_call₂ (by decide) (.text _) (.text _)
  · exact hcast
  · exact hcast

/-- The start of the epoch may stand on either side of an operator. -/
theorem tightness_epoch (d : Driver) : d.epoch.tightness = unaryLevel := by
  unfold epoch
  split <;> rfl

/-- Adding seconds to the epoch regroups nothing, for they stand in parentheses
or in a call. -/
theorem safe_addSeconds (d : Driver) (he : e.PrecedenceSafe dialect) :
    (d.addSeconds d.epoch e).PrecedenceSafe dialect := by
  have hsum : (Expr.add d.epoch (.mul (.paren e) .oneSecond)).PrecedenceSafe dialect := by
    have hproduct : (Expr.mul (.paren e) .oneSecond).PrecedenceSafe dialect :=
      safe_binary he.paren .oneSecond rfl rfl
    have hepoch : Operator.add.level ≤ d.epoch.tightness := by
      rw [tightness_epoch]
      decide
    exact .binary (safe_epoch d) hproduct hepoch (Nat.lt_succ_self 1)
  unfold addSeconds
  split
  · exact safe_call₂ (by decide) (safe_epoch d) he
  · exact hsum
  · exact hsum

/-! ## §4. What the text stands for. -/

/-- **The text of a safe tree is read as the tree in the dialect's spelling,
and a driver builds safe trees from safe ones**, so the text of a bucket or of
a time stands for what was built.  It is so in every dialect with standard
quotes, whichever words are special there: no column of a safe tree is named
like a keyword. -/
theorem safe_trees_are_read_back (hd : dialect.quoteStyle = .ansi) (d : Driver)
    (he : e.PrecedenceSafe dialect) :
    Expr.read dialect (e.render dialect) = .ok (e.respelled dialect) ∧
      (∀ u, (d.bucket u e).PrecedenceSafe dialect ∧
        Expr.read dialect ((d.bucket u e).render dialect)
          = .ok ((d.bucket u e).respelled dialect)) ∧
      (d.ofTimestamp e .seconds).PrecedenceSafe dialect ∧
        Expr.read dialect ((d.ofTimestamp e .seconds).render dialect)
          = .ok ((d.ofTimestamp e .seconds).respelled dialect) := by
  have hbucket := fun u => safe_bucket d u he
  have htime : (d.ofTimestamp e .seconds).PrecedenceSafe dialect := safe_addSeconds d he
  exact ⟨he.read_render hd, fun u => ⟨hbucket u, (hbucket u).read_render hd⟩,
    htime, htime.read_render hd⟩

/-- The month that starts a quarter behind a text, its sum in parentheses. -/
def monthAfterText : Expr :=
  .concat (.text "Y-") [.paren (.sub (.mul (.col "q") (.ofNat 3)) (.ofNat 2))]

/-- The standard dialect with words of its own. -/
def keywordDialect : Dialect :=
  standard.dialectWith { reserved := ["when"], keywords := ["NOT", "CASE", "SELECT", "WHEN"] }

theorem safe_monthAfterText : monthAfterText.PrecedenceSafe keywordDialect := by
  have hq : (Expr.col "q").PrecedenceSafe keywordDialect :=
    .col ⟨by decide +kernel, by decide +kernel⟩
  have hproduct : (Expr.mul (.col "q") (.ofNat 3)).PrecedenceSafe keywordDialect :=
    safe_binary hq (safe_ofNat 3) rfl rfl
  have hmonth : (Expr.sub (.mul (.col "q") (.ofNat 3)) (.ofNat 2)).PrecedenceSafe
      keywordDialect :=
    .binary hproduct (safe_ofNat 2) (Nat.le_succ 1) (level_lt_unaryLevel .sub)
  exact safe_concat (.text _) (List.forall_mem_singleton.2 ⟨hmonth.paren, rfl⟩)

theorem monthAfterText_is_read_back : keywordDialect.quoteStyle = .ansi ∧
    monthAfterText.PrecedenceSafe keywordDialect ∧
      Expr.read keywordDialect (monthAfterText.render keywordDialect) = .ok monthAfterText ∧
      Expr.read keywordDialect ((hana.bucket .quarter monthAfterText).render keywordDialect)
        = .ok (hana.bucket .quarter monthAfterText) := by
  obtain ⟨hread, hbucket, -⟩ := safe_trees_are_read_back rfl hana safe_monthAfterText
  exact ⟨rfl, safe_monthAfterText, hread, (hbucket .quarter).2⟩

/-- Names that come back in another spelling: a part of a date and a type in
the dialect, and a function in lower case.  A bare column loses the newline at
its end, and a function called as a cast is read as no call. -/
theorem names_come_back_respelled :
    duckdb.bucket .dayOfYear (.col "ts") = .extract "DOY" (.col "ts") ∧
      (Expr.extract "DOY" (.col "ts")).PrecedenceSafe duckdb.dialect ∧
      Expr.read duckdb.dialect ((Expr.extract "DOY" (.col "ts")).render duckdb.dialect)
        = .ok (.extract "DAYOFYEAR" (.col "ts")) ∧
      "DAYOFYEAR" ∉ ["DOY", "DOW", "DAYOFWEEK"] ∧
      Expr.read duckdb.dialect ((Expr.cast (.col "ts") ⟨.varchar, []⟩).render duckdb.dialect)
        = .ok (.cast (.col "ts") ⟨.text, []⟩) ∧
      Expr.read standard.dialect ((Expr.call "now" []).render standard.dialect)
        = .ok (.call "NOW" []) ∧
      Expr.read standard.dialect ((Expr.col "ts\n").render standard.dialect)
        = .ok (.col "ts") ∧
      (Expr.read standard.dialect
        ((Expr.call "CAST" [.col "ts"]).render standard.dialect)).toOption.isNone = true := by
  have hts : ∀ dialect ∈ [duckdb.dialect, standard.dialect],
      (Expr.col "ts").PrecedenceSafe dialect := by
    have hnames : ∀ dialect ∈ [duckdb.dialect, standard.dialect],
        dialect.isKeyword "ts" = false := by decide +kernel
    exact fun dialect h => .col ⟨hnames dialect h, by decide +kernel⟩
  have hdoy : (Expr.extract "DOY" (.col "ts")).PrecedenceSafe duckdb.dialect :=
    safe_extract (by decide) (hts _ (by simp))
  have hcast : (Expr.cast (.col "ts") ⟨.varchar, []⟩).PrecedenceSafe duckdb.dialect :=
    .cast (hts _ (by simp)) fun _ h => absurd h (by simp)
  have hnow : (Expr.call "now" []).PrecedenceSafe standard.dialect :=
    .call ⟨isBareWord_of_isBareName (by decide +kernel), by decide +kernel, by decide +kernel⟩
      fun _ h => absurd h (by simp)
  -- the newline is trimmed away, being at the very end
  have hnewline : (Expr.col "ts\n").render standard.dialect
      = (Expr.col "ts").render standard.dialect := by
    decide +kernel
  refine ⟨rfl, hdoy, hdoy.read_render rfl, by decide, hcast.read_render rfl,
    hnow.read_render rfl, ?_, by decide +kernel⟩
  rw [hnewline]
  exact (hts standard.dialect (by simp)).read_render rfl

end SqlDialect.Driver
