/-
  SqlDialect.Proofs.Driver.Interval
  ────────────────────────────────
  **INTERVALS AND THEIR AMOUNTS.**

  An amount is cut towards zero, and what is left has to be small.  A whole
  number or a fraction that no floating-point number is next to is refused
  before it is cut:

      d.interval unit amount = .error .tooLarge ↔ 2^1024 - 2^970 ≤ |amount|

  The text of an interval holds the count that is left and nothing else of the
  amount.
-/
import SqlDialect.Driver.Builtin
import SqlDialect.Driver.Temporal
import SqlDialect.Proofs.Sql.Reread
import SqlDialect.Proofs.Value.Real
import SqlDialect.Sql.Render

namespace SqlDialect

open SqlDialect.Sql SqlDialect.Number SqlDialect.Text

/-! ## §1. Units. -/

/-- The value names the unit: by its text, or as the constant that stands for it. -/
def IntervalUnit.IsNamedBy (u : IntervalUnit) : Value → Prop
  | .text s => s = u.text
  | .member enumeration _ s => enumeration = "IntervalUnit" ∧ s = u.text
  | _ => False

namespace IntervalUnit

/-- No two units have one text. -/
theorem find?_text_iff {s : String} {u : IntervalUnit} :
    all.find? (text · == s) = some u ↔ s = u.text := by
  constructor
  · intro h
    have hu : (u.text == s) = true := List.find?_some (p := (text · == s)) h
    exact (beq_iff_eq.1 hu).symm
  · rintro rfl
    cases u <;> decide

/-- A text names a unit exactly if it is its text. -/
theorem ofValue_text_iff {s : String} {u : IntervalUnit} :
    IntervalUnit.ofValue (.text s) = .ok u ↔ s = u.text := by
  rw [← find?_text_iff, IntervalUnit.ofValue, unitOfValue]
  cases all.find? (text · == s) <;> simp

/-- A member names a unit exactly if it is of the enumeration of units and has
its text. -/
theorem ofValue_member_iff {enumeration name s : String} {u : IntervalUnit} :
    IntervalUnit.ofValue (.member enumeration name s) = .ok u ↔
      enumeration = "IntervalUnit" ∧ s = u.text := by
  rw [← find?_text_iff, IntervalUnit.ofValue, unitOfValue]
  by_cases h : enumeration = "IntervalUnit"
  · cases all.find? (text · == s) <;> simp [h]
  · simp [h]

/-- A unit is found exactly for the values that name it. -/
theorem ofValue_eq_ok_iff {v : Value} {u : IntervalUnit} :
    IntervalUnit.ofValue v = .ok u ↔ u.IsNamedBy v := by
  cases v with
  | text s => exact ofValue_text_iff
  | member enumeration name s => exact ofValue_member_iff
  | _ => exact iff_of_false nofun id

/-- What names no unit is reported as given. -/
theorem ofValue_eq_error {v : Value} {e : UnitError} (h : IntervalUnit.ofValue v = .error e) :
    e = ⟨"IntervalUnit", v⟩ := by
  unfold IntervalUnit.ofValue unitOfValue at h
  extract_lets found at h
  cases hfound : found with
  | none =>
      rw [hfound] at h
      exact (Except.error.inj h).symm
  | some u =>
      rw [hfound] at h
      exact nomatch h

end IntervalUnit

/-! ## §2. How an amount ends. -/

namespace Driver

variable {amount : Value}

/-- What comes of an amount: it is of another kind, it is no number, no
floating-point number is next to it, its count is out of range, or it is
counted. -/
inductive AmountEnds (amount : Value) : Except IntervalError Int → Prop
  | notANumber : ¬ amount.IsReal → AmountEnds amount (.error (.notANumber amount))
  | notFinite : amount.IsReal → amount.real? = none →
      AmountEnds amount (.error (.notFinite amount))
  | tooLarge : amount.IsOverlarge → AmountEnds amount (.error .tooLarge)
  | outOfRange {q : ℚ} : ¬ amount.IsOverlarge → amount.real? = some q →
      1000000 < (truncation q).natAbs →
      AmountEnds amount (.error (.outOfRange (truncation q)))
  | counted {q : ℚ} : ¬ amount.IsOverlarge → amount.real? = some q →
      (truncation q).natAbs ≤ 1000000 → AmountEnds amount (.ok (truncation q))

/-- What is checked once an amount is cut. -/
def inRange (count : ℤ) : Except IntervalError ℤ :=
  if maxIntervalAmount < count.natAbs then .error (.outOfRange count) else .ok count

/-- A number of a size that floats reach ends by its truncation. -/
theorem amountEnds_inRange {amount : Value} {q : ℚ} (hsize : ¬ amount.IsOverlarge)
    (hq : amount.real? = some q) : AmountEnds amount (inRange (truncation q)) := by
  unfold inRange
  split
  next h => exact .outOfRange hsize hq h
  next h => exact .counted hsize hq (not_lt.1 h)

/-- An amount with a value is its truncation, unless it is too large for the
check that comes first. -/
theorem intervalCount_of_real? {q : ℚ} (hq : amount.real? = some q) : intervalCount amount
    = if amount.hasFloat then inRange (truncation q) else .error .tooLarge := by
  cases amount with
  | int n =>
      obtain rfl := Option.some.inj ((Value.real?_int n).symm.trans hq)
      rw [truncation_intCast, Value.hasFloat, intervalCount]
      dsimp only
      cases (Binary64.ofInt n).isFinite <;> rfl
  | float x =>
      rw [Value.real?_float] at hq
      cases hx : x.ratio? with
      | none => exact nomatch hx ▸ hq
      | some r =>
          rw [hx] at hq
          obtain rfl := Option.some.inj hq
          rw [truncation_div, intervalCount]
          dsimp only
          rw [Binary64.trunc?, hx]
          rfl
  | fraction n d =>
      obtain rfl := Option.some.inj ((Value.real?_fraction n d).symm.trans hq)
      rw [truncation_div, Value.hasFloat, intervalCount]
      dsimp only
      cases (Binary64.ofRatio false n.natAbs d).isFinite <;> rfl
  | _ => exact nomatch hq

/-- An amount without a value is not finite, or no number at all. -/
theorem intervalCount_of_real?_eq_none (h : amount.real? = none) :
    amount.IsReal ∧ intervalCount amount = .error (.notFinite amount) ∨
      ¬ amount.IsReal ∧ intervalCount amount = .error (.notANumber amount) := by
  cases amount with
  | int n => exact nomatch (Value.real?_int n).symm.trans h
  | float x =>
      rw [Value.real?_float, Option.map_eq_none_iff] at h
      refine .inl ⟨trivial, ?_⟩
      rw [intervalCount]
      dsimp only
      rw [Binary64.trunc?, h]
      rfl
  | fraction n d => exact nomatch (Value.real?_fraction n d).symm.trans h
  | _ => exact .inr ⟨id, rfl⟩

/-- **An amount ends in one of these ways.** -/
theorem amountEnds_intervalCount (hamount : ∀ n d, amount = .fraction n d → 0 < d) :
    AmountEnds amount (intervalCount amount) := by
  cases hq : amount.real? with
  | none =>
      obtain ⟨hkind, hcount⟩ | ⟨hkind, hcount⟩ := intervalCount_of_real?_eq_none hq <;>
        rw [hcount]
      · exact .notFinite hkind hq
      · exact .notANumber hkind
  | some q =>
      have hsize := Value.hasFloat_iff hamount
      rw [intervalCount_of_real? hq]
      split
      next h => exact amountEnds_inRange (hsize.1 h) hq
      next h => exact .tooLarge (not_not.1 (mt hsize.2 h))

/-- An amount is accepted exactly if its truncation is in range. -/
theorem AmountEnds.isOk_iff {r : Except IntervalError Int} (h : AmountEnds amount r) :
    (∃ n, r = .ok n) ↔ ∃ q, amount.real? = some q ∧ (truncation q).natAbs ≤ 1000000 := by
  -- an amount has one value
  have hsame : ∀ {q q' : ℚ}, amount.real? = some q → amount.real? = some q' → q = q' :=
    fun hq hq' => Option.some.inj (hq.symm.trans hq')
  cases h with
  | notANumber hkind =>
      refine iff_of_false (fun ⟨_, h⟩ => nomatch h) fun ⟨q, hq, _⟩ => hkind ?_
      cases amount <;> first | exact trivial | exact nomatch hq
  | notFinite _ hnone =>
      exact iff_of_false (fun ⟨_, h⟩ => nomatch h) fun ⟨q, hq, _⟩ => nomatch hnone.symm.trans hq
  | tooLarge hlarge =>
      refine iff_of_false (fun ⟨_, h⟩ => nomatch h) fun ⟨q, hq, hle⟩ => ?_
      exact absurd (hlarge.lt_natAbs hq) (not_lt.2 hle)
  | outOfRange _ hq hlt =>
      refine iff_of_false (fun ⟨_, h⟩ => nomatch h) fun ⟨q', hq', hle⟩ => ?_
      obtain rfl := hsame hq hq'
      exact absurd hlt (not_lt.2 hle)
  | counted _ hq hle => exact iff_of_true ⟨_, rfl⟩ ⟨_, hq, hle⟩

/-- The one failure that is not reported is that of amounts beyond every float. -/
theorem AmountEnds.tooLarge_iff {r : Except IntervalError Int} (h : AmountEnds amount r) :
    r = .error .tooLarge ↔ amount.IsOverlarge := by
  cases h with
  | notANumber hkind => exact iff_of_false nofun fun hlarge => hkind hlarge.isReal
  | notFinite _ hnone =>
      refine iff_of_false nofun fun hlarge => ?_
      obtain ⟨q, hq, -⟩ := hlarge.exists_real?
      exact nomatch hnone.symm.trans hq
  | tooLarge hlarge => exact iff_of_true rfl hlarge
  | outOfRange hsize _ _ => exact iff_of_false nofun hsize
  | counted hsize _ _ => exact iff_of_false nofun hsize

/-- What is said of a refused amount. -/
theorem AmountEnds.error_cases {e : IntervalError} (h : AmountEnds amount (.error e)) :
    e = .tooLarge ∨ e = .notANumber amount ∨ e = .notFinite amount ∨
      ∃ q, amount.real? = some q ∧ e = .outOfRange (truncation q) := by
  cases h with
  | notANumber => exact .inr (.inl rfl)
  | notFinite => exact .inr (.inr (.inl rfl))
  | tooLarge => exact .inl rfl
  | outOfRange _ hq _ => exact .inr (.inr (.inr ⟨_, hq, rfl⟩))

/-! ## §3. Accepted intervals. -/

/-- With a unit only the amount decides. -/
theorem interval_of_named {u : IntervalUnit} {unit : Value} (hu : u.IsNamedBy unit) (d : Driver)
    (amount : Value) : d.interval unit amount
      = (intervalCount amount).map fun n => .add now (.raw (d.intervalFragment n u)) := by
  rw [interval, IntervalUnit.ofValue_eq_ok_iff.2 hu]
  cases intervalCount amount <;> rfl

/-- Without a unit the amount is not looked at. -/
theorem interval_of_not_named {unit : Value} (hunit : ∀ u : IntervalUnit, ¬ u.IsNamedBy unit)
    (d : Driver) (amount : Value) :
    d.interval unit amount = .error (.unit ⟨"IntervalUnit", unit⟩) := by
  have hunit : IntervalUnit.ofValue unit = .error ⟨"IntervalUnit", unit⟩ := by
    rcases h : IntervalUnit.ofValue unit with e | u
    · rw [IntervalUnit.ofValue_eq_error h]
    · exact absurd (IntervalUnit.ofValue_eq_ok_iff.1 h) (hunit u)
  rw [interval, hunit]
  rfl

/-- An interval is the current time and the fragment of its count. -/
theorem interval_eq_ok_iff {u : IntervalUnit} {unit : Value} (hu : u.IsNamedBy unit) (d : Driver)
    {e : Expr} : d.interval unit amount = .ok e ↔
      ∃ n, intervalCount amount = .ok n ∧ e = .add now (.raw (d.intervalFragment n u)) := by
  rw [interval_of_named hu]
  constructor
  · intro h
    cases hcount : intervalCount amount with
    | error e => exact nomatch hcount ▸ h
    | ok n =>
        rw [hcount] at h
        exact ⟨n, rfl, (Except.ok.inj h).symm⟩
  · rintro ⟨n, hn, rfl⟩
    rw [hn]
    rfl

/-- With a unit an interval fails as its amount does. -/
theorem interval_eq_error_iff {u : IntervalUnit} {unit : Value} (hu : u.IsNamedBy unit)
    (d : Driver) {e : IntervalError} :
    d.interval unit amount = .error e ↔ intervalCount amount = .error e := by
  rw [interval_of_named hu]
  cases intervalCount amount with
  | error e' => exact ⟨fun h => congrArg _ (Except.error.inj h), fun h => h ▸ rfl⟩
  | ok n => exact iff_of_false nofun nofun

/-- **An interval is accepted exactly for a unit and a number that is small
once it is cut.**  A refusal says what is wrong with the unit or the amount, but
for whole numbers and fractions that no floating-point number is next to. -/
theorem interval_accepted_iff (d : Driver) (unit amount : Value)
    (hamount : ∀ n den, amount = .fraction n den → 0 < den) :
    ((∃ e, d.interval unit amount = .ok e) ↔ (∃ u : IntervalUnit, u.IsNamedBy unit) ∧
      ∃ q, amount.real? = some q ∧ (truncation q).natAbs ≤ 1000000) ∧
    (d.interval unit amount = .error .tooLarge ↔
      (∃ u : IntervalUnit, u.IsNamedBy unit) ∧ amount.IsOverlarge) ∧
    ∀ e, d.interval unit amount = .error e → e = .tooLarge ∨
      e = .unit ⟨"IntervalUnit", unit⟩ ∨ e = .notANumber amount ∨ e = .notFinite amount ∨
        ∃ q, amount.real? = some q ∧ e = .outOfRange (truncation q) := by
  -- without a unit the amount is not looked at
  by_cases hunit : ∃ u : IntervalUnit, u.IsNamedBy unit
  · obtain ⟨u, hu⟩ := hunit
    have hends := amountEnds_intervalCount hamount
    have hnamed : ∃ u : IntervalUnit, u.IsNamedBy unit := ⟨u, hu⟩
    refine ⟨?_, ?_, fun e he => ?_⟩
    · rw [and_iff_right hnamed, ← hends.isOk_iff]
      constructor
      · rintro ⟨e, he⟩
        obtain ⟨n, hn, -⟩ := (interval_eq_ok_iff hu d).1 he
        exact ⟨n, hn⟩
      · rintro ⟨n, hn⟩
        exact ⟨_, (interval_eq_ok_iff hu d).2 ⟨n, hn, rfl⟩⟩
    · rw [and_iff_right hnamed, ← hends.tooLarge_iff, interval_eq_error_iff hu]
    · rw [interval_eq_error_iff hu] at he
      exact (he ▸ hends).error_cases.imp_right .inr
  · rw [interval_of_not_named (not_exists.1 hunit)]
    refine ⟨iff_of_false nofun fun h => hunit h.1, iff_of_false nofun fun h => hunit h.1, ?_⟩
    exact fun e he => .inr (.inl (Except.error.inj he).symm)

/-- An interval of 10^400 days is refused before its range is looked at. -/
theorem overlarge_interval_is_refused :
    (∀ n den, Value.int (10 ^ 400) = .fraction n den → 0 < den) ∧
      standard.interval (.text "day") (.int (10 ^ 400)) = .error .tooLarge := by
  have hamount : ∀ n den, Value.int (10 ^ 400) = .fraction n den → 0 < den := nofun
  refine ⟨hamount, (interval_accepted_iff standard _ _ hamount).2.1.2 ⟨⟨.day, rfl⟩, ?_⟩⟩
  have hpower : (2 : ℚ) ^ 1024 ≤ 10 ^ 400 := by
    have hnat : 2 ^ 1024 ≤ 10 ^ 400 := by decide +kernel
    exact_mod_cast hnat
  show Binary64.overflowThreshold ≤ |((10 ^ 400 : ℤ) : ℚ)|
  rw [Int.cast_pow, Int.cast_ofNat, abs_of_pos (by positivity)]
  exact Binary64.overflowThreshold_bounds.2.le.trans hpower

/-! ## §4. The text of an interval. -/

/-- The text of a count: up to seven digits behind a sign, and a zero in front
for zero only. -/
def IsCountText (n : List Char) : Prop :=
  ∃ sign digits, n = sign ++ digits ∧ (sign = [] ∨ sign = ['-']) ∧
    (1 ≤ digits.length ∧ digits.length ≤ 7) ∧ (∀ c ∈ digits, c.isDigit = true) ∧
    (digits.head? = some '0' → n = ['0'])

/-- The count is written in digits with a sign before them. -/
theorem isCountText_intText {n : ℤ} (h : n.natAbs ≤ maxIntervalAmount) :
    IsCountText (intText n) := by
  refine ⟨if n < 0 then ['-'] else [], natText n.natAbs, intText_eq n, ?_, ⟨?_, ?_⟩, ?_, ?_⟩
  · split
    · exact .inr rfl
    · exact .inl rfl
  · exact List.length_pos_iff.2 (natText_ne_nil _)
  · exact (length_natText_le_iff _ (by decide)).2 (h.trans_lt (by decide))
  · exact fun c => isDigit_of_mem_natText
  · intro hzero
    obtain hpos | hpos := Nat.eq_zero_or_pos n.natAbs
    · rw [Int.natAbs_eq_zero.1 hpos]
      rfl
    · obtain ⟨d, ds, hds, hne⟩ := natText_eq_cons hpos
      rw [hds] at hzero
      exact absurd (Option.some.inj hzero) hne

/-- A count in range is read back from its text. -/
theorem readInt_count {n : ℤ} (h : n.natAbs ≤ maxIntervalAmount) :
    readInt (intText n) = .ok n :=
  readInt_intText (isWritable_of_length_le
    ((length_natText_le_iff _ (by decide)).2 (h.trans_lt (by decide +kernel))))

/-- A count is what is left of a number once it is cut. -/
theorem intervalCount_eq_ok {n : ℤ} (h : intervalCount amount = .ok n) :
    n.natAbs ≤ maxIntervalAmount ∧ ∃ q, amount.real? = some q ∧ truncation q = n := by
  cases hq : amount.real? with
  | none =>
      obtain ⟨-, hcount⟩ | ⟨-, hcount⟩ := intervalCount_of_real?_eq_none hq <;>
        exact nomatch h.symm.trans hcount
  | some q =>
      rw [intervalCount_of_real? hq, inRange] at h
      split at h
      next =>
        split at h
        next => exact nomatch h
        next hle =>
          obtain rfl := Except.ok.inj h
          exact ⟨not_lt.1 hle, q, rfl, rfl⟩
      next => exact nomatch h

/-- A count in the fragment of a family: HANA writes it as it is, the others in
quotes. -/
def shownCount (family : Family) (n : List Char) : List Char :=
  match family with
  | .hana => n
  | .standard | .duckdb => '\'' :: n ++ ['\'']

/-- Within a family of drivers two counts that are shown alike are written
alike. -/
theorem shownCount_inj {family : Family} {n n' : List Char}
    (h : shownCount family n = shownCount family n') : n = n' := by
  cases family with
  | hana => exact h
  | _ => exact List.append_cancel_right (List.cons.inj h).2

/-- The fragment is written behind the present time. -/
theorem render_interval (d : Driver) (n : ℤ) (u : IntervalUnit) :
    ((Expr.add now (.raw (d.intervalFragment n u))).render d.dialect).toList
      = "CURRENT_TIMESTAMP + INTERVAL ".toList ++ shownCount d.family (intText n)
        ++ ' ' :: u.keyword.toList := by
  have hfragment : (d.intervalFragment n u).toList
      = "INTERVAL ".toList ++ shownCount d.family (intText n) ++ ' ' :: u.keyword.toList := by
    unfold intervalFragment shownCount
    dsimp only
    cases d.family <;>
      simp only [String.toList_append, String.toList_ofList, List.append_assoc] <;> rfl
  have hblank : ∀ c ∈ u.keyword.toList, isBlank c = false := by
    cases u <;> simp [IntervalUnit.keyword, isBlank, isSpace]
  -- the text ends with the unit, which no white space follows
  have hkeyword : EndsTight u.keyword.toList := (tight_of_forall (by cases u <;> decide) hblank).2
  have htext : (Expr.add now (.raw (d.intervalFragment n u))).renderChars d.dialect
      = "CURRENT_TIMESTAMP + INTERVAL ".toList ++ shownCount d.family (intText n)
        ++ ' ' :: u.keyword.toList := by
    rw [Expr.add, Expr.renderChars_binary, Expr.renderChars_raw, now, Expr.renderChars_raw,
      hfragment]
    rfl
  rw [Expr.render, String.toList_ofList, htext]
  exact trim_eq_self ⟨'C', _, rfl, by decide⟩ ((hkeyword.cons ' ').append _)

/-- **The text of an interval holds its count and nothing else of the amount.**
Accepted amounts of one unit are written alike exactly if the same number is
left of them. -/
theorem interval_holds_count (d : Driver) {unit amount : Value} {e : Expr}
    (h : d.interval unit amount = .ok e) :
    ∃ (u : IntervalUnit) (q : ℚ) (n : List Char),
      u.IsNamedBy unit ∧ amount.real? = some q ∧ IsCountText n ∧
      readInt n = .ok (truncation q) ∧ (|q| < 1 → n = ['0']) ∧
      u.keyword ∈ ["SECOND", "MINUTE", "HOUR", "DAY", "WEEK", "MONTH", "QUARTER", "YEAR"] ∧
      (e.render d.dialect).toList = "CURRENT_TIMESTAMP + INTERVAL ".toList
        ++ shownCount d.family n ++ ' ' :: u.keyword.toList ∧
      ∀ (amount' : Value) (q' : ℚ) (e' : Expr), amount'.real? = some q' →
        d.interval unit amount' = .ok e' →
        (e'.render d.dialect = e.render d.dialect ↔ truncation q' = truncation q) := by
  have hunit : ∃ u : IntervalUnit, u.IsNamedBy unit := by
    by_contra hnone
    exact nomatch (interval_of_not_named (not_exists.1 hnone) d amount).symm.trans h
  obtain ⟨u, hu⟩ := hunit
  obtain ⟨n, hn, rfl⟩ := (interval_eq_ok_iff hu d).1 h
  obtain ⟨hle, q, hq, rfl⟩ := intervalCount_eq_ok hn
  refine ⟨u, q, intText (truncation q), hu, hq, isCountText_intText hle, readInt_count hle, ?_,
    by cases u <;> decide, render_interval d _ u, ?_⟩
  · intro hsmall
    rw [truncation_eq_zero_iff.2 hsmall]
    rfl
  · intro amount' q' e' hq' h'
    obtain ⟨n', hn', rfl⟩ := (interval_eq_ok_iff hu d).1 h'
    obtain ⟨hle', q'', hq'', rfl⟩ := intervalCount_eq_ok hn'
    obtain rfl := Option.some.inj (hq''.symm.trans hq')
    refine ⟨fun htext => ?_, fun hcount => by rw [hcount]⟩
    -- equal texts hold equal counts, and a count is read back from its text
    have hlists := congrArg String.toList htext
    rw [render_interval, render_interval] at hlists
    have hcounts := shownCount_inj (List.append_cancel_left (List.append_cancel_right hlists))
    have hread := (readInt_count hle').symm.trans (hcounts ▸ readInt_count hle)
    exact Except.ok.inj hread

/-- Minus 2.9 months are minus two in HANA. -/
theorem interval_of_fraction_is_cut :
    hana.interval (.text "month") (.fraction (-29) 10)
        = .ok (.add now (.raw (hana.intervalFragment (-2) .month))) ∧
      ∃ n, readInt n = .ok (-2) ∧ IsCountText n ∧
        ((Expr.add now (.raw (hana.intervalFragment (-2) .month))).render hana.dialect).toList
          = "CURRENT_TIMESTAMP + INTERVAL ".toList ++ n ++ " MONTH".toList := by
  have hmonth : IntervalUnit.month.IsNamedBy (.text "month") := rfl
  have h : hana.interval (.text "month") (.fraction (-29) 10)
      = .ok (.add now (.raw (hana.intervalFragment (-2) .month))) :=
    (interval_eq_ok_iff hmonth hana).2 ⟨-2, rfl, rfl⟩
  obtain ⟨u, q, n, hu, hq, hn, hread, -, -, htext, -⟩ := interval_holds_count hana h
  obtain rfl : u = .month := Except.ok.inj ((IntervalUnit.ofValue_eq_ok_iff.2 hu).symm.trans
    (IntervalUnit.ofValue_eq_ok_iff.2 hmonth))
  obtain rfl := Option.some.inj ((Value.real?_fraction (-29) 10).symm.trans hq)
  rw [truncation_div] at hread
  exact ⟨h, n, hread, hn, htext⟩

end Driver

end SqlDialect
