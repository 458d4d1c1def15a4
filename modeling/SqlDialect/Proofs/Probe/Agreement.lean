/-
  SqlDialect.Proofs.Probe.Agreement
  ────────────────────────────────
  **THE TWO PROBES AGREE.**

  `canConnect` and `checkConnection` judge the same answer, each in its own
  way.  One says yes exactly when the other returns, which is when the answer
  is one row with one value that denotes the number 1:

      can.outcome = .ok true ↔ check.outcome = .ok ()

  and, of rows that can be written, one says no exactly when the other fails
  with a diagnosis.  Both ask once and for the same, unless the port of a host
  cannot be written; then neither asks.
-/
import SqlDialect.Driver.Builtin
import SqlDialect.Proofs.Connection.Credentials
import SqlDialect.Proofs.Value.Number

namespace SqlDialect

/-! ## §1. Answers. -/

/-- The rows are one row with one value that denotes the number 1; truth
values denote it too but do not count. -/
def HoldOne (rows : List Row) : Prop :=
  ∃ k v, rows = [[(k, v)]] ∧ v.number? = some 1 ∧ ∀ b, v ≠ .bool b

/-- The answer is a failure with a text, or rows of values that can be compared
with one. -/
def Answer.IsComparable : Answer → Prop
  | .error (some _) => True
  | .error none | .ok none => False
  | .ok (some rows) => ∀ row ∈ rows, ∀ e ∈ row, e.2.IsComparable

/-- The rows of an answer. -/
def Answer.rows? : Answer → Option (List Row)
  | .error _ => none
  | .ok rows? => rows?

/-- A truth value is no success. -/
theorem isProbeSuccess_bool (k : Value) (b : Bool) :
    isProbeSuccess [[(k, .bool b)]] = .ok false := by
  cases b <;> rfl

/-- Any other value is judged by its comparison with one. -/
theorem isProbeSuccess_of_ne_bool {k v : Value} {one : Bool} (hv : ∀ b, v ≠ .bool b)
    (hone : v.isOne? = some one) : isProbeSuccess [[(k, v)]] = .ok one := by
  simp only [isProbeSuccess, hone]
  cases v with
  | bool b => exact absurd rfl (hv b)
  | _ => exact congrArg Except.ok (Bool.and_true one)

/-- **Rows that can be compared are judged by the number that they hold.** -/
theorem exists_isProbeSuccess {rows : List Row}
    (h : ∀ row ∈ rows, ∀ e ∈ row, e.2.IsComparable) :
    ∃ b, isProbeSuccess rows = .ok b ∧ (b = true ↔ HoldOne rows) := by
  by_cases hshape : ∃ k v, rows = [[(k, v)]]
  · obtain ⟨k, v, rfl⟩ := hshape
    have hholds : HoldOne [[(k, v)]] ↔ v.number? = some 1 ∧ ∀ b, v ≠ .bool b := by
      constructor
      · rintro ⟨k', v', hrows, hone, hb⟩
        obtain ⟨rfl, rfl⟩ : k = k' ∧ v = v' := by simpa using hrows
        exact ⟨hone, hb⟩
      · rintro ⟨hone, hb⟩
        exact ⟨k, v, rfl, hone, hb⟩
    rw [hholds]
    -- a truth value equals one and is refused all the same
    by_cases hbool : ∃ b, v = .bool b
    · obtain ⟨b, rfl⟩ := hbool
      exact ⟨false, isProbeSuccess_bool k b,
        iff_of_false Bool.false_ne_true fun hone => hone.2 b rfl⟩
    · have hne : ∀ b, v ≠ .bool b := fun b hb => hbool ⟨b, hb⟩
      have hone := Value.isOne?_eq (h [(k, v)] (List.mem_singleton_self _) (k, v)
        (List.mem_singleton_self _))
      refine ⟨_, isProbeSuccess_of_ne_bool hne hone, ?_⟩
      rw [decide_eq_true_iff]
      exact ⟨fun hnumber => ⟨hnumber, hne⟩, And.left⟩
  · -- no other shape of rows is a success
    refine ⟨false, ?_, iff_of_false Bool.false_ne_true fun ⟨k, v, hrows, _⟩ =>
      hshape ⟨k, v, hrows⟩⟩
    unfold isProbeSuccess
    split
    next k v => exact absurd ⟨k, v, rfl⟩ hshape
    next => rfl

/-! ## §2. Verdicts. -/

namespace Driver

variable {d : Driver} {ask : Answering} {p : Parameters} {timeout : Value}

/-- How the results of the two probes go together when the driver is given the
same answer. -/
structure ProbesAgree (d : Driver) (answer : Answer) (can : Except ProbeError Bool)
    (check : Except ProbeError Unit) : Prop where
  /-- One always has an answer. -/
  yes_or_no : can = .ok true ∨ can = .ok false
  /-- It says yes when the other returns. -/
  yes_iff : can = .ok true ↔ check = .ok ()
  /-- That is when the answer is the number 1. -/
  holdOne_iff : can = .ok true ↔ ∃ rows, answer.rows? = some rows ∧ HoldOne rows
  /-- It says no when the other fails with a diagnosis, if there are no rows or
  they can be written. -/
  no_iff : (∀ rows, answer.rows? = some rows → Value.rowsAreWritable rows = true) →
    (can = .ok false ↔ ∃ diagnosis message, check = .error (.failed diagnosis message))
  /-- A failure to answer is diagnosed by its text, which is kept. -/
  failed : ∀ text, answer = .error (some text) →
    check = .error (.failed (d.diagnose text) ((d.diagnose text).humanize Category.message?)) ∧
      (d.diagnose text).message = text

/-- Probes of a driver that get no answer agree. -/
theorem probesAgree_of_error {text : String}
    (h : (d.sendProbe ask p timeout).outcome = .error (some text)) :
    ProbesAgree d (.error (some text)) (d.canConnect ask p timeout).outcome
      (d.checkConnection ask p timeout).outcome := by
  have hcan : (d.canConnect ask p timeout).outcome = .ok false := by
    unfold canConnect
    simp only [h]
  have hcheck : (d.checkConnection ask p timeout).outcome
      = .error (.failed (d.diagnose text) ((d.diagnose text).humanize Category.message?)) := by
    unfold checkConnection
    simp only [h]
  -- neither probe succeeds, and both have the error for their reason
  rw [hcan, hcheck]
  exact {
    yes_or_no := .inr rfl
    yes_iff := iff_of_false nofun nofun
    holdOne_iff := iff_of_false nofun fun ⟨_, hrows, _⟩ => nomatch hrows
    no_iff := fun _ => iff_of_true rfl ⟨_, _, rfl⟩
    failed := fun text' htext => by
      obtain rfl := Option.some.inj (Except.error.inj htext)
      exact ⟨rfl, message_diagnose _ _⟩ }

/-- One probe says what the verdict on the rows is. -/
theorem canConnect_of_rows {rows : List Row} {success : Bool}
    (h : (d.sendProbe ask p timeout).outcome = .ok (some rows))
    (hverdict : isProbeSuccess rows = .ok success) :
    (d.canConnect ask p timeout).outcome = .ok success := by
  unfold canConnect
  simp only [h, hverdict]
  cases success <;> rfl

/-- The other probe writes rows that are no success. -/
theorem checkConnection_of_unexpected {rows : List Row}
    (h : (d.sendProbe ask p timeout).outcome = .ok (some rows))
    (hverdict : isProbeSuccess rows = .ok false) :
    (d.checkConnection ask p timeout).outcome
      = if Value.rowsAreWritable rows then
          .error (.failed (unexpectedResult rows) (unexpectedResult rows).message)
        else .error .tooManyDigits := by
  unfold checkConnection
  simp only [h, hverdict]

/-- Probes of a driver that get rows agree. -/
theorem probesAgree_of_rows {rows : List Row}
    (h : (d.sendProbe ask p timeout).outcome = .ok (some rows))
    (hrows : ∀ row ∈ rows, ∀ e ∈ row, e.2.IsComparable) :
    ProbesAgree d (.ok (some rows)) (d.canConnect ask p timeout).outcome
      (d.checkConnection ask p timeout).outcome := by
  have hheld : ∀ {P : List Row → Prop},
      (∃ rows', Answer.rows? (.ok (some rows)) = some rows' ∧ P rows') ↔ P rows :=
    ⟨fun ⟨_, heq, hP⟩ => Option.some.inj heq ▸ hP, fun hP => ⟨rows, rfl, hP⟩⟩
  obtain ⟨success, hverdict, hone⟩ := exists_isProbeSuccess hrows
  have hcan := canConnect_of_rows h hverdict
  cases success with
  | true =>
      have hcheck : (d.checkConnection ask p timeout).outcome = .ok () := by
        unfold checkConnection
        simp only [h, hverdict]
      rw [hcan, hcheck]
      exact {
        yes_or_no := .inl rfl
        yes_iff := iff_of_true rfl rfl
        holdOne_iff := iff_of_true rfl (hheld.2 (hone.1 rfl))
        no_iff := fun _ => iff_of_false nofun fun ⟨_, _, hfail⟩ => nomatch hfail
        failed := nofun }
  | false =>
      have hcheck := checkConnection_of_unexpected h hverdict
      have hnotOne : ¬ ∃ rows', Answer.rows? (.ok (some rows)) = some rows' ∧ HoldOne rows' :=
        fun hex => Bool.false_ne_true (hone.2 (hheld.1 hex))
      rw [hcan, hcheck]
      exact {
        yes_or_no := .inr rfl
        yes_iff := iff_of_false nofun (by split <;> exact nofun)
        holdOne_iff := iff_of_false nofun hnotOne
        -- the diagnosis writes the rows
        no_iff := fun hwritable => iff_of_true rfl ⟨_, _, if_pos (hwritable rows rfl)⟩
        failed := nofun }

/-- Two probes of one connection that get one answer agree on it. -/
theorem probesAgree_of_answer {answer : Answer}
    (h : (d.sendProbe ask p timeout).outcome = answer) (hanswer : answer.IsComparable) :
    ProbesAgree d answer (d.canConnect ask p timeout).outcome
      (d.checkConnection ask p timeout).outcome := by
  match answer with
  | .error (some text) => exact probesAgree_of_error h
  | .ok (some rows) => exact probesAgree_of_rows h hanswer

/-! ## §3. Probes. -/

/-- **The two probes agree.**  Typed parameters give a descriptor, for which
each probe asks once, with the probe query and the timeout that is given; the
results go together as the answer tells.  Only a port with more digits than are
written gives none: then neither probe asks, and both report it. -/
theorem probes_agree (d : Driver) (f : Form) (timeout : Value) (ask : Answering)
    (hanswer : ∀ r, (ask r).IsComparable) :
    (d.family ≠ .duckdb ∧ (d.portOf f.toParameters).isWritable = false ∧
      (d.canConnect ask f.toParameters timeout).requests = [] ∧
      (d.checkConnection ask f.toParameters timeout).requests = [] ∧
      ProbesAgree d (.error (some SpecError.tooManyDigits.message))
        (d.canConnect ask f.toParameters timeout).outcome
        (d.checkConnection ask f.toParameters timeout).outcome) ∨
    ∃ desc, d.descriptor f.toParameters = .ok desc ∧
      (d.canConnect ask f.toParameters timeout).requests = [⟨desc, d.probeQuery, timeout⟩] ∧
      (d.checkConnection ask f.toParameters timeout).requests
        = [⟨desc, d.probeQuery, timeout⟩] ∧
      ProbesAgree d (ask ⟨desc, d.probeQuery, timeout⟩)
        (d.canConnect ask f.toParameters timeout).outcome
        (d.checkConnection ask f.toParameters timeout).outcome := by
  -- both probes send the same question
  have hcheck : (d.checkConnection ask f.toParameters timeout).requests
      = (d.sendProbe ask f.toParameters timeout).requests := rfl
  rw [requests_canConnect, hcheck]
  obtain ⟨hfamily, hport, herror⟩ | ⟨desc, hdesc, -⟩ := d.descriptor_toParameters f
  · have hsent : d.sendProbe ask f.toParameters timeout
        = ⟨.error (some SpecError.tooManyDigits.message), [], []⟩ := by
      rw [sendProbe, herror]
    refine .inl ⟨hfamily, hport, ?_, ?_, probesAgree_of_answer ?_ trivial⟩ <;> rw [hsent]
  · have hsent : d.sendProbe ask f.toParameters timeout
        = ⟨ask ⟨desc, d.probeQuery, timeout⟩, [⟨desc, d.probeQuery, timeout⟩],
            [d.probingNote desc]⟩ := by
      rw [sendProbe, hdesc]
    refine .inr ⟨desc, hdesc, ?_, ?_, probesAgree_of_answer ?_ (hanswer _)⟩ <;> rw [hsent]

/-- A decimal is a one with places behind its point, and a refusal is diagnosed. -/
theorem probes_agree_hana :
    (∃ desc, Driver.hana.descriptor (Form.toParameters { host := some "h" }) = .ok desc ∧
      (Driver.hana.checkConnection
          (fun _ => .ok (some [[("1", .decimal (.finite false 100 (-2)))]]))
          (Form.toParameters { host := some "h" }) defaultTimeout).requests
        = [⟨desc, "SELECT 1 FROM DUMMY", defaultTimeout⟩] ∧
      (Driver.hana.canConnect
          (fun _ => .ok (some [[("1", .decimal (.finite false 100 (-2)))]]))
          (Form.toParameters { host := some "h" }) defaultTimeout).outcome = .ok true) ∧
    (Driver.hana.checkConnection (fun _ => .error (some "authentication failed"))
        (Form.toParameters { host := some "h" }) defaultTimeout).outcome
      = .error (.failed ⟨.usernameOrPassword, "authentication failed"⟩
          "The username or password looks incorrect.") := by
  constructor
  · obtain ⟨-, hlong, -⟩ | ⟨desc, hdesc, -, hrequests, hagree⟩ :=
      probes_agree Driver.hana { host := some "h" } defaultTimeout
        (fun _ => .ok (some [[("1", .decimal (.finite false 100 (-2)))]])) (by
          rintro - row hrow e he
          obtain rfl := List.mem_singleton.1 hrow
          obtain rfl := List.mem_singleton.1 he
          exact trivial)
    · exact absurd hlong (isWritable_portOf_hana rfl)
    · refine ⟨desc, hdesc, hrequests, hagree.holdOne_iff.2 ⟨_, rfl, _, _, rfl, ?_, nofun⟩⟩
      exact (Number.Decimal.isOne_iff _).1 (by decide)
  · obtain ⟨-, hlong, -⟩ | ⟨desc, -, -, -, hagree⟩ :=
      probes_agree Driver.hana { host := some "h" } defaultTimeout
        (fun _ => .error (some "authentication failed")) fun _ => trivial
    · exact absurd hlong (isWritable_portOf_hana rfl)
    · have hcategory : Driver.hana.diagnose "authentication failed"
          = ⟨.usernameOrPassword, "authentication failed"⟩ := by decide +kernel
      have hfailed := (hagree.failed _ rfl).1
      rw [hcategory] at hfailed
      exact hfailed

/-! ## §4. Numbers that cannot be written. -/

/-- A port with too many digits is asked nothing. -/
theorem sendProbe_of_long_port (ask : Answering) (timeout : Value) {f : Form}
    (hfamily : d.family ≠ .duckdb) (hport : (d.portOf f.toParameters).isWritable = false) :
    d.sendProbe ask f.toParameters timeout
      = ⟨.error (some SpecError.tooManyDigits.message), [], []⟩ := by
  rw [sendProbe, descriptor_of_long_port hfamily hport]

/-- A number with too many digits is no success and cannot be diagnosed. -/
theorem outcomes_of_long_number {k : Value} {n : Int} (hn : Number.isWritable n = false)
    (h : (d.sendProbe ask p timeout).outcome = .ok (some [[(k, .int n)]])) :
    (d.canConnect ask p timeout).outcome = .ok false ∧
      (d.checkConnection ask p timeout).outcome = .error .tooManyDigits := by
  have hverdict : isProbeSuccess [[(k, .int n)]] = .ok false := by
    have hone : n ≠ 1 := by
      rintro rfl
      exact absurd hn (by rw [Number.isWritable_of_length_le (by decide)]; exact nofun)
    exact isProbeSuccess_of_ne_bool nofun (congrArg some (beq_eq_false_iff_ne.2 hone))
  have hrows : Value.rowsAreWritable [[(k, .int n)]] = false := by
    show (((k.isWritable && Number.isWritable n) && true) && true) = false
    rw [hn, Bool.and_false]
    rfl
  refine ⟨canConnect_of_rows h hverdict, ?_⟩
  rw [checkConnection_of_unexpected h hverdict, hrows]
  rfl

/-- A failure that shows such a number says nothing, -/
theorem text?_of_long_number {n : Int} (hn : Number.isWritable n = false) :
    Failure.text? ⟨.other, [.int n]⟩ = none := by
  have hshown : Failure.shownArgs ⟨.other, [.int n]⟩ = [.int n] := rfl
  have hwritable : (Value.int n).isWritable = false := hn
  rw [Failure.text?, hshown, List.all_cons, hwritable]
  rfl

/-- and cannot be diagnosed either. -/
theorem outcomes_of_textless (h : (d.sendProbe ask p timeout).outcome = .error none) :
    (d.canConnect ask p timeout).outcome = .ok false ∧
      (d.checkConnection ask p timeout).outcome = .error .tooManyDigits := by
  unfold canConnect checkConnection
  simp only [h, and_self]

/-- **Numbers with too many digits stop the probes.**  A port of 5001 digits is
asked nothing, and of rows that hold such a number, or of a failure that shows
it, one probe says no while the other has no diagnosis. -/
theorem long_numbers_stop_probes :
    ∃ n : Nat, n = Number.power 10 5000 ∧
      (Driver.standard.canConnect (fun _ => .ok (some [[("a", .int 1)]]))
        (Form.toParameters { port := some n }) defaultTimeout).requests = [] ∧
      (Driver.standard.canConnect (fun _ => .ok (some [[("a", .int 1)]]))
        (Form.toParameters { port := some n }) defaultTimeout).outcome = .ok false ∧
      (Driver.duckdb.canConnect (fun _ => .ok (some [[("a", .int n)]]))
        (Form.toParameters {}) defaultTimeout).outcome = .ok false ∧
      (Driver.duckdb.checkConnection (fun _ => .ok (some [[("a", .int n)]]))
        (Form.toParameters {}) defaultTimeout).outcome = .error .tooManyDigits ∧
      (Driver.duckdb.canConnect (fun _ => .error (Failure.text? ⟨.other, [.int n]⟩))
        (Form.toParameters {}) defaultTimeout).outcome = .ok false ∧
      (Driver.duckdb.checkConnection (fun _ => .error (Failure.text? ⟨.other, [.int n]⟩))
        (Form.toParameters {}) defaultTimeout).outcome = .error .tooManyDigits := by
  obtain ⟨n, hn, hlong⟩ := Number.exists_long_number
  -- the port stops the probe before it is sent
  have hsent : ∀ ask, Driver.standard.sendProbe ask (Form.toParameters { port := some n })
      defaultTimeout = ⟨.error (some SpecError.tooManyDigits.message), [], []⟩ :=
    fun ask => sendProbe_of_long_port ask defaultTimeout nofun hlong
  refine ⟨n, hn, ?_, ?_, and_assoc.1 ⟨outcomes_of_long_number hlong rfl,
    outcomes_of_textless (congrArg Except.error (text?_of_long_number hlong))⟩⟩
  · rw [requests_canConnect, hsent]
  · unfold canConnect
    rw [hsent]

end Driver

end SqlDialect
