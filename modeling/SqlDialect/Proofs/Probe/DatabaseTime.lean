/-
  SqlDialect.Proofs.Probe.DatabaseTime
  ────────────────────────────────
  **THE TIME OF THE DATABASE IS TOLD OR ITS LACK REPORTED.**

  A driver asks for the time once.  Whatever comes back, rows, null or a
  failure with a text, it tells a moment with an offset or reports an error of
  its own:

      outcome = .ok m ∧ m.offset.isSome  ∨  outcome = .error e ∧ e.IsOwn

  A moment is taken as it is, in universal time if it has no offset; any other
  value is judged by its text.  Numbers with more digits than are written are
  the exception, as a port and as the value.
-/
import Mathlib.Data.String.Basic
import SqlDialect.Probe.DatabaseTime
import SqlDialect.Proofs.Calendar.Timestamp
import SqlDialect.Proofs.Connection.Credentials

namespace SqlDialect

open SqlDialect.Calendar

/-! ## §1. Answers and errors. -/

/-- The first value of the first row, if there is one. -/
def Answer.firstValue? : Answer → Option Value
  | .ok (some (((_, v) :: _) :: _)) => some v
  | _ => none

/-- The error is reported by the driver and does not just pass through it. -/
def DatabaseTimeError.IsOwn : DatabaseTimeError → Prop
  | .noQuery _ | .queryFailed .. | .noRows _ | .unreadable .. => True
  | .tooManyDigits | .repeatedField _ | .spec _ => False

namespace Driver

variable {d : Driver} {ask : Answering} {p : Parameters} {timeout : Value} {query : String}

/-- What a driver makes of an answer. -/
structure TellsTime (d : Driver) (answer : Answer) (outcome : Except DatabaseTimeError Moment) :
    Prop where
  /-- There is a moment with an offset or an error of the driver. -/
  total : (∃ m, outcome = .ok m ∧ m.offset.isSome = true) ∨ ∃ e, outcome = .error e ∧ e.IsOwn
  failed : ∀ text, answer = .error (some text) → outcome = .error (.queryFailed d.name text)
  /-- Null, no row and a row without values are no time. -/
  empty : ∀ rows?, answer = .ok rows? → answer.firstValue? = none →
    outcome = .error (.noRows d.name)
  /-- A wall clock is one of universal time. -/
  wallClock : ∀ date clock, answer.firstValue? = some (.moment ⟨date, clock, none⟩) →
    outcome = .ok ⟨date, clock, some .utc⟩
  aware : ∀ m, m.offset.isSome = true → answer.firstValue? = some (.moment m) → outcome = .ok m
  /-- Any other value is read by its text, as a wall clock of universal time, -/
  read : ∀ v, answer.firstValue? = some v → (∀ m, v ≠ .moment m) → ∀ m,
    outcome = .ok m ↔ ∃ date clock, IsTimeText v.shownChars date clock ∧
      m = ⟨date, clock, some .utc⟩
  /-- and the driver reports it if its text is no time text. -/
  unreadable : ∀ v, answer.firstValue? = some v → (∀ m, v ≠ .moment m) →
    (¬ ∃ date clock, IsTimeText v.shownChars date clock) →
      ∃ fault, outcome = .error (.unreadable v d.timeFormat fault)

/-! ## §2. The moment in a value. -/

section Reading

variable {v : Value}

/-- A value that is no moment is read by its text. -/
theorem momentOf_of_text (hformat : d.timeFormat = usualFormat) (hv : ∀ m, v ≠ .moment m)
    (hwritable : v.isWritable = true) :
    d.momentOf v = match Moment.ofFormat usualFormat.toList v.shownChars with
      | .ok m => .ok m.assumingUtc
      | .error (.repeatedField r) => .error (.repeatedField r)
      | .error fault => .error (.unreadable v d.timeFormat fault) := by
  unfold momentOf
  split
  · exact absurd rfl (hv _)
  · rw [hwritable, ← hformat]
    rfl

/-- A number with more digits than are written cannot even be reported. -/
theorem momentOf_of_long (hv : ∀ m, v ≠ .moment m) (hlong : v.isWritable = false) :
    d.momentOf v = .error .tooManyDigits := by
  unfold momentOf
  split
  · exact absurd rfl (hv _)
  · rw [hlong]
    rfl

/-- It is a time if its text is one, -/
theorem momentOf_eq_ok_iff (hformat : d.timeFormat = usualFormat) (hv : ∀ m, v ≠ .moment m)
    (hwritable : v.isWritable = true) {m : Moment} :
    d.momentOf v = .ok m ↔ ∃ date clock, IsTimeText v.shownChars date clock ∧
      m = ⟨date, clock, some .utc⟩ := by
  rw [momentOf_of_text hformat hv hwritable]
  constructor
  · intro h
    split at h
    next m' hread =>
      obtain ⟨date, clock, htext, rfl⟩ := ofFormat_usual_eq_ok_iff.1 hread
      exact ⟨date, clock, htext, (Except.ok.inj h).symm⟩
    · exact absurd h nofun
    · exact absurd h nofun
  · rintro ⟨date, clock, htext, rfl⟩
    rw [ofFormat_usual_eq_ok_iff.2 ⟨date, clock, htext, rfl⟩]
    rfl

/-- and otherwise it cannot be read. -/
theorem exists_momentOf_eq_unreadable (hformat : d.timeFormat = usualFormat)
    (hv : ∀ m, v ≠ .moment m) (hwritable : v.isWritable = true)
    (h : ¬ ∃ date clock, IsTimeText v.shownChars date clock) :
    ∃ fault, d.momentOf v = .error (.unreadable v d.timeFormat fault) := by
  rw [momentOf_of_text hformat hv hwritable]
  cases hread : Moment.ofFormat usualFormat.toList v.shownChars with
  | ok m =>
      obtain ⟨date, clock, htext, -⟩ := ofFormat_usual_eq_ok_iff.1 hread
      exact absurd ⟨date, clock, htext⟩ h
  | error fault =>
      obtain rfl | ⟨rest, rfl⟩ | ⟨e, rfl⟩ := fault_of_ofFormat_usual hread
      · exact ⟨_, rfl⟩
      · exact ⟨_, rfl⟩
      · exact ⟨_, rfl⟩

/-- A value that can be written is a moment or cannot be read. -/
theorem momentOf_total (hformat : d.timeFormat = usualFormat) (hwritable : v.isWritable = true) :
    (∃ m, d.momentOf v = .ok m ∧ m.offset.isSome = true) ∨
      ∃ fault, d.momentOf v = .error (.unreadable v d.timeFormat fault) := by
  by_cases hv : ∃ m, v = .moment m
  · obtain ⟨m, rfl⟩ := hv
    exact .inl ⟨m.assumingUtc, rfl, m.isSome_assumingUtc⟩
  · have hne : ∀ m, v ≠ .moment m := fun m hm => hv ⟨m, hm⟩
    by_cases htext : ∃ date clock, IsTimeText v.shownChars date clock
    · obtain ⟨date, clock, htext⟩ := htext
      exact .inl ⟨_, (momentOf_eq_ok_iff hformat hne hwritable).2 ⟨date, clock, htext, rfl⟩, rfl⟩
    · exact .inr (exists_momentOf_eq_unreadable hformat hne hwritable htext)

end Reading

/-! ## §3. The moment in an answer. -/

/-- The moment in an answer is that of its first value. -/
theorem momentOfAnswer_of_firstValue {answer : Answer} {v : Value}
    (h : answer.firstValue? = some v) : d.momentOfAnswer answer = d.momentOf v := by
  unfold Answer.firstValue? at h
  split at h
  · obtain rfl := Option.some.inj h
    rfl
  · exact absurd h nofun

/-- An answer without a value is reported as one without rows. -/
theorem momentOfAnswer_of_empty {rows? : Option (List Row)}
    (h : Answer.firstValue? (.ok rows?) = none) :
    d.momentOfAnswer (.ok rows?) = .error (.noRows d.name) := by
  unfold momentOfAnswer
  split
  next htext => exact absurd htext nofun
  next htext => exact absurd htext nofun
  next hrows =>
    rw [hrows] at h
    exact absurd h nofun
  next => rfl

/-- **What a driver makes of an answer whose value or failure can be written.** -/
theorem tellsTime_momentOfAnswer (hformat : d.timeFormat = usualFormat) {answer : Answer}
    (htext : answer ≠ .error none)
    (hvalue : ∀ v, answer.firstValue? = some v → v.isWritable = true) :
    TellsTime d answer (d.momentOfAnswer answer) where
  total := by
    -- a first value is turned into a time, and without one there is an error
    cases hfirst : answer.firstValue? with
    | some v =>
        rw [momentOfAnswer_of_firstValue hfirst]
        exact (momentOf_total hformat (hvalue v hfirst)).imp_right fun ⟨_, h⟩ => ⟨_, h, trivial⟩
    | none =>
        match answer with
        | .error none => exact absurd rfl htext
        | .error (some text) => exact .inr ⟨_, rfl, trivial⟩
        | .ok rows? => exact .inr ⟨_, momentOfAnswer_of_empty hfirst, trivial⟩
  failed text h := by rw [h]; rfl
  empty rows? h hfirst := by
    subst h
    exact momentOfAnswer_of_empty hfirst
  wallClock date clock h := momentOfAnswer_of_firstValue h
  aware m hm h := by
    obtain ⟨o, ho⟩ := Option.isSome_iff_exists.1 hm
    have hself : m.assumingUtc = m := by rw [Moment.assumingUtc, ho]
    rw [momentOfAnswer_of_firstValue h, momentOf, hself]
  read v h hv m := by
    rw [momentOfAnswer_of_firstValue h]
    exact momentOf_eq_ok_iff hformat hv (hvalue v h)
  unreadable v h hv htext := by
    rw [momentOfAnswer_of_firstValue h]
    exact exists_momentOf_eq_unreadable hformat hv (hvalue v h) htext

/-! ## §4. Asking. -/

/-- Without a descriptor nothing is asked. -/
theorem databaseTime_of_error {e : SpecError} (hquery : d.timeQuery = some query)
    (h : d.descriptor p = .error e) :
    d.databaseTime ask p timeout = ⟨.error (.spec e), [], []⟩ := by
  simp only [databaseTime, hquery, h]

/-- With a descriptor the query is asked once. -/
theorem databaseTime_of_ok {desc : Descriptor} (hquery : d.timeQuery = some query)
    (h : d.descriptor p = .ok desc) :
    d.databaseTime ask p timeout
      = ⟨d.momentOfAnswer (ask ⟨desc, query, timeout⟩), [⟨desc, query, timeout⟩], []⟩ := by
  simp only [databaseTime, hquery, h]

/-- The built-in drivers ask for the time and read it in the usual format. -/
theorem usualTime_of_builtin : ∀ d ∈ [standard, hana, duckdb],
    (∃ query, d.timeQuery = some query) ∧ d.timeFormat = usualFormat := by
  simp only [List.forall_mem_cons]
  exact ⟨⟨⟨_, rfl⟩, rfl⟩, ⟨⟨_, rfl⟩, rfl⟩, ⟨⟨_, rfl⟩, rfl⟩, List.forall_mem_nil _⟩

/-- A moment on a leap day, just before midnight. -/
def leapDay : Date := ⟨2024, 2, 29, by decide⟩

def beforeMidnight : Clock := ⟨23, 59, 59, 123000, by decide⟩

/-- **The time of the database is told or its lack reported.**  For typed
parameters a built-in driver asks once, with its query for the time, and makes
a moment with an offset or an error of its own of the answer, whatever it is,
if a failure has a text and the value in rows can be written.  Only a port with
more digits than are written is asked nothing, and the error passes through. -/
theorem databaseTime_total (hd : d ∈ [standard, hana, duckdb]) (f : Form) (timeout : Value)
    (ask : Answering) (htext : ∀ r, ask r ≠ .error none)
    (hvalue : ∀ r v, (ask r).firstValue? = some v → v.isWritable = true) :
    ∃ query, d.timeQuery = some query ∧
      ((d.family ≠ .duckdb ∧ (d.portOf f.toParameters).isWritable = false ∧
        (d.databaseTime ask f.toParameters timeout).requests = [] ∧
        (d.databaseTime ask f.toParameters timeout).outcome = .error (.spec .tooManyDigits)) ∨
      ∃ desc, d.descriptor f.toParameters = .ok desc ∧
        (d.databaseTime ask f.toParameters timeout).requests = [⟨desc, query, timeout⟩] ∧
        TellsTime d (ask ⟨desc, query, timeout⟩)
          (d.databaseTime ask f.toParameters timeout).outcome) := by
  obtain ⟨⟨query, hquery⟩, hformat⟩ := usualTime_of_builtin d hd
  refine ⟨query, hquery, ?_⟩
  obtain ⟨hfamily, hport, herror⟩ | ⟨desc, hdesc, -⟩ := d.descriptor_toParameters f
  · rw [databaseTime_of_error hquery herror]
    exact .inl ⟨hfamily, hport, rfl, rfl⟩
  · rw [databaseTime_of_ok hquery hdesc]
    exact .inr ⟨desc, hdesc, rfl, tellsTime_momentOfAnswer hformat (htext _) fun v => hvalue _ v⟩

/-- A wall clock is one of universal time, and a failure is reported. -/
theorem databaseTime_total_duckdb :
    ∃ desc, Driver.duckdb.descriptor (Form.toParameters {}) = .ok desc ∧
      (Driver.duckdb.databaseTime
          (fun _ => .ok (some [[(.text "now", .moment ⟨leapDay, beforeMidnight, none⟩)]]))
          (Form.toParameters {}) defaultTimeout).requests
        = [⟨desc, "SELECT CAST(now() AT TIME ZONE 'UTC' AS TIMESTAMP)", defaultTimeout⟩] ∧
      (Driver.duckdb.databaseTime
          (fun _ => .ok (some [[(.text "now", .moment ⟨leapDay, beforeMidnight, none⟩)]]))
          (Form.toParameters {}) defaultTimeout).outcome
        = .ok ⟨leapDay, beforeMidnight, some .utc⟩ ∧
      (Driver.duckdb.databaseTime (fun _ => .error (some "disk full")) (Form.toParameters {})
          defaultTimeout).outcome = .error (.queryFailed "duckdb" "disk full") := by
  obtain ⟨query, hquery, ⟨hfamily, -⟩ | ⟨desc, hdesc, hrequests, htells⟩⟩ :=
    databaseTime_total (d := .duckdb) (by simp) {} defaultTimeout
      (fun _ => .ok (some [[(.text "now", .moment ⟨leapDay, beforeMidnight, none⟩)]]))
      (fun _ => nofun) (by rintro - v hv; obtain rfl := Option.some.inj hv; rfl)
  · exact absurd rfl hfamily
  obtain ⟨query', hquery', ⟨hfamily, -⟩ | ⟨desc', -, -, htells'⟩⟩ :=
    databaseTime_total (d := .duckdb) (by simp) {} defaultTimeout
      (fun _ => .error (some "disk full")) (fun _ => nofun)
      (by rintro - v hv; exact absurd hv nofun)
  · exact absurd rfl hfamily
  -- one query is sent, however it is answered
  obtain rfl := Option.some.inj hquery
  exact ⟨desc, hdesc, hrequests, htells.wallClock _ _ rfl, htells'.failed _ rfl⟩

/-! ## §5. Numbers that cannot be written. -/

/-- **Numbers with too many digits stop the time of the database.**  With a port
of 5001 digits nothing is asked, and neither then nor for such a value is the
error one of the driver. -/
theorem long_numbers_stop_time :
    ∃ n : Nat, n = Number.power 10 5000 ∧
      (Driver.standard.databaseTime
        (fun _ => .ok (some [[(.text "t", .moment ⟨leapDay, beforeMidnight, none⟩)]]))
        (Form.toParameters { port := some n }) defaultTimeout).requests = [] ∧
      (Driver.standard.databaseTime
        (fun _ => .ok (some [[(.text "t", .moment ⟨leapDay, beforeMidnight, none⟩)]]))
        (Form.toParameters { port := some n }) defaultTimeout).outcome
          = .error (.spec .tooManyDigits) ∧
      (Driver.duckdb.databaseTime (fun _ => .ok (some [[(.text "t", .int n)]]))
        (Form.toParameters {}) defaultTimeout).outcome = .error .tooManyDigits ∧
      ¬ (DatabaseTimeError.spec .tooManyDigits).IsOwn ∧
      ¬ DatabaseTimeError.tooManyDigits.IsOwn := by
  obtain ⟨n, hn, hlong⟩ := Number.exists_long_number
  have hsent : ∀ ask, Driver.standard.databaseTime ask (Form.toParameters { port := some n })
      defaultTimeout = ⟨.error (.spec .tooManyDigits), [], []⟩ :=
    fun ask => databaseTime_of_error rfl (descriptor_of_long_port nofun hlong)
  obtain ⟨hfamily, -⟩ | ⟨desc, hdesc, -⟩ := Driver.duckdb.descriptor_toParameters {}
  · exact absurd rfl hfamily
  refine ⟨n, hn, by rw [hsent], by rw [hsent], ?_, id, id⟩
  rw [databaseTime_of_ok rfl hdesc]
  have hvalue : (Value.int n).isWritable = false := by
    rw [Value.isWritable]
    exact hlong
  -- the driver without a server has no port, but an answer may be as long
  have hread : Driver.duckdb.momentOf (.int n) = .error .tooManyDigits :=
    momentOf_of_long (fun _ => nofun) hvalue
  have hfirst : Answer.firstValue? (.ok (some [[(.text "t", .int n)]])) = some (.int n) := rfl
  rw [momentOfAnswer_of_firstValue hfirst, hread]

/-! ## §6. Times as databases write them. -/

/-- The driver is answered with the text when it asks for the time. -/
def IsTold (d : Driver) (ask : Answering) (p : Parameters) (timeout : Value) (text : String) :
    Prop :=
  ∃ r ∈ (d.databaseTime ask p timeout).requests, (ask r).firstValue? = some (.text text)

/-- A time is told by the first value of the first row. -/
theorem isTold_of_firstValue {desc : Descriptor} {text : String}
    (hquery : d.timeQuery = some query) (hdesc : d.descriptor p = .ok desc)
    (hfirst : (ask ⟨desc, query, timeout⟩).firstValue? = some (.text text)) :
    IsTold d ask p timeout text := by
  refine ⟨⟨desc, query, timeout⟩, ?_, hfirst⟩
  rw [databaseTime_of_ok hquery hdesc]
  exact List.mem_singleton_self _

/-- A driver that is told a text reads it. -/
theorem outcome_of_isTold {text : String} (h : IsTold d ask p timeout text) :
    (d.databaseTime ask p timeout).outcome = d.momentOf (.text text) := by
  obtain ⟨r, hr, hfirst⟩ := h
  -- who has asked has a query and a descriptor
  cases hquery : d.timeQuery with
  | none =>
      have hnone : (d.databaseTime ask p timeout).requests = [] := by
        simp only [databaseTime, hquery]
      rw [hnone] at hr
      exact absurd hr List.not_mem_nil
  | some query =>
      cases hdesc : d.descriptor p with
      | error e =>
          rw [databaseTime_of_error hquery hdesc] at hr
          exact absurd hr List.not_mem_nil
      | ok desc =>
          rw [databaseTime_of_ok hquery hdesc] at hr ⊢
          obtain rfl := List.mem_singleton.1 hr
          exact momentOfAnswer_of_firstValue hfirst

/-- The text that a database writes is read as the wall clock in universal time. -/
theorem outcome_of_timestamp {k : Nat} {date : Date} {clock : Clock}
    (hformat : d.timeFormat = usualFormat) (hk : 1 ≤ k ∧ k ≤ 6) (hclock : clock.ShowsIn k)
    (htold : IsTold d ask p timeout (String.ofList (timestampText k date clock))) :
    (d.databaseTime ask p timeout).outcome = .ok ⟨date, clock, some .utc⟩ := by
  rw [outcome_of_isTold htold]
  refine (momentOf_eq_ok_iff (v := .text _) hformat (fun _ => nofun) rfl).2
    ⟨date, clock, ?_, rfl⟩
  show IsTimeText (String.ofList (timestampText k date clock)).toList date clock
  rw [String.toList_ofList]
  exact isTimeText_timestampText hk hclock

/-- **The text of the clock is decoded exactly.**  A driver with the usual format
that is told the text of a wall clock, `YYYY-MM-DD HH:MM:SS.f` with one to six
places that show all its microseconds, tells this wall clock in universal time.
Two such texts with the same number of places are told as the same moment if
they are the same only, and as moments in the order of the texts. -/
theorem databaseTime_decodes {d d' : Driver} {ask ask' : Answering} {p p' : Parameters}
    {timeout timeout' : Value} {k : Nat} {date date' : Date} {clock clock' : Clock}
    (hformat : d.timeFormat = Driver.standard.timeFormat)
    (hformat' : d'.timeFormat = Driver.standard.timeFormat) (hk : 1 ≤ k ∧ k ≤ 6)
    (hclock : clock.ShowsIn k) (hclock' : clock'.ShowsIn k)
    (htold : IsTold d ask p timeout (String.ofList (timestampText k date clock)))
    (htold' : IsTold d' ask' p' timeout' (String.ofList (timestampText k date' clock'))) :
    (d.databaseTime ask p timeout).outcome = .ok ⟨date, clock, some .utc⟩ ∧
    ∀ m m', (d.databaseTime ask p timeout).outcome = .ok m →
      (d'.databaseTime ask' p' timeout').outcome = .ok m' →
      (m.same m' = true ↔ timestampText k date clock = timestampText k date' clock') ∧
      ∃ t t', m.instant? = some t ∧ m'.instant? = some t' ∧
        (String.ofList (timestampText k date clock) < String.ofList (timestampText k date' clock') ↔
          t < t') := by
  have hread := outcome_of_timestamp hformat hk hclock htold
  have hread' := outcome_of_timestamp hformat' hk hclock' htold'
  refine ⟨hread, fun m m' hm hm' => ?_⟩
  -- either outcome is known, so only the two texts are to be compared
  obtain rfl := Except.ok.inj (hread.symm.trans hm)
  obtain rfl := Except.ok.inj (hread'.symm.trans hm')
  refine ⟨?_, _, _, instant?_utc date clock, instant?_utc date' clock', ?_⟩
  · rw [timestampText_eq_iff hk hclock hclock', same_utc_iff]
  · rw [String.lt_iff_toList_lt, String.toList_ofList, String.toList_ofList]
    exact (timestampText_lt_iff hk hclock hclock').trans Int.ofNat_lt.symm

/-- The first instant after the leap day. -/
def marchFirst : Date := ⟨2024, 3, 1, by decide⟩

/-- Answers with a text. -/
def telling (text : String) : Answering := fun _ => .ok (some [[(.text "time", .text text)]])

/-- A database that answers with a text tells it. -/
theorem isTold_hana (text : String) :
    IsTold .hana (telling text) (Form.toParameters { host := some "h" }) defaultTimeout text := by
  obtain ⟨-, hlong, -⟩ | ⟨desc, hdesc, -⟩ :=
    Driver.hana.descriptor_toParameters { host := some "h" }
  · exact absurd hlong (isWritable_portOf_hana rfl)
  · exact isTold_of_firstValue rfl hdesc rfl

/-- Three places on either side of midnight. -/
theorem databaseTime_decodes_hana :
    (Driver.hana.databaseTime (telling "2024-02-29 23:59:59.123")
      (Form.toParameters { host := some "h" }) defaultTimeout).outcome
        = .ok ⟨leapDay, beforeMidnight, some .utc⟩ ∧
    (Driver.hana.databaseTime (telling "2024-03-01 00:00:00.000")
      (Form.toParameters { host := some "h" }) defaultTimeout).outcome
        = .ok ⟨marchFirst, .midnight, some .utc⟩ ∧
    "2024-02-29 23:59:59.123" < "2024-03-01 00:00:00.000" := by
  have hearlier : String.ofList (timestampText 3 leapDay beforeMidnight)
      = "2024-02-29 23:59:59.123" := by decide +kernel
  have hlater : String.ofList (timestampText 3 marchFirst .midnight)
      = "2024-03-01 00:00:00.000" := by decide +kernel
  have htold := isTold_hana (String.ofList (timestampText 3 leapDay beforeMidnight))
  have htold' := isTold_hana (String.ofList (timestampText 3 marchFirst .midnight))
  have hformat : Driver.hana.timeFormat = Driver.standard.timeFormat := rfl
  -- both clocks are whole milliseconds
  have hplaces : beforeMidnight.ShowsIn 3 := ⟨123, by decide⟩
  have hplaces' : Clock.midnight.ShowsIn 3 := ⟨0, by decide⟩
  obtain ⟨hread, hpair⟩ := databaseTime_decodes hformat hformat (by decide)
    hplaces hplaces' htold htold'
  obtain ⟨hread', -⟩ := databaseTime_decodes hformat hformat (by decide)
    hplaces' hplaces htold' htold
  obtain ⟨-, t, t', ht, ht', horder⟩ := hpair _ _ hread hread'
  have hlt : t < t' := by
    obtain rfl := Option.some.inj ht
    obtain rfl := Option.some.inj ht'
    decide +kernel
  have hsorted := horder.2 hlt
  rw [hearlier] at hread hsorted
  rw [hlater] at hread' hsorted
  exact ⟨hread, hread', hsorted⟩

end Driver

end SqlDialect
