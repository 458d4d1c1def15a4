/-
  SqlDialect.Proofs.Transport.Release
  ────────────────────────────────
  **WHAT A TRANSPORT OPENS, IT RELEASES.**

  Whatever fails on the way, the last clean-up included, a run makes one of
  a few sequences of calls:

      file:    ε | open | open, start timer, …, cancel timer, close
      server:  ε | connect | connect, cursor, close
                 | connect, cursor, …, close cursor, close

  Connection, cursor and timer are therefore released exactly once if they
  were acquired, in this order, and not at all otherwise.  Rows that come back
  are the fetched rows in their order under the names of the columns.  Nothing
  of this holds just because nothing is done: settings that can be read are
  connected with, and a client library that succeeds gives its rows.
-/
import SqlDialect.Proofs.Settings
import SqlDialect.Proofs.Steps
import SqlDialect.Proofs.Transport.Failures

namespace SqlDialect

/-! ## §1. The calls of a session. -/

namespace Session

variable {ε α β : Type}

/-- A step that calls nothing leaves the calls as they are. -/
theorem events_bind_ofOutcome (s : Session ε α) (f : α → Except ε β) :
    (s >>= fun a => ofOutcome (f a)).events = s.events := by
  cases h : s.outcome with
  | error e => rw [bind_of_error h]
  | ok a => rw [bind_of_ok h]; exact List.append_nil s.events

/-- A call of a sequence is one of its first step or of the next. -/
theorem mem_events_bind {s : Session ε α} {next : α → Session ε β} {event : Event}
    (h : event ∈ (s >>= next).events) : event ∈ s.events ∨ ∃ a, event ∈ (next a).events := by
  cases hs : s.outcome with
  | error e =>
      rw [bind_of_error hs] at h
      exact .inl h
  | ok a =>
      rw [bind_of_ok hs] at h
      exact (List.mem_append.1 h).imp_right fun h => ⟨a, h⟩

end Session

/-- A call that runs a statement or fetches its rows. -/
def Event.IsUse (sql : String) (event : Event) : Prop := event = .execute sql ∨ event = .fetch

namespace Client

variable {c : Client} {sql : String}

/-- Fetching only uses what is open. -/
theorem isUse_of_mem_fetchResult {event : Event} (h : event ∈ c.fetchResult.events) :
    event.IsUse sql := by
  obtain h | ⟨columns, h⟩ := Session.mem_events_bind h
  · exact absurd h List.not_mem_nil
  split at h
  · obtain h | ⟨rows, h⟩ := Session.mem_events_bind h
    · exact absurd h List.not_mem_nil
    · exact absurd h List.not_mem_nil
  · obtain h | ⟨rows, h⟩ := Session.mem_events_bind h
    · exact .inr (List.mem_singleton.1 h)
    · exact absurd h List.not_mem_nil

/-- A statement is run, and its rows are fetched; nothing else is called. -/
theorem isUse_of_mem_statement : ∀ event ∈ (do
      Session.call (.execute sql) c.execute
      c.fetchResult : Session Failure (List String × List (List Value))).events,
    event.IsUse sql := by
  intro event h
  obtain h | ⟨-, h⟩ := Session.mem_events_bind h
  · exact .inl (List.mem_singleton.1 h)
  · exact isUse_of_mem_fetchResult h

end Client

/-! ## §2. Releasing once. -/

/-- If something is acquired, then it is released exactly once, and just
`after` follows; otherwise it is not released. -/
structure ReleasedOnce (acquired : Prop) (release : Event) (after events : List Event) : Prop where
  once : acquired →
    ∃ before, events = before ++ release :: after ∧ release ∉ before ∧ release ∉ after
  never : ¬ acquired → release ∉ events

section Releasing

variable {acquired : Prop} {release : Event} {after events used : List Event} {sql : String}

/-- What is acquired is released once if its release stands in one place. -/
theorem ReleasedOnce.of_acquired (before : List Event) (hacquired : acquired)
    (hevents : events = before ++ release :: after) (hbefore : release ∉ before)
    (hafter : release ∉ after) :
    ReleasedOnce acquired release after events :=
  ⟨fun _ => ⟨before, hevents, hbefore, hafter⟩, fun hnot => absurd hacquired hnot⟩

/-- What is released after use is not released in use. -/
theorem ReleasedOnce.of_used (front behind : List Event) (hacquired : acquired)
    (hused : ∀ event ∈ used, event.IsUse sql) (hrelease : ¬ release.IsUse sql)
    (hevents : events = front ++ used ++ behind ++ release :: after)
    (hfront : release ∉ front) (hbehind : release ∉ behind) (hafter : release ∉ after) :
    ReleasedOnce acquired release after events := by
  refine .of_acquired (front ++ used ++ behind) hacquired hevents ?_ hafter
  have huse : release ∉ used := fun h => hrelease (hused release h)
  rw [List.mem_append, List.mem_append]
  exact not_or.2 ⟨not_or.2 ⟨hfront, huse⟩, hbehind⟩

/-- What is not acquired need not be released. -/
theorem ReleasedOnce.of_not (h : ¬ acquired) (hevents : release ∉ events) :
    ReleasedOnce acquired release after events :=
  ⟨fun hacquired => absurd hacquired h, fun _ => hevents⟩

end Releasing

/-! ## §3. Rows under the names of their columns. -/

/-- Each name of a column with the last value under it. -/
def columnValues (columns : List String) (values : List Value) : Settings Value :=
  .ofList (columns.zip values)

/-- A row is the mapping from the names of the columns to the values. -/
structure IsNamed (columns : List String) (values : List Value) (row : Row) : Prop where
  width : values.length = columns.length
  row_eq : row = (columnValues columns values).entries.map fun e => (.text e.1, e.2)
  names : ∀ name, name ∈ (columnValues columns values).keys ↔ name ∈ columns
  /-- Of the values under a name the last one counts. -/
  values : ∀ name value, (columnValues columns values).get? name = some value ↔
    ∃ front back, columns.zip values = front ++ (name, value) :: back ∧ name ∉ back.map (·.1)

/-- A row has its values under the names of the columns. -/
theorem namedRow_eq_columnValues (columns : List String) (values : List Value) :
    namedRow columns values
      = (columnValues columns values).entries.map fun e => (.text e.1, e.2) := by
  -- putting a value under a name and under the text of the name are one step
  have hstep : ∀ (pairs : List (String × Value)) (s : Settings Value),
      (pairs.map fun p => (Value.text p.1, p.2)).foldl
          (fun es p => Entries.insert Value.same p.1 p.2 es)
          (s.entries.map fun e => (.text e.1, e.2))
        = (s.overlay pairs).entries.map fun e => (.text e.1, e.2) := by
    intro pairs
    induction pairs with
    | nil => exact fun _ => rfl
    | cons p pairs ih =>
        intro s
        have hinsert := Entries.map_insert sameKey Value.same (g := Value.text)
          (f := fun _ (v : Value) => v) (fun _ _ => rfl) (fun _ _ _ => rfl) p.1 p.2 s.entries
        rw [List.map_cons, List.foldl_cons, ← hinsert]
        exact ih (s.insert p.1 p.2)
  have hzip : (columns.map Value.text).zip values
      = (columns.zip values).map fun p => (Value.text p.1, p.2) := by
    rw [List.zip_map_left]
    rfl
  rw [namedRow, Entries.ofList, hzip]
  exact hstep _ .empty

/-- A row as wide as the columns has all their names. -/
theorem isNamed_of_width {columns : List String} {values : List Value}
    (h : values.length = columns.length) :
    IsNamed columns values (namedRow columns values) where
  width := h
  row_eq := namedRow_eq_columnValues columns values
  names name := by
    rw [columnValues, Settings.ofList, Settings.mem_keys_overlay,
      List.map_fst_zip (Nat.le_of_eq h.symm), Settings.keys_empty]
    exact or_iff_right List.not_mem_nil
  values name value := Settings.get?_ofList_eq_some_iff

/-- A row with a value for each column has a name for each value. -/
theorem of_nameRow_eq_ok {columns : List String} {values : List Value} {row : Row}
    (h : nameRow columns values = .ok row) :
    values.length = columns.length ∧ row = namedRow columns values := by
  unfold nameRow at h
  split at h
  · exact absurd h nofun
  next hshort =>
    split at h
    · exact absurd h nofun
    next hlong => exact ⟨by omega, (Except.ok.inj h).symm⟩

/-- Rows that are named are the given rows in their order, all of them. -/
theorem forall₂_of_nameRows {columns : List String} {fetched : List (List Value)}
    {rows : List Row} (h : nameRows columns fetched = .ok rows) :
    List.Forall₂ (IsNamed columns) fetched rows := by
  obtain ⟨rfl, hall⟩ := eq_map_of_mapM_eq_ok (fun _ _ hrow => (of_nameRow_eq_ok hrow).2) h
  rw [List.forall₂_map_right_iff, List.forall₂_same]
  exact fun values hvalues => isNamed_of_width (of_nameRow_eq_ok (hall values hvalues)).1

/-- Rows that come back are those that the client library fetched under its
columns. -/
def ReturnsFetched (c : Client) (outcome : Except TransportError (List Row)) : Prop :=
  ∀ rows, outcome = .ok rows → ∃ columns fetched, c.describe = .ok columns ∧
    c.rowsUnder columns = .ok fetched ∧ List.Forall₂ (IsNamed columns) fetched rows

/-- What ends well in any case has ended well. -/
theorem Session.ok_of_ensuring {ε α : Type} {s : Session ε α} {after : Session ε Unit} {a : α}
    (h : (s.ensuring after).outcome = .ok a) : s.outcome = .ok a := by
  unfold ensuring at h
  dsimp only at h
  split at h
  · exact absurd h nofun
  · exact h

/-- A statement that ends well ends with the fetched rows. -/
theorem returnsFetched_of_statement {c : Client} {s : Session TransportError (List String × _)}
    (h : ∀ result, s.outcome = .ok result → c.result = .ok result) :
    ReturnsFetched c
      (s >>= fun result => Session.ofOutcome (nameRows result.1 result.2)).outcome := by
  intro rows hrows
  rw [Session.outcome_bind] at hrows
  obtain ⟨⟨columns, fetched⟩, hs, hrows⟩ := exists_of_bind_eq_ok hrows
  -- a result is made of a description and of rows fetched under it
  obtain ⟨-, -, hresult⟩ := exists_of_bind_eq_ok (h _ hs)
  obtain ⟨columns', hdescribe, hresult⟩ := exists_of_bind_eq_ok hresult
  obtain ⟨fetched', hfetched, hresult⟩ := exists_of_bind_eq_ok hresult
  obtain ⟨rfl, rfl⟩ := Prod.mk.inj (Except.ok.inj hresult)
  exact ⟨columns', fetched', hdescribe, hfetched, forall₂_of_nameRows hrows⟩

/-- Steps that come before a result do not change which rows come back. -/
theorem ReturnsFetched.of_bind {c : Client} {α : Type} {s : Session TransportError α}
    {next : α → Session TransportError (List Row)}
    (h : ∀ a, ReturnsFetched c (next a).outcome) : ReturnsFetched c (s >>= next).outcome := by
  intro rows hrows
  rw [Session.outcome_bind] at hrows
  obtain ⟨a, -, hrows⟩ := exists_of_bind_eq_ok hrows
  exact h a rows hrows

variable {c : Client} {d : Descriptor} {sql : String} {timeout : Value}

/-- The client library succeeds in every call, with rows as wide as its
columns. -/
structure Client.Succeeds (c : Client) (columns : List String) (rows : List (List Value)) :
    Prop where
  connect : c.connect = .ok ()
  openCursor : c.openCursor = .ok ()
  execute : c.execute = .ok ()
  describe : c.describe = .ok columns
  fetch : c.rowsUnder columns = .ok rows
  width : ∀ row ∈ rows, row.length = columns.length
  closeCursor : c.closeCursor = .ok ()
  close : c.close = .ok ()

/-- A client library that succeeds gives its rows. -/
theorem Client.Succeeds.result_eq {columns : List String} {rows : List (List Value)}
    (h : c.Succeeds columns rows) : c.result = .ok (columns, rows) := by
  unfold result fetched
  rw [h.execute, h.describe, ok_bind, ok_bind, h.fetch]
  rfl

/-! ## §4. Files. -/

namespace FileTransport

/-- The sequences of calls that a run on a file makes. -/
inductive Calls (c : Client) (d : Descriptor) (sql : String) (timeout : Value) :
    List Event → Prop where
  | none {e : TransportError} (hoptions : readOptions "DuckDB" d.options = .error e) :
      Calls c d sql timeout []
  | refused {path : Value} {config : Settings String} (hconnect : c.connect ≠ .ok ()) :
      Calls c d sql timeout [.openFile path config]
  | opened {path : Value} {config : Settings String} {used : List Event}
      (hconnect : c.connect = .ok ()) (hused : ∀ event ∈ used, event.IsUse sql) :
      Calls c d sql timeout
        (.openFile path config :: .startTimer timeout :: used ++ [.cancelTimer, .close])

/-- With the file open, timer and connection are done with last. -/
theorem events_runOpened (c : Client) (sql : String) :
    ∃ used, (∀ event ∈ used, event.IsUse sql) ∧
      (runOpened c sql).events = used ++ [.cancelTimer, .close] := by
  refine ⟨_, c.isUse_of_mem_statement, ?_⟩
  rw [runOpened, Session.events_ensuring, Session.events_mapError]
  rfl

/-- Every run makes one of the sequences of calls. -/
theorem calls_run (c : Client) (d : Descriptor) (sql : String) (timeout : Value) :
    Calls c d sql timeout (run c d sql timeout).events := by
  unfold run
  cases hoptions : readOptions "DuckDB" d.options with
  | error e => exact .none hoptions
  | ok config =>
      cases hconnect : c.connect with
      | error f => exact .refused (by rw [hconnect]; exact nofun)
      | ok _ =>
          obtain ⟨used, hused, hevents⟩ := events_runOpened c sql
          show Calls c d sql timeout (.openFile _ config :: .startTimer timeout ::
            (runOpened c sql >>= fun result => .ofOutcome (nameRows result.1 result.2)).events)
          rw [Session.events_bind_ofOutcome, hevents]
          exact .opened hconnect hused

/-- Every run gives the rows that were fetched, or none. -/
theorem returnsFetched_run (c : Client) (d : Descriptor) (sql : String) (timeout : Value) :
    ReturnsFetched c (run c d sql timeout).outcome := by
  refine .of_bind fun config => .of_bind fun _ => .of_bind fun _ => ?_
  refine returnsFetched_of_statement fun result hresult => ?_
  rw [← c.outcome_statement sql]
  exact ok_of_mapError_eq_ok (Session.ok_of_ensuring hresult)

/-- The file has been opened. -/
def Opened (c : Client) (events : List Event) : Prop :=
  c.connect = .ok () ∧ ∃ path config, .openFile path config ∈ events

section Discipline

variable {events : List Event}

/-- A connection that is opened is closed at the very end. -/
theorem Calls.connection (h : Calls c d sql timeout events) :
    ReleasedOnce (Opened c events) .close [] events := by
  cases h with
  | none hoptions =>
      exact .of_not (fun ⟨_, _, _, h⟩ => absurd h List.not_mem_nil) List.not_mem_nil
  | refused hconnect => exact .of_not (fun h => hconnect h.1) (by simp)
  | @opened path config used hconnect hused =>
      exact .of_used [.openFile path config, .startTimer timeout] [.cancelTimer]
        ⟨hconnect, path, config, by simp⟩ hused (fun h => h.elim nofun nofun) (by simp) (by simp)
        (by simp) List.not_mem_nil

/-- The timer is started exactly if the file is open. -/
theorem Calls.timed (h : Calls c d sql timeout events) :
    Opened c events ↔ .startTimer timeout ∈ events := by
  cases h with
  | none hoptions =>
      exact iff_of_false (fun ⟨_, _, _, h⟩ => absurd h List.not_mem_nil) List.not_mem_nil
  | refused hconnect => exact iff_of_false (fun h => hconnect h.1) (by simp)
  | @opened path config used hconnect hused =>
      exact iff_of_true ⟨hconnect, path, config, by simp⟩ (by simp)

/-- The timer is cancelled right before the file is closed. -/
theorem Calls.timer (h : Calls c d sql timeout events) :
    ReleasedOnce (.startTimer timeout ∈ events) .cancelTimer [.close] events := by
  cases h with
  | none hoptions => exact .of_not List.not_mem_nil List.not_mem_nil
  | refused hconnect => exact .of_not (by simp) (by simp)
  | @opened path config used hconnect hused =>
      exact .of_used [.openFile path config, .startTimer timeout] [] (by simp) hused
        (fun h => h.elim nofun nofun) (by simp) (by simp) List.not_mem_nil (by simp)

end Discipline

/-- A run on a file releases what it opens. -/
structure Releases (c : Client) (d : Descriptor) (sql : String) (timeout : Value) : Prop where
  /-- Without options nothing is called. -/
  silent : ∀ e, readOptions "DuckDB" d.options = .error e → (run c d sql timeout).events = []
  /-- With options the file is opened first. -/
  opens : ∀ config, readOptions "DuckDB" d.options = .ok config → ∃ rest,
    (run c d sql timeout).events
      = .openFile ((d.properties.get? "path").getD (.text ":memory:")) config :: rest
  connection : ReleasedOnce (Opened c (run c d sql timeout).events) .close []
    (run c d sql timeout).events
  timed : Opened c (run c d sql timeout).events ↔
    .startTimer timeout ∈ (run c d sql timeout).events
  /-- The timer is cancelled before the connection is closed. -/
  timer : ReleasedOnce (.startTimer timeout ∈ (run c d sql timeout).events) .cancelTimer [.close]
    (run c d sql timeout).events
  rows : ReturnsFetched c (run c d sql timeout).outcome
  /-- If the client library succeeds, then the rows come back. -/
  succeeds : ∀ config columns rows, readOptions "DuckDB" d.options = .ok config →
    c.Succeeds columns rows → (run c d sql timeout).outcome = .ok (rows.map (namedRow columns))

/-- A run releases what it opens, whatever the client library does. -/
theorem releases (c : Client) (d : Descriptor) (sql : String) (timeout : Value) :
    Releases c d sql timeout where
  silent e h := by
    unfold run
    rw [h]
    rfl
  opens config h := by
    unfold run
    rw [h, Session.bind_ofOutcome_ok]
    exact Session.events_bind_call _ _ _
  connection := (calls_run c d sql timeout).connection
  timed := (calls_run c d sql timeout).timed
  timer := (calls_run c d sql timeout).timer
  rows := returnsFetched_run c d sql timeout
  succeeds config columns rows hoptions h := by
    rw [outcome_run h.close, hoptions, h.connect, h.result_eq]
    exact nameRows_of_width h.width

end FileTransport

/-! ## §5. Servers. -/

namespace ServerTransport

/-- The sequences of calls that a run on a server makes. -/
inductive Calls (c : Client) (sql : String) : List Event → Prop where
  | none : Calls c sql []
  | refused {settings : List (String × Value)} (hconnect : c.connect ≠ .ok ()) :
      Calls c sql [.connect settings]
  | withoutCursor {settings : List (String × Value)} (hconnect : c.connect = .ok ())
      (hcursor : c.openCursor ≠ .ok ()) : Calls c sql [.connect settings, .openCursor, .close]
  | withCursor {settings : List (String × Value)} {used : List Event}
      (hconnect : c.connect = .ok ()) (hcursor : c.openCursor = .ok ())
      (hused : ∀ event ∈ used, event.IsUse sql) :
      Calls c sql (.connect settings :: .openCursor :: used ++ [.closeCursor, .close])

/-- On the open connection the cursor is closed first, if there is one. -/
theorem events_runConnected (c : Client) (sql : String) :
    (c.openCursor ≠ .ok () ∧ (runConnected c sql).events = [.openCursor, .close]) ∨
    (c.openCursor = .ok () ∧ ∃ used, (∀ event ∈ used, event.IsUse sql) ∧
      (runConnected c sql).events = .openCursor :: used ++ [.closeCursor, .close]) := by
  unfold runConnected
  cases hcursor : c.openCursor with
  | error f => exact .inl ⟨nofun, rfl⟩
  | ok _ =>
      refine .inr ⟨rfl, _, c.isUse_of_mem_statement, ?_⟩
      rw [Session.events_ensuring, Session.events_mapError, Session.bind_of_ok rfl]
      simp only [Session.events_ensuring, Session.call, List.append_assoc, List.cons_append,
        List.nil_append]

/-- Without an address nothing is called. -/
theorem run_of_noAddress (c : Client) (sql : String) (timeout : Value)
    (h : d.host = .null ∨ d.port = .null) :
    run c d sql timeout = .ofOutcome (.error .noAddress) := by
  unfold run
  refine if_pos ?_
  obtain h | h := h
  · rw [h]
    rfl
  · rw [h]
    exact Bool.or_true _

/-- Every run makes one of the sequences of calls. -/
theorem calls_run (c : Client) (d : Descriptor) (sql : String) (timeout : Value) :
    Calls c sql (run c d sql timeout).events := by
  by_cases haddress : d.host = .null ∨ d.port = .null
  · rw [run_of_noAddress c sql timeout haddress]
    exact .none
  rw [not_or] at haddress
  rw [run_of_address c sql timeout haddress.1 haddress.2]
  -- nothing is called before the settings are complete
  cases (Timeout.text timeout).mapError TransportError.timeout with
  | error e => exact .none
  | ok limit =>
  cases namedSettings d with
  | error e => exact .none
  | ok named =>
  cases hsettings : connectSettings c (fixedSettings d.host d.port limit) named with
  | error e =>
      simp only [Session.bind_ofOutcome_ok, hsettings]
      exact .none
  | ok settings =>
  simp only [Session.bind_ofOutcome_ok, hsettings]
  cases hconnect : c.connect with
  | error f => exact .refused (by rw [hconnect]; exact nofun)
  | ok _ =>
      show Calls c sql (.connect settings ::
        (runConnected c sql >>= fun result => .ofOutcome (nameRows result.1 result.2)).events)
      rw [Session.events_bind_ofOutcome]
      obtain ⟨hcursor, hevents⟩ | ⟨hcursor, used, hused, hevents⟩ := events_runConnected c sql
      · rw [hevents]
        exact .withoutCursor hconnect hcursor
      · rw [hevents]
        exact .withCursor hconnect hcursor hused

/-- Every run gives the rows that were fetched, or none. -/
theorem returnsFetched_run (c : Client) (d : Descriptor) (sql : String) (timeout : Value) :
    ReturnsFetched c (run c d sql timeout).outcome := by
  by_cases haddress : d.host = .null ∨ d.port = .null
  · rw [run_of_noAddress c sql timeout haddress]
    exact nofun
  rw [not_or] at haddress
  rw [run_of_address c sql timeout haddress.1 haddress.2]
  refine .of_bind fun limit => .of_bind fun named => .of_bind fun settings => .of_bind fun _ => ?_
  refine returnsFetched_of_statement fun result hresult => ?_
  rw [← c.outcome_statement sql]
  have hstatement := ok_of_mapError_eq_ok (Session.ok_of_ensuring hresult)
  rw [Session.outcome_bind] at hstatement
  obtain ⟨-, -, hstatement⟩ := exists_of_bind_eq_ok hstatement
  exact Session.ok_of_ensuring hstatement

/-- The server has been connected to. -/
def Connected (c : Client) (events : List Event) : Prop :=
  c.connect = .ok () ∧ ∃ settings, .connect settings ∈ events

/-- A cursor has been opened. -/
def HasCursor (c : Client) (events : List Event) : Prop :=
  c.openCursor = .ok () ∧ .openCursor ∈ events

section Discipline

variable {events : List Event}

/-- A connection that is opened is closed at the very end. -/
theorem Calls.connection (h : Calls c sql events) :
    ReleasedOnce (Connected c events) .close [] events := by
  cases h with
  | none => exact .of_not (fun ⟨_, _, h⟩ => absurd h List.not_mem_nil) List.not_mem_nil
  | refused hconnect => exact .of_not (fun h => hconnect h.1) (by simp)
  | @withoutCursor settings hconnect hcursor =>
      exact .of_acquired [.connect settings, .openCursor]
        ⟨hconnect, settings, by simp⟩ rfl (by simp) List.not_mem_nil
  | @withCursor settings used hconnect hcursor hused =>
      exact .of_used [.connect settings, .openCursor] [.closeCursor]
        ⟨hconnect, settings, by simp⟩ hused (fun h => h.elim nofun nofun) (by simp) (by simp)
        (by simp) List.not_mem_nil

/-- The cursor is closed right before the connection. -/
theorem Calls.cursor (h : Calls c sql events) :
    ReleasedOnce (HasCursor c events) .closeCursor [.close] events := by
  cases h with
  | none => exact .of_not (fun h => absurd h.2 List.not_mem_nil) List.not_mem_nil
  | refused hconnect => exact .of_not (fun h => absurd h.2 (by simp)) (by simp)
  | withoutCursor hconnect hcursor => exact .of_not (fun h => hcursor h.1) (by simp)
  | @withCursor settings used hconnect hcursor hused =>
      exact .of_used [.connect settings, .openCursor] [] ⟨hcursor, by simp⟩ hused
        (fun h => h.elim nofun nofun) (by simp) (by simp) List.not_mem_nil (by simp)

end Discipline

/-- A run on a server gets as far as connecting: it has an address, a timeout
that can be written and options, and no name among these and the properties is
one that the transport uses itself. -/
structure IsReady (d : Descriptor) (timeout : Value) (limit : String)
    (options : Settings String) : Prop where
  host : d.host ≠ .null
  port : d.port ≠ .null
  written : Timeout.text timeout = .ok limit
  read : readOptions "HANA" d.options = .ok options
  properties : ∀ k ∈ d.properties.keys, k ∉ fixedNames
  free : ∀ k ∈ options.keys, k ∉ fixedNames

/-- A run on a server releases what it opens. -/
structure Releases (c : Client) (d : Descriptor) (sql : String) (timeout : Value) : Prop where
  /-- Without options nothing is called. -/
  silent : ∀ e, readOptions "HANA" d.options = .error e → (run c d sql timeout).events = []
  /-- With all that it takes the server is connected to first. -/
  connects : ∀ limit options, IsReady d timeout limit options → ∃ named rest,
    namedSettings d = .ok named ∧ (run c d sql timeout).events
      = .connect (fixedSettings d.host d.port limit ++ named.entries) :: rest
  connection : ReleasedOnce (Connected c (run c d sql timeout).events) .close []
    (run c d sql timeout).events
  /-- The cursor is closed before the connection. -/
  cursor : ReleasedOnce (HasCursor c (run c d sql timeout).events) .closeCursor [.close]
    (run c d sql timeout).events
  rows : ReturnsFetched c (run c d sql timeout).outcome
  /-- If then the client library succeeds, the rows come back. -/
  succeeds : ∀ limit options columns rows, IsReady d timeout limit options →
    c.Succeeds columns rows → (run c d sql timeout).outcome = .ok (rows.map (namedRow columns))

/-- Without options nothing is called, whatever else is wrong. -/
theorem events_run_of_options {e : TransportError} (c : Client) (sql : String) (timeout : Value)
    (h : readOptions "HANA" d.options = .error e) : (run c d sql timeout).events = [] := by
  by_cases haddress : d.host = .null ∨ d.port = .null
  · rw [run_of_noAddress c sql timeout haddress]
    rfl
  rw [not_or] at haddress
  rw [run_of_address c sql timeout haddress.1 haddress.2, namedSettings, h]
  cases (Timeout.text timeout).mapError TransportError.timeout <;> rfl

/-- A run releases what it opens, whatever the client library does. -/
theorem releases (c : Client) (d : Descriptor) (sql : String) (timeout : Value) :
    Releases c d sql timeout where
  silent _ h := events_run_of_options c sql timeout h
  connects limit options h := by
    obtain ⟨named, hnamed, hkeys⟩ := mem_keys_namedSettings h.read
    have hfree : ∀ k ∈ named.keys, k ∉ fixedNames := fun k hk =>
      ((hkeys k).1 hk).elim (h.properties k) (h.free k)
    obtain ⟨rest, hrest⟩ := events_run c sql h.host h.port h.written hnamed hfree
    exact ⟨named, rest, hnamed, hrest⟩
  connection := (calls_run c d sql timeout).connection
  cursor := (calls_run c d sql timeout).cursor
  rows := returnsFetched_run c d sql timeout
  succeeds limit options columns rows h hc := by
    have hresult : c.serverResult = .ok (columns, rows) := by
      unfold Client.serverResult
      rw [hc.connect, hc.openCursor, ok_bind, ok_bind, hc.result_eq]
    rw [outcome_of_free h.host h.port h.properties hc.closeCursor hc.close h.written h.read
      h.free, hresult]
    exact nameRows_of_width hc.width

end ServerTransport

/-! ## §6. Both transports. -/

/-- Statement and clean-up both fail. -/
example : (FileTransport.run
    { connectName := "connect", execute := .error ⟨.client, []⟩, close := .error ⟨.runtime, []⟩ }
    { driverClass := "", protocol := "duckdb", subname := .null } "SELECT 1" (.int 30)).events
      = [.openFile (.text ":memory:") .empty, .startTimer (.int 30), .execute "SELECT 1",
        .cancelTimer, .close] := rfl

end SqlDialect
