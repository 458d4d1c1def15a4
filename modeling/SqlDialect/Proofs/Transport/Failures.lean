/-
  SqlDialect.Proofs.Transport.Failures
  ────────────────────────────────
  **HOW A RUN ON A SERVER FAILS.**

  A client library that keeps its word fails with failures of its own kind
  only, closes without fail and gives rows as wide as its columns.  Over it a
  run on a server ends with the named rows or with an error of the transport,

      outcome = .ok rows ∨ outcome = .error e ∧ e.IsOwn,

  exactly if the timeout can be written in milliseconds, no option has the
  name of a setting that the transport gives itself, and a failure of the
  library has a text.
-/
import SqlDialect.Proofs.Connection.Credentials
import SqlDialect.Proofs.Transport.Options
import SqlDialect.Proofs.Transport.Outcome

namespace SqlDialect

open SqlDialect.Number

/-! ## §1. What a client library keeps. -/

/-- The error is reported by the transport and does not just pass through it. -/
def TransportError.IsOwn : TransportError → Prop
  | .badOption .. | .noAddress | .openFailed _ | .runFailed _ | .refused _ => True
  | .foreign _ | .tooManyDigits | .timeout _ | .repeatedSetting .. => False
  | .rowTooShort | .rowTooLong => False

namespace Client

/-- A client library that fails in its own kind only, closes without fail and
gives rows as wide as its columns. -/
structure IsWellBehaved (c : Client) : Prop where
  connect : ∀ f, c.connect = .error f → f.kind = .client
  openCursor : ∀ f, c.openCursor = .error f → f.kind = .client
  execute : ∀ f, c.execute = .error f → f.kind = .client
  describe : ∀ f, c.describe = .error f → f.kind = .client
  fetch : ∀ f, c.fetch = .error f → f.kind = .client
  closeCursor : c.closeCursor = .ok ()
  close : c.close = .ok ()
  width : ∀ columns rows, c.describe = .ok columns → columns ≠ [] → c.fetch = .ok rows →
    ∀ row ∈ rows, row.length = columns.length

variable {c : Client} {f : Failure} {columns : List String} {rows : List (List Value)}

/-- A statement fails with the failure of one of its calls. -/
theorem IsWellBehaved.kind_of_serverResult (hc : c.IsWellBehaved)
    (h : c.serverResult = .error f) : f.kind = .client := by
  obtain h | ⟨-, -, h⟩ := error_of_bind_eq_error h
  · exact hc.connect f h
  obtain h | ⟨-, -, h⟩ := error_of_bind_eq_error h
  · exact hc.openCursor f h
  obtain h | ⟨-, -, h⟩ := error_of_bind_eq_error h
  · exact hc.execute f h
  obtain h | ⟨columns, -, h⟩ := error_of_bind_eq_error h
  · exact hc.describe f h
  obtain h | ⟨rows, -, h⟩ := error_of_bind_eq_error h
  · unfold rowsUnder at h
    split at h
    · exact absurd h nofun
    · exact hc.fetch f h
  · exact absurd h nofun

/-- A well-behaved client library fetches rows as wide as its columns. -/
theorem IsWellBehaved.width_of_serverResult (hc : c.IsWellBehaved)
    (h : c.serverResult = .ok (columns, rows)) : ∀ row ∈ rows, row.length = columns.length := by
  obtain ⟨-, -, h⟩ := exists_of_bind_eq_ok h
  obtain ⟨-, -, h⟩ := exists_of_bind_eq_ok h
  obtain ⟨-, -, h⟩ := exists_of_bind_eq_ok h
  obtain ⟨columns', hdescribe, h⟩ := exists_of_bind_eq_ok h
  obtain ⟨rows', hrows, h⟩ := exists_of_bind_eq_ok h
  obtain ⟨rfl, rfl⟩ := Prod.mk.inj (Except.ok.inj h)
  unfold rowsUnder at hrows
  split at hrows
  · obtain rfl := Except.ok.inj hrows
    exact fun row hrow => absurd hrow List.not_mem_nil
  next hcolumns =>
    exact hc.width columns' rows' hdescribe (fun hnil => hcolumns (by rw [hnil]; rfl)) hrows

end Client

/-! ## §2. Rows with names. -/

/-- A row under the names of its columns; of columns of one name the last value
counts. -/
def namedRow (columns : List String) (row : List Value) : Row :=
  Entries.ofList Value.same ((columns.map .text).zip row)

/-- Rows as wide as the columns are all named. -/
theorem nameRows_of_width {columns : List String} {rows : List (List Value)}
    (h : ∀ row ∈ rows, row.length = columns.length) :
    nameRows columns rows = .ok (rows.map (namedRow columns)) := by
  refine mapM_eq_pure (m := Except TransportError) fun row hrow => ?_
  rw [nameRow, if_neg (by rw [h row hrow]; exact Nat.lt_irrefl _),
    if_neg (by rw [h row hrow]; exact Nat.lt_irrefl _)]
  rfl

/-! ## §3. Settings that come twice. -/

/-- Options are refused by a part without an equals sign only. -/
theorem badOption_of_readOptions {library options : String} {e : TransportError}
    (h : readOptions library options = .error e) : ∃ part, e = .badOption library part := by
  obtain ⟨part, -, hpart⟩ := exists_of_mapM_eq_error (eq_error_of_map_eq_error h)
  rw [readOption] at hpart
  split at hpart
  · cases hpart
  · exact ⟨_, (Except.error.inj hpart).symm⟩

namespace ServerTransport

variable {c : Client} {desc : Descriptor} {options : Settings String} {named : Settings Value}
  {host port timeout : Value} {limit sql : String}

/-- A named setting is an option or a property. -/
theorem mem_keys_namedSettings (h : readOptions "HANA" desc.options = .ok options) :
    ∃ named, namedSettings desc = .ok named ∧
      ∀ k, k ∈ named.keys ↔ k ∈ desc.properties.keys ∨ k ∈ options.keys := by
  obtain ⟨named, hnamed, hget⟩ := namedSettings_of_options h
  refine ⟨named, hnamed, fun k => ?_⟩
  rw [← Settings.get?_isSome_iff, hget, Option.isSome_or, Bool.or_eq_true, Option.isSome_map,
    Settings.get?_isSome_iff, Settings.get?_isSome_iff]

/-- A setting given twice ends the call before it is made. -/
theorem connectSettings_of_repeated (c : Client) (host port : Value) (limit : String)
    (h : ∃ k ∈ named.keys, k ∈ fixedNames) :
    ∃ k ∈ named.keys, k ∈ fixedNames ∧
      connectSettings c (fixedSettings host port limit) named
        = .error (.repeatedSetting c.connectName k) := by
  cases hfind : named.keys.find? (fixedNames.contains ·) with
  | none =>
      obtain ⟨k, hk, hfixed⟩ := h
      exact absurd (List.contains_iff_mem.2 hfixed) (List.find?_eq_none.1 hfind k hk)
  | some k =>
      refine ⟨k, List.mem_of_find?_eq_some hfind,
        List.contains_iff_mem.1 (List.find?_some hfind), ?_⟩
      rw [connectSettings, map_fst_fixedSettings, hfind]

/-! ## §4. How a run ends. -/

/-- How a run on a server ends, in the order in which it can fail. -/
inductive Ends (c : Client) (desc : Descriptor) (timeout : Value) :
    Except TransportError (List Row) → Prop where
  | badTimeout {fault : TimeoutFault} (htimeout : Timeout.text timeout = .error fault) :
      Ends c desc timeout (.error (.timeout fault))
  | badOption {limit : String} {part : String} (htimeout : Timeout.text timeout = .ok limit)
      (hoptions : readOptions "HANA" desc.options = .error (.badOption "HANA" part)) :
      Ends c desc timeout (.error (.badOption "HANA" part))
  /-- An option has the name of a setting that the transport gives itself. -/
  | repeated {limit k : String} {options : Settings String}
      (htimeout : Timeout.text timeout = .ok limit)
      (hoptions : readOptions "HANA" desc.options = .ok options)
      (hoption : k ∈ options.keys) (hfixed : k ∈ fixedNames) :
      Ends c desc timeout (.error (.repeatedSetting c.connectName k))
  | refused {limit text : String} {options : Settings String} {f : Failure}
      (htimeout : Timeout.text timeout = .ok limit)
      (hoptions : readOptions "HANA" desc.options = .ok options)
      (hfree : ∀ k ∈ options.keys, k ∉ fixedNames) (hresult : c.serverResult = .error f)
      (htext : f.text? = some text) :
      Ends c desc timeout (.error (.refused text))
  /-- The client library fails and cannot say how. -/
  | textless {limit : String} {options : Settings String} {f : Failure}
      (htimeout : Timeout.text timeout = .ok limit)
      (hoptions : readOptions "HANA" desc.options = .ok options)
      (hfree : ∀ k ∈ options.keys, k ∉ fixedNames) (hresult : c.serverResult = .error f)
      (htext : f.text? = none) :
      Ends c desc timeout (.error .tooManyDigits)
  | rows {limit : String} {options : Settings String} {columns : List String}
      {rows : List (List Value)} (htimeout : Timeout.text timeout = .ok limit)
      (hoptions : readOptions "HANA" desc.options = .ok options)
      (hfree : ∀ k ∈ options.keys, k ∉ fixedNames)
      (hresult : c.serverResult = .ok (columns, rows)) :
      Ends c desc timeout (.ok (rows.map (namedRow columns)))

/-- With options that may be named so, a run ends as its client library does. -/
theorem outcome_of_free (hhost : desc.host ≠ .null) (hport : desc.port ≠ .null)
    (hproperties : ∀ k ∈ desc.properties.keys, k ∉ fixedNames)
    (hcursor : c.closeCursor = .ok ()) (hclose : c.close = .ok ())
    (htimeout : Timeout.text timeout = .ok limit)
    (hoptions : readOptions "HANA" desc.options = .ok options)
    (hfree : ∀ k ∈ options.keys, k ∉ fixedNames) :
    (run c desc sql timeout).outcome = (do
      let result ← c.serverResult.mapError report
      nameRows result.1 result.2) := by
  obtain ⟨named, hnamed, hkeys⟩ := mem_keys_namedSettings hoptions
  -- no setting is given twice, so the call is made
  have hsettings : connectSettings c (fixedSettings desc.host desc.port limit) named
      = .ok (fixedSettings desc.host desc.port limit ++ named.entries) :=
    connectSettings_of_free c desc.host desc.port limit fun k hk =>
      ((hkeys k).1 hk).elim (hproperties k) (hfree k)
  rw [outcome_run hhost hport hcursor hclose, htimeout, hnamed]
  show (connectSettings c _ named >>= _) = _
  rw [hsettings]
  rfl

/-- **A run over a well-behaved client library ends in one of these ways.** -/
theorem ends_run (hc : c.IsWellBehaved) (hhost : desc.host ≠ .null) (hport : desc.port ≠ .null)
    (hproperties : ∀ k ∈ desc.properties.keys, k ∉ fixedNames) :
    Ends c desc timeout (run c desc sql timeout).outcome := by
  have hrun : (run c desc sql timeout).outcome = _ :=
    outcome_run hhost hport hc.closeCursor hc.close
  -- the timeout is written first, then the options are read, then the server is asked
  cases htimeout : Timeout.text timeout with
  | error fault =>
      rw [hrun, htimeout]
      exact .badTimeout htimeout
  | ok limit =>
      cases hoptions : readOptions "HANA" desc.options with
      | error e =>
          obtain ⟨part, rfl⟩ := badOption_of_readOptions hoptions
          rw [hrun, htimeout, namedSettings, hoptions]
          exact .badOption htimeout hoptions
      | ok options =>
          by_cases hfree : ∀ k ∈ options.keys, k ∉ fixedNames
          · rw [outcome_of_free hhost hport hproperties hc.closeCursor hc.close htimeout hoptions
              hfree]
            cases hresult : c.serverResult with
            | error f =>
                have hreport : report f = .reporting .refused f :=
                  if_pos (hc.kind_of_serverResult hresult)
                show Ends c desc timeout (.error (report f))
                rw [hreport]
                -- a failure without a text fails to be reported
                cases htext : f.text? with
                | some text =>
                    rw [TransportError.reporting_of_text _ htext]
                    exact .refused htimeout hoptions hfree hresult htext
                | none =>
                    rw [TransportError.reporting_of_textless _ htext]
                    exact .textless htimeout hoptions hfree hresult htext
            | ok result =>
                show Ends c desc timeout (nameRows result.1 result.2)
                rw [nameRows_of_width (hc.width_of_serverResult hresult)]
                exact .rows htimeout hoptions hfree hresult
          · -- the setting found twice need not be the first such option
            obtain ⟨named, hnamed, hkeys⟩ := mem_keys_namedSettings hoptions
            obtain ⟨k, hk, hfixed⟩ : ∃ k ∈ options.keys, k ∈ fixedNames := by
              simpa using hfree
            obtain ⟨k', hk', hfixed', hrepeated⟩ := connectSettings_of_repeated c desc.host
              desc.port limit ⟨k, (hkeys k).2 (.inr hk), hfixed⟩
            have hoption : k' ∈ options.keys :=
              ((hkeys k').1 hk').resolve_left fun h => hproperties k' h hfixed'
            rw [hrun, htimeout, hnamed]
            show Ends c desc timeout (connectSettings c _ named >>= _)
            rw [hrepeated]
            exact .repeated htimeout hoptions hoption hfixed'

/-- A run ends with rows or an error of the transport exactly if the timeout
can be written and, once the options are read, no option is given twice and the
client library fails with a text if at all. -/
theorem Ends.isOwn_iff {outcome : Except TransportError (List Row)}
    (h : Ends c desc timeout outcome) :
    ((∃ rows, outcome = .ok rows) ∨ ∃ e, outcome = .error e ∧ e.IsOwn) ↔
      (∃ limit, Timeout.text timeout = .ok limit) ∧
        ∀ options, readOptions "HANA" desc.options = .ok options →
          (∀ k ∈ options.keys, k ∉ fixedNames) ∧
            ∀ f, c.serverResult = .error f → f.text? ≠ none := by
  -- an error that passes through is neither
  have hforeign : ∀ {e : TransportError}, ¬ e.IsOwn →
      ¬ ((∃ rows, (Except.error e : Except _ (List Row)) = .ok rows) ∨
        ∃ e', (Except.error e : Except _ (List Row)) = .error e' ∧ e'.IsOwn) := by
    rintro e he (⟨rows, hrows⟩ | ⟨e', he', hown⟩)
    · exact absurd hrows nofun
    · obtain rfl := Except.error.inj he'
      exact he hown
  cases h with
  | badTimeout htimeout =>
      refine iff_of_false (hforeign id) fun ⟨⟨limit, hlimit⟩, _⟩ => ?_
      exact nomatch hlimit.symm.trans htimeout
  | badOption htimeout hoptions =>
      refine iff_of_true (.inr ⟨_, rfl, trivial⟩) ⟨⟨_, htimeout⟩, fun options h => ?_⟩
      exact nomatch h.symm.trans hoptions
  | repeated htimeout hoptions hoption hfixed =>
      exact iff_of_false (hforeign id) fun ⟨_, hread⟩ => (hread _ hoptions).1 _ hoption hfixed
  | @refused _ text _ f htimeout hoptions hfree hresult htext =>
      refine iff_of_true (.inr ⟨_, rfl, trivial⟩) ⟨⟨_, htimeout⟩, fun options h => ?_⟩
      obtain rfl := Except.ok.inj (h.symm.trans hoptions)
      refine ⟨hfree, fun f' hf' => ?_⟩
      obtain rfl := Except.error.inj (hf'.symm.trans hresult)
      exact htext ▸ Option.some_ne_none text
  | textless htimeout hoptions hfree hresult htext =>
      exact iff_of_false (hforeign id) fun ⟨_, hread⟩ => (hread _ hoptions).2 _ hresult htext
  | rows htimeout hoptions hfree hresult =>
      refine iff_of_true (.inl ⟨_, rfl⟩) ⟨⟨_, htimeout⟩, fun options h => ?_⟩
      obtain rfl := Except.ok.inj (h.symm.trans hoptions)
      exact ⟨hfree, fun f hf => nomatch hf.symm.trans hresult⟩

/-- A run that has an address does not fail for want of one. -/
theorem Ends.ne_noAddress {outcome : Except TransportError (List Row)}
    (h : Ends c desc timeout outcome) : outcome ≠ .error .noAddress := by
  cases h <;> exact nofun

end ServerTransport

/-! ## §5. Connections to HANA. -/

namespace Driver

/-- A default makes up for a missing value. -/
theorem orDefault_ne_null {v default : Value} (h : default ≠ .null) :
    orDefault v default ≠ .null := by
  unfold orDefault
  split
  · exact h
  next hne => exact hne

/-- A descriptor of HANA has an address, and its properties have names of their
own. -/
theorem descriptor_hana {p : Parameters} {desc : Descriptor}
    (h : Driver.hana.descriptor p = .ok desc) :
    desc.host ≠ .null ∧ desc.port ≠ .null ∧
      ∀ k ∈ desc.properties.keys, k ∉ ServerTransport.fixedNames := by
  obtain ⟨hhost, hport⟩ := address_of_hostDescriptor (d := Driver.hana) h
  refine ⟨hhost ▸ orDefault_ne_null nofun, hport ▸ orDefault_ne_null nofun, fun k hk => ?_⟩
  have hproperties : desc.properties = Driver.hana.connectionProperties p := by
    obtain ⟨extra, -, h⟩ := exists_of_bind_eq_ok (h : Driver.hana.hostDescriptor p = .ok desc)
    split at h
    · exact absurd h nofun
    · obtain rfl := Except.ok.inj h
      rfl
  rw [hproperties] at hk
  have hnames : ∀ k ∈ Driver.hana.propertyNames, k ∉ ServerTransport.fixedNames := by decide
  exact hnames k (Driver.hana.mem_propertyNames_of_connectionProperties p k hk)

end Driver

namespace ServerTransport

/-- **A run on HANA ends with rows or with an error of the transport, exactly if
the timeout can be written in milliseconds, no option is named like a setting
that the transport gives itself and a failure of the client library has a
text.**  Otherwise it ends as `Ends` tells, with the fault of the timeout, with
the setting that comes twice or with the number that cannot be written.  An
address is never missing; a port with too many digits has no descriptor. -/
theorem run_isOwn_iff (c : Client) (hc : c.IsWellBehaved) (f : Form) (sql : String)
    (timeout : Value) :
    ((Driver.hana.portOf f.toParameters).isWritable = false ∧
      Driver.hana.descriptor f.toParameters = .error .tooManyDigits) ∨
    ∃ desc, Driver.hana.descriptor f.toParameters = .ok desc ∧
      desc.options = String.ofList (Driver.hana.optionsText
        (f.options.mapValues .text) (Driver.freeText f)) ∧
      Ends c desc timeout (run c desc sql timeout).outcome ∧
      (run c desc sql timeout).outcome ≠ .error .noAddress ∧
      (((∃ rows, (run c desc sql timeout).outcome = .ok rows) ∨
          ∃ e, (run c desc sql timeout).outcome = .error e ∧ e.IsOwn) ↔
        (∃ limit, Timeout.text timeout = .ok limit) ∧
          ∀ options, readOptions "HANA" desc.options = .ok options →
            (∀ k ∈ options.keys, k ∉ fixedNames) ∧
              ∀ failure, c.serverResult = .error failure → failure.text? ≠ none) := by
  obtain ⟨-, hport, herror⟩ | ⟨desc, hdesc, hoptions, -⟩ := Driver.hana.descriptor_toParameters f
  · exact .inl ⟨hport, herror⟩
  · obtain ⟨hhost, hport, hproperties⟩ := Driver.descriptor_hana hdesc
    have hends : Ends c desc timeout (run c desc sql timeout).outcome :=
      ends_run hc hhost hport hproperties
    exact .inr ⟨desc, hdesc, hoptions, hends, hends.ne_noAddress, hends.isOwn_iff⟩

/-- An option may be called `address`, and a finite timeout may have infinitely
many milliseconds; the transport reports neither. -/
theorem run_isOwn_iff_address :
    (∃ desc, Driver.hana.descriptor
        (Form.toParameters { host := some "h", options := .ofList [("address", "x")] }) = .ok desc ∧
      ¬ ((∃ rows, (run { connectName := "connect" } desc "SELECT 1 FROM DUMMY" (.int 30)).outcome
          = .ok rows) ∨
        ∃ e, (run { connectName := "connect" } desc "SELECT 1 FROM DUMMY" (.int 30)).outcome
          = .error e ∧ e.IsOwn)) ∧
    (Binary64.ofDecimal false 1 306).isFinite = true ∧
    ∃ desc, Driver.hana.descriptor (Form.toParameters { host := some "h" }) = .ok desc ∧
      ¬ ((∃ rows, (run { connectName := "connect" } desc "SELECT 1 FROM DUMMY"
          (.float (.ofDecimal false 1 306))).outcome = .ok rows) ∨
        ∃ e, (run { connectName := "connect" } desc "SELECT 1 FROM DUMMY"
          (.float (.ofDecimal false 1 306))).outcome = .error e ∧ e.IsOwn) := by
  -- a client library that answers every call with nothing
  have hclient : Client.IsWellBehaved { connectName := "connect" } := by
    constructor
    case closeCursor => rfl
    case close => rfl
    case width =>
      intro columns rows hdescribe hcolumns
      exact absurd (Except.ok.inj hdescribe).symm hcolumns
    all_goals
      intro f hf
      cases hf
  refine ⟨?_, by decide +kernel, ?_⟩
  · obtain ⟨hlong, -⟩ | ⟨desc, hdesc, hoptions, -, -, hown⟩ := run_isOwn_iff
      { connectName := "connect" } hclient
      { host := some "h", options := .ofList [("address", "x")] } "SELECT 1 FROM DUMMY" (.int 30)
    · exact absurd hlong (Driver.isWritable_portOf_hana rfl)
    · refine ⟨desc, hdesc, fun h => ?_⟩
      have hread : readOptions "HANA" desc.options = .ok (.ofList [("address", "x")]) := by
        rw [hoptions]
        rfl
      exact ((hown.1 h).2 _ hread).1 "address" (by decide) (by decide)
  · obtain ⟨hlong, -⟩ | ⟨desc, hdesc, -, -, -, hown⟩ := run_isOwn_iff
      { connectName := "connect" } hclient { host := some "h" } "SELECT 1 FROM DUMMY"
      (.float (.ofDecimal false 1 306))
    · exact absurd hlong (Driver.isWritable_portOf_hana rfl)
    · refine ⟨desc, hdesc, fun h => ?_⟩
      obtain ⟨⟨limit, hlimit⟩, -⟩ := hown.1 h
      -- 10^306 seconds are finite, as milliseconds they are not
      have hscale : (Binary64.ofDecimal false 1 306).scale Timeout.perSecond = .infinity false := by
        decide +kernel
      rw [Timeout.text, Timeout.milliseconds, hscale] at hlimit
      cases hlimit

end ServerTransport

end SqlDialect
