/-
  SqlDialect.Proofs.Probe.Diagnosis
  ────────────────────────────────
  **TRANSPORTS KEEP THE DIAGNOSIS.**

  The transport of a file puts a few words in front of what its client library
  says; that of a server passes it on as it is.  Either way a probe fails with
  the category that the driver gives to the text alone,

      diagnosis.category = (d.diagnose f.text).category,

  and the text stands in the message that is kept.  What fails before the
  client library is called, hides it: a timeout or a port that cannot be
  written.
-/
import SqlDialect.Probe.Connection
import SqlDialect.Proofs.Diagnosis.Matching
import SqlDialect.Proofs.Probe.Agreement
import SqlDialect.Proofs.Transport.Failures

namespace SqlDialect

open SqlDialect.Number

/-! ## §1. Failures of a statement. -/

variable {c : Client} {f : Failure} {desc : Descriptor} {options : Settings String}
  {p : Parameters} {timeout : Value} {sql text : String}

/-- Opening or running fails, and the report ends with what the client library
said. -/
theorem FileTransport.outcome_of_fileResult (sql : String) (timeout : Value)
    (hclose : c.close = .ok ()) (hoptions : readOptions "DuckDB" desc.options = .ok options)
    (h : c.fileResult = .error f) (htext : f.text? = some text) :
    (run c desc sql timeout).outcome = .error (.openFailed text) ∨
      (run c desc sql timeout).outcome = .error (.runFailed text) := by
  rw [outcome_run hclose, hoptions, ok_bind, ← TransportError.reporting_of_text .openFailed htext,
    ← TransportError.reporting_of_text .runFailed htext]
  obtain hconnect | ⟨_, hconnect, hresult⟩ := error_of_bind_eq_error h
  · rw [hconnect]
    exact .inl rfl
  · rw [hconnect, hresult]
    exact .inr rfl

theorem ServerTransport.outcome_of_serverResult (sql : String) (hhost : desc.host ≠ .null)
    (hport : desc.port ≠ .null) (hproperties : ∀ k ∈ desc.properties.keys, k ∉ fixedNames)
    (hcursor : c.closeCursor = .ok ()) (hclose : c.close = .ok ()) {limit : String}
    (htimeout : Timeout.text timeout = .ok limit)
    (hoptions : readOptions "HANA" desc.options = .ok options)
    (hfree : ∀ k ∈ options.keys, k ∉ fixedNames) (hkind : f.kind = .client)
    (h : c.serverResult = .error f) (htext : f.text? = some text) :
    (run c desc sql timeout).outcome = .error (.refused text) := by
  rw [outcome_of_free hhost hport hproperties hcursor hclose htimeout hoptions hfree, h]
  show Except.error (report f) = _
  rw [report, if_pos hkind, TransportError.reporting_of_text _ htext]

/-! ## §2. Diagnoses. -/

namespace Driver

/-- The parameters have a descriptor, from which the options are read. -/
def HasOptions (d : Driver) (library : String) (p : Parameters) (options : Settings String) :
    Prop :=
  ∃ desc, d.descriptor p = .ok desc ∧ readOptions library desc.options = .ok options

/-- The probe fails with the category that the driver gives to the text alone,
and keeps the text in its message. -/
def Diagnoses (d : Driver) (outcome : Except ProbeError Unit) (text : String) : Prop :=
  ∃ diagnosis message, outcome = .error (.failed diagnosis message) ∧
    diagnosis.category = (d.diagnose text).category ∧
    text.toList <:+: diagnosis.message.toList

variable {d : Driver} {t : ReadyTransport} {e : TransportError}

/-- A probe diagnoses the text of the error that its transport ends with. -/
theorem checkConnection_of_session {message : String} (hdesc : d.descriptor p = .ok desc)
    (h : (t.session ⟨desc, d.probeQuery, timeout⟩).outcome = .error e)
    (hmessage : e.message? = some message) :
    (d.checkConnection t.ask p timeout).outcome = .error (.failed (d.diagnose message)
      ((d.diagnose message).humanize Category.message?)) := by
  have hsent : (d.sendProbe t.ask p timeout).outcome = .error (some message) := by
    rw [sendProbe, hdesc, ← hmessage]
    exact ReadyTransport.ask_of_error h
  exact ((probesAgree_of_error hsent).failed _ rfl).1

/-- Words in front of a text are not seen if the driver finds the same category
without them. -/
theorem diagnoses_of_session (pre : String) (hdesc : d.descriptor p = .ok desc)
    (h : (t.session ⟨desc, d.probeQuery, timeout⟩).outcome = .error e)
    (hmessage : e.message? = some (pre ++ text))
    (hcategory : (d.diagnose (pre ++ text)).category = (d.diagnose text).category) :
    d.Diagnoses (d.checkConnection t.ask p timeout).outcome text := by
  refine ⟨_, _, checkConnection_of_session hdesc h hmessage, hcategory, ?_⟩
  show _ <:+: (pre ++ text).toList
  rw [String.toList_append]
  exact (List.suffix_append _ _).isInfix

/-- **Transports keep the diagnosis.**  If the client library fails with some
text in connecting or in the statement, and closes without fail, a probe of
DuckDB over the transport of a file and a probe of HANA over that of a server
fail with the category that the driver gives to the text alone, and keep the
text.  The server is reached if the timeout can be written in milliseconds and
no option has a name that the transport uses itself, and it passes on failures
of the client library's own kind. -/
theorem transports_keep_diagnosis (c : Client) (f : Failure) (text : String) (p : Parameters)
    (timeout : Value) (options : Settings String) (htext : f.text? = some text)
    (hclose : c.close = .ok ()) :
    (Driver.duckdb.HasOptions "DuckDB" p options → c.fileResult = .error f →
      Driver.duckdb.Diagnoses
        (Driver.duckdb.checkConnection (ReadyTransport.ask ⟨.file, c⟩) p timeout).outcome
        text) ∧
    (Driver.hana.HasOptions "HANA" p options →
      (∀ k ∈ options.keys, k ∉ ServerTransport.fixedNames) →
      (∃ limit, Timeout.text timeout = .ok limit) → c.closeCursor = .ok () →
      f.kind = .client → c.serverResult = .error f →
      Driver.hana.Diagnoses
        (Driver.hana.checkConnection (ReadyTransport.ask ⟨.server, c⟩) p timeout).outcome
        text) := by
  constructor
  · rintro ⟨desc, hdesc, hoptions⟩ hresult
    -- the words put before the text are those of no rule
    obtain hopen | hrun := FileTransport.outcome_of_fileResult Driver.duckdb.probeQuery timeout
      hclose hoptions hresult htext
    · exact diagnoses_of_session "DuckDB connection failed: " (t := ⟨.file, c⟩) hdesc hopen rfl
        (category_duckdb_append (by decide) (by decide) _)
    · exact diagnoses_of_session "DuckDB execution failed: " (t := ⟨.file, c⟩) hdesc hrun rfl
        (category_duckdb_append (by decide) (by decide) _)
  · rintro ⟨desc, hdesc, hoptions⟩ hfree ⟨limit, htimeout⟩ hcursor hkind hresult
    obtain ⟨hhost, hport, hproperties⟩ := descriptor_hana hdesc
    have hrefused := ServerTransport.outcome_of_serverResult Driver.hana.probeQuery
      hhost hport hproperties hcursor hclose htimeout hoptions hfree hkind hresult htext
    exact diagnoses_of_session "" (t := ⟨.server, c⟩) hdesc hrefused
      (congrArg some (String.empty_append ..).symm) (by rw [String.empty_append])

/-- A file that cannot be opened and a login that is refused when rows are
fetched. -/
theorem transports_keep_diagnosis_of_file_and_login :
    (Driver.duckdb.Diagnoses (Driver.duckdb.checkConnection (ReadyTransport.ask ⟨.file,
        { connectName := "connect"
          connect := .error ⟨.other, ["IO Error: Cannot open file x"]⟩ }⟩)
        (Form.toParameters {}) defaultTimeout).outcome "IO Error: Cannot open file x" ∧
      (Driver.duckdb.diagnose "IO Error: Cannot open file x").category = .databaseName) ∧
    Driver.hana.Diagnoses (Driver.hana.checkConnection (ReadyTransport.ask ⟨.server,
        { connectName := "connect"
          describe := .ok ["1"]
          fetch := .error ⟨.client, ["authentication failed"]⟩ }⟩)
        (Form.toParameters { host := some "h" }) (.int 30)).outcome "authentication failed" ∧
      (Driver.hana.diagnose "authentication failed").category = .usernameOrPassword := by
  refine ⟨⟨?_, by decide +kernel⟩, ?_, by decide +kernel⟩
  · obtain ⟨desc, hdesc⟩ : ∃ desc, Driver.duckdb.descriptor (Form.toParameters {}) = .ok desc :=
      ⟨_, rfl⟩
    have hfile := (transports_keep_diagnosis
      { connectName := "connect"
        connect := .error ⟨.other, ["IO Error: Cannot open file x"]⟩ }
      ⟨.other, ["IO Error: Cannot open file x"]⟩ "IO Error: Cannot open file x"
      (Form.toParameters {}) defaultTimeout .empty rfl rfl).1 ⟨_, rfl, rfl⟩ rfl
    exact hfile
  · obtain ⟨-, hlong, -⟩ | ⟨desc, hdesc, hoptions, -⟩ :=
      Driver.hana.descriptor_toParameters { host := some "h" }
    · exact absurd hlong (isWritable_portOf_hana rfl)
    · have hlimit : Timeout.text (.int 30) = .ok "30000" :=
        Timeout.text_int (isWritable_of_length_le (by decide))
      have hserver := (transports_keep_diagnosis
        { connectName := "connect"
          describe := .ok ["1"]
          fetch := .error ⟨.client, ["authentication failed"]⟩ }
        ⟨.client, ["authentication failed"]⟩ "authentication failed"
        (Form.toParameters { host := some "h" }) (.int 30) .empty rfl rfl).2
        ⟨desc, hdesc, by rw [hoptions]; rfl⟩ (fun _ hk => absurd hk List.not_mem_nil) ⟨_, hlimit⟩ rfl rfl rfl
      exact hserver

/-! ## §3. What hides a diagnosis. -/

/-- A server is not reached with a timeout that cannot be written. -/
theorem checkConnection_of_badTimeout {fault : TimeoutFault} (hcursor : c.closeCursor = .ok ())
    (hclose : c.close = .ok ()) (hdesc : Driver.hana.descriptor p = .ok desc)
    (htimeout : Timeout.text timeout = .error fault) :
    (Driver.hana.checkConnection (ReadyTransport.ask ⟨.server, c⟩) p timeout).outcome
      = .error (.failed (Driver.hana.diagnose fault.message)
          ((Driver.hana.diagnose fault.message).humanize Category.message?)) := by
  obtain ⟨hhost, hport, -⟩ := descriptor_hana hdesc
  have hrun : (ServerTransport.run c desc Driver.hana.probeQuery timeout).outcome
      = .error (.timeout fault) := by
    rw [ServerTransport.outcome_run hhost hport hcursor hclose, htimeout]
    rfl
  exact checkConnection_of_session (t := ⟨.server, c⟩) (e := .timeout fault) hdesc hrun rfl

/-- A diagnosis of other words does not keep the text. -/
theorem not_diagnoses_of_failed {outcome : Except ProbeError Unit} {words message : String}
    (h : outcome = .error (.failed (d.diagnose words) message))
    (hwords : ¬ text.toList <:+: words.toList) : ¬ d.Diagnoses outcome text := by
  rintro ⟨diagnosis, message', hfailed, -, hkept⟩
  obtain ⟨rfl, -⟩ := ProbeError.failed.inj (Except.error.inj (h.symm.trans hfailed))
  exact hwords hkept

/-- **What cannot be written hides the diagnosis.**  The login is refused, but
a finite timeout with infinitely many milliseconds, or a port of 5001 digits,
fails before. -/
theorem long_numbers_hide_diagnosis :
    ((Binary64.ofDecimal false 1 306).isFinite = true ∧
      ¬ Driver.hana.Diagnoses (Driver.hana.checkConnection (ReadyTransport.ask ⟨.server,
          { connectName := "connect"
            connect := .error ⟨.client, ["authentication failed"]⟩ }⟩)
        (Form.toParameters { host := some "h" }) (.float (.ofDecimal false 1 306))).outcome
        "authentication failed") ∧
    ∃ n : Nat, n = power 10 5000 ∧
      ¬ Driver.hana.Diagnoses (Driver.hana.checkConnection (ReadyTransport.ask ⟨.server,
          { connectName := "connect"
            connect := .error ⟨.client, ["authentication failed"]⟩ }⟩)
        (Form.toParameters { host := some "h", port := some n }) (.int 30)).outcome
        "authentication failed" := by
  refine ⟨⟨by decide +kernel, ?_⟩, ?_⟩
  · obtain ⟨-, hlong, -⟩ | ⟨desc, hdesc, -⟩ :=
      Driver.hana.descriptor_toParameters { host := some "h" }
    · exact absurd hlong (isWritable_portOf_hana rfl)
    · have hscale : (Binary64.ofDecimal false 1 306).scale Timeout.perSecond = .infinity false := by
        decide +kernel
      have htimeout : Timeout.text (.float (.ofDecimal false 1 306)) = .error (.infinite true) := by
        rw [Timeout.text, Timeout.milliseconds, hscale]
        rfl
      exact not_diagnoses_of_failed (checkConnection_of_badTimeout rfl rfl hdesc htimeout)
        (by decide +kernel)
  · obtain ⟨n, hn, hlong⟩ := Number.exists_long_number
    have hsent := sendProbe_of_long_port (d := Driver.hana) (ReadyTransport.ask ⟨.server,
        { connectName := "connect"
          connect := .error ⟨.client, ["authentication failed"]⟩ }⟩) (.int 30)
      (f := { host := some "h", port := some n }) (by decide) hlong
    have hfailed := ((probesAgree_of_error (congrArg ProbeRun.outcome hsent)).failed _ rfl).1
    exact ⟨n, hn, not_diagnoses_of_failed hfailed (by decide +kernel)⟩

end Driver

end SqlDialect
