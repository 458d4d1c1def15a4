/-
  SqlDialect.Proofs.Transport.Options
  ────────────────────────────────
  **OPTIONS REACH THE CLIENT LIBRARY.**

  What a driver writes into the options of a descriptor is what a transport
  reads from them.  A server is connected to with these options and with the
  named properties over them.
-/
import SqlDialect.Driver.Builtin
import SqlDialect.Proofs.Connection.Options
import SqlDialect.Proofs.Number.Digits
import SqlDialect.Transport.Run

namespace SqlDialect

open SqlDialect.Text

/-! ## §1. The first call to a server. -/

/-- Whole seconds are written as whole milliseconds, as far as they can be. -/
theorem Timeout.text_int {n : Int} (h : Number.isWritable (n * perSecond) = true) :
    text (.int n) = .ok (String.ofList (Number.intText (n * perSecond))) := by
  have hms : milliseconds (.int n) = .ok (n * perSecond) := rfl
  rw [text, hms, ok_bind, if_pos h]
  rfl

namespace Session

variable {ε α β : Type}

/-- A value that is there makes no call. -/
theorem bind_ofOutcome_ok (a : α) (next : α → Session ε β) :
    ofOutcome (.ok a) >>= next = next a :=
  bind_of_ok rfl next

/-- Whatever comes of a call, it has been made first. -/
theorem events_bind_call (event : Event) (outcome : Except ε α) (next : α → Session ε β) :
    ∃ rest, (call event outcome >>= next).events = event :: rest := by
  cases outcome with
  | error e => exact ⟨[], congrArg events (bind_of_error rfl next)⟩
  | ok a => exact ⟨(next a).events, congrArg events (bind_of_ok rfl next)⟩

end Session

namespace ServerTransport

variable {desc : Descriptor}

/-- A property goes before an option of its name. -/
theorem namedSettings_of_options {options : Settings String}
    (h : readOptions "HANA" desc.options = .ok options) :
    ∃ named, namedSettings desc = .ok named ∧
      ∀ k, named.get? k = (desc.properties.get? k).or ((options.get? k).map .text) := by
  refine ⟨(options.mapValues .text).overlay desc.properties.entries, ?_, fun k => ?_⟩
  · rw [namedSettings, h]
    rfl
  · rw [Settings.get?_overlay, Settings.get?_mapValues]

/-- The names of the settings that the transport gives itself. -/
def fixedNames : List String := ["address", "port", "connectTimeout", "communicationTimeout"]

theorem map_fst_fixedSettings (host port : Value) (limit : String) :
    (fixedSettings host port limit).map (·.1) = fixedNames := rfl

/-- A server is asked with an address. -/
theorem run_of_address (c : Client) (sql : String) (timeout : Value) (hhost : desc.host ≠ .null)
    (hport : desc.port ≠ .null) :
    run c desc sql timeout = (do
      let limit ← .ofOutcome ((Timeout.text timeout).mapError .timeout)
      let named ← .ofOutcome (namedSettings desc)
      let settings ← .ofOutcome
        (connectSettings c (fixedSettings desc.host desc.port limit) named)
      .call (.connect settings) (c.connect.mapError report)
      let (columns, rows) ← runConnected c sql
      .ofOutcome (nameRows columns rows)) := by
  unfold run
  rw [if_neg]
  cases hh : desc.host <;> first
    | exact absurd hh hhost
    | cases hp : desc.port <;> first
      | exact absurd hp hport
      | exact Bool.false_ne_true

/-- Settings with names of their own stand behind those of the transport. -/
theorem connectSettings_of_free (c : Client) (host port : Value) (limit : String)
    {named : Settings Value} (h : ∀ k ∈ named.keys, k ∉ fixedNames) :
    connectSettings c (fixedSettings host port limit) named
      = .ok (fixedSettings host port limit ++ named.entries) := by
  have hnone : named.keys.find? (fixedNames.contains ·) = none :=
    List.find?_eq_none.2 fun k hk hmem => h k hk (List.contains_iff_mem.1 hmem)
  rw [connectSettings, map_fst_fixedSettings, hnone]

/-- The server is connected to first, with all settings, if no name among them
comes twice. -/
theorem events_run (c : Client) (sql : String) {timeout : Value} {limit : String}
    {named : Settings Value} (hhost : desc.host ≠ .null) (hport : desc.port ≠ .null)
    (hlimit : Timeout.text timeout = .ok limit) (hnamed : namedSettings desc = .ok named)
    (hfree : ∀ k ∈ named.keys, k ∉ fixedNames) :
    ∃ rest, (run c desc sql timeout).events
      = .connect (fixedSettings desc.host desc.port limit ++ named.entries) :: rest := by
  rw [run_of_address c sql timeout hhost hport, hlimit, hnamed]
  show ∃ rest, (Session.ofOutcome (.ok limit) >>= _ : Session _ _).events = _
  rw [Session.bind_ofOutcome_ok, Session.bind_ofOutcome_ok,
    connectSettings_of_free c desc.host desc.port limit hfree, Session.bind_ofOutcome_ok]
  exact Session.events_bind_call _ _ _

end ServerTransport

/-! ## §2. All the way. -/

/-- **Options reach the client library.**  A form with plain options has a
descriptor, unless the port of a host has too many digits.  From its options
every transport reads the defaults with the given options and those of the
free text over them, and it fails exactly for a part of the free text without
an equals sign.  A server is connected to with these options and the named
properties over them, if the transport gives itself none of their names. -/
theorem options_reach_client (d : Driver) (f : Form) (hstyle : d.separatorStyle = .url)
    (hdefault : ∀ e ∈ d.defaultOptions.entries, IsPlainOption e)
    (hgiven : ∀ e ∈ f.options.entries, IsPlainOption e) :
    (d.family ≠ .duckdb ∧ (d.portOf f.toParameters).isWritable = false ∧
      d.descriptor f.toParameters = .error .tooManyDigits) ∨
    ∃ desc, d.descriptor f.toParameters = .ok desc ∧
      (∀ library, readOptions library desc.options
        = (d.defaultOptions.overlay (d.sentOptions f).entries).overlay
            <$> (freeParts (Driver.freeText f)).mapM (readOption library)) ∧
      (∀ library, (∃ e, readOptions library desc.options = .error e) ↔
        ∃ part ∈ splitOn '&' (trimOptions (Driver.freeText f)), part ≠ [] ∧ '=' ∉ part) ∧
      ∀ options, readOptions "HANA" desc.options = .ok options →
        ∃ named, ServerTransport.namedSettings desc = .ok named ∧
          (∀ k, named.get? k = (desc.properties.get? k).or ((options.get? k).map .text)) ∧
          ∀ c sql timeout limit, desc.host ≠ .null → desc.port ≠ .null →
            Timeout.text timeout = .ok limit →
            (∀ k ∈ d.databaseProperty :: d.encryptProperty :: options.keys,
              k ∉ ServerTransport.fixedNames) →
            ∃ rest, (ServerTransport.run c desc sql timeout).events
              = .connect (ServerTransport.fixedSettings desc.host desc.port limit
                  ++ named.entries) :: rest := by
  obtain hport | ⟨desc, hdesc, hoptions, hproperties⟩ := d.descriptor_toParameters f
  · exact .inl hport
  · have hsent : ∀ e ∈ (d.sentOptions f).entries, IsPlainOption e := by
      intro e he
      refine hgiven e ?_
      unfold Driver.sentOptions at he
      cases hfamily : d.family <;> rw [hfamily] at he
      · exact he
      · exact he
      · exact (List.mem_filter.1 he).1
    have hread : ∀ library, readOptions library desc.options
        = (d.plainOptions (d.sentOptions f)).overlay
            <$> (freeParts (Driver.freeText f)).mapM (readOption library) := by
      intro library
      rw [hoptions]
      exact readOptions_optionsText hstyle (plain_plainOptions hdefault hsent) _ library
    have hfail : ∀ library, (∃ e, readOptions library desc.options = .error e) ↔
        ∃ part ∈ splitOn '&' (trimOptions (Driver.freeText f)), part ≠ [] ∧ '=' ∉ part := by
      intro library
      rw [← mapM_freeParts_eq_error_iff, hread]
      cases (freeParts (Driver.freeText f)).mapM (readOption library) with
      | error e => exact iff_of_true ⟨e, rfl⟩ ⟨e, rfl⟩
      | ok ps => exact iff_of_false (fun ⟨_, h⟩ => nomatch h) (fun ⟨_, h⟩ => nomatch h)
    refine .inr ⟨desc, hdesc, hread, hfail, fun options hparsed => ?_⟩
    obtain ⟨named, hnamed, hget⟩ := ServerTransport.namedSettings_of_options hparsed
    refine ⟨named, hnamed, hget, fun c sql timeout limit hhost hp hlimit hfree =>
      ServerTransport.events_run c sql hhost hp hlimit hnamed fun k hk => ?_⟩
    -- a name is that of a property or that of an option
    rw [← Settings.get?_isSome_iff, hget, Option.isSome_or, Bool.or_eq_true, Option.isSome_map,
      Settings.get?_isSome_iff, Settings.get?_isSome_iff] at hk
    rcases hk with hproperty | hoption
    · have hname := hproperties k hproperty
      simp only [Driver.propertyNames, List.mem_cons, List.not_mem_nil, or_false] at hname
      rcases hname with rfl | rfl | rfl | rfl | rfl
      · decide
      · decide
      · decide
      · exact hfree _ (by simp)
      · exact hfree _ (by simp)
    · exact hfree k (by simp [hoption])

/-- The free text has the last word, and loses only the marks at its ends. -/
theorem options_reach_client_hana :
    ∃ (desc : Descriptor) (options : Settings String) (named : Settings Value), Driver.descriptor
        { Driver.hana with defaultOptions := .ofList [("compress", "1"), ("locale", "de")] }
        (Form.toParameters {
          port := some 30015
          options := .ofList [("locale", "x=y")]
          additionalOptions := some " ?compress=0;&&key=;& " }) = .ok desc ∧
      readOptions "HANA" desc.options = .ok options ∧
      options = .ofList [("compress", "0;"), ("locale", "x=y"), ("key", "")] ∧
      (∀ k, named.get? k = (desc.properties.get? k).or ((options.get? k).map .text)) ∧
      ∀ c sql, ∃ rest, (ServerTransport.run c desc sql (.int 30)).events
        = .connect (ServerTransport.fixedSettings desc.host desc.port "30000"
            ++ named.entries) :: rest := by
  -- the defaults and the options are plain, each checked by evaluation
  have hplain : ∀ k v : String, '=' ∉ k.toList → '&' ∉ k.toList → trim k.toList = k.toList →
      '&' ∉ v.toList → trim v.toList = v.toList → IsPlainOption (k, v) :=
    fun _ _ h₁ h₂ h₃ h₄ h₅ => ⟨h₁, h₂, h₃, h₄, h₅⟩
  obtain ⟨-, hport, -⟩ | ⟨desc, hdesc, hread, -, hconnect⟩ := options_reach_client
    { Driver.hana with defaultOptions := .ofList [("compress", "1"), ("locale", "de")] }
    { port := some 30015
      options := .ofList [("locale", "x=y")]
      additionalOptions := some " ?compress=0;&&key=;& " } rfl
    (by
      rintro _ (_ | ⟨_, _ | ⟨_, ⟨⟩⟩⟩)
      · exact hplain "compress" "1" (by decide) (by decide) rfl (by decide) rfl
      · exact hplain "locale" "de" (by decide) (by decide) rfl (by decide) rfl)
    (by
      rintro _ (_ | ⟨_, ⟨⟩⟩)
      exact hplain "locale" "x=y" (by decide) (by decide) rfl (by decide) rfl)
  · have hwritable : (Value.int 30015).isWritable = true :=
      Number.isWritable_of_length_le (by decide)
    exact absurd (hwritable.symm.trans hport) nofun
  · have hoptions : readOptions "HANA" desc.options
        = .ok (.ofList [("compress", "0;"), ("locale", "x=y"), ("key", "")]) :=
      (hread "HANA").trans rfl
    obtain ⟨named, -, hget, hrun⟩ := hconnect _ hoptions
    refine ⟨desc, _, named, hdesc, hoptions, rfl, hget, fun c sql => ?_⟩
    have hlimit : Timeout.text (.int 30) = .ok "30000" :=
      Timeout.text_int (Number.isWritable_of_length_le (by decide))
    have haddress := Driver.address_of_hostDescriptor hdesc
    refine hrun c sql (.int 30) "30000" ?_ ?_ hlimit (by decide)
    · rw [haddress.1]
      exact Value.noConfusion
    · rw [haddress.2]
      exact Value.noConfusion

/-- **A port of 5001 digits has no options to read**, plain as they are. -/
theorem long_port_has_no_options :
    ∃ n : Nat, n = Number.power 10 5000 ∧ Driver.standard.separatorStyle = .url ∧
      (∀ e ∈ Driver.standard.defaultOptions.entries, IsPlainOption e) ∧
      IsPlainOption ("a", "b") ∧
      ¬ ∃ desc, Driver.standard.descriptor
          (Form.toParameters { port := some n, options := .ofList [("a", "b")] }) = .ok desc ∧
        readOptions "HANA" desc.options = .ok (.ofList [("a", "b")]) := by
  obtain ⟨n, hn, hlong⟩ := Number.exists_long_number
  refine ⟨n, hn, rfl, fun _ h => absurd h List.not_mem_nil,
    ⟨by decide, by decide, rfl, by decide, rfl⟩, ?_⟩
  rintro ⟨desc, hdesc, -⟩
  exact nomatch hdesc.symm.trans (Driver.descriptor_of_long_port nofun hlong)

end SqlDialect
