/-
  SqlDialect.Proofs.Connection.Credentials
  ────────────────────────────────
  **CREDENTIALS STAY HIDDEN.**

  The address of a host depends on its host, its port and the options only.
  The credentials are properties, and the password stands among them under a
  name that is masked, whatever the other properties are called.  So two
  connections that differ in the password only cannot be told apart:

      redacted <$> d.descriptor { p with password := v }
        = redacted <$> d.descriptor { p with password := w }

  and neither can their probes, as far as the transport answers alike.
-/
import SqlDialect.Driver.Builtin
import SqlDialect.Probe.Connection
import SqlDialect.Proofs.Connection.Options
import SqlDialect.Proofs.Number.Digits

namespace SqlDialect

/-! ## §1. Masked properties. -/

namespace Descriptor

/-- Masking a property that is written masks what is written: the mask goes by
the name alone. -/
theorem masked_insert (s : Settings Value) (k : String) (v : Value) :
    masked (s.insert k v) = (masked s).insert k (displayed (k, v)) :=
  Settings.ext (Entries.map_insert sameKey sameKey (g := id) (f := fun k v => displayed (k, v))
    (fun _ _ => rfl) (fun _ _ h => by rw [beq_iff_eq.1 h]) k v s.entries)

/-- A mask is shown as it is. -/
theorem displayed_displayed (e : String × Value) : displayed (e.1, displayed e) = displayed e := by
  unfold displayed
  split <;> rfl

/-- Masking twice is masking once. -/
theorem masked_masked (s : Settings Value) : masked (masked s) = masked s := by
  refine Settings.ext ?_
  show (s.entries.map fun e => (e.1, displayed e)).map _ = s.entries.map _
  rw [List.map_map]
  exact List.map_congr_left fun e _ => Prod.ext rfl (displayed_displayed e)

/-- What is displayed of the properties shows nothing that is hidden. -/
theorem displayedProperties_redacted (desc : Descriptor) :
    desc.redacted.displayedProperties = desc.displayedProperties :=
  congrArg Settings.entries (masked_masked desc.properties)

/-- The text of a descriptor shows no more than its redacted form. -/
theorem display_redacted (desc : Descriptor) : desc.redacted.display = desc.display := by
  unfold display
  rw [displayedProperties_redacted]
  rfl

end Descriptor

/-! ## §2. Descriptors. -/

namespace Driver

variable {d : Driver} {p q : Parameters}

/-- **The address is all that a host's descriptor takes from outside the
credentials**: with other credentials only the properties are others. -/
theorem hostDescriptor_of_address_eq (hhost : p.host = q.host) (hport : p.port = q.port)
    (hoptions : p.options = q.options) (hextra : p.additionalOptions = q.additionalOptions) :
    d.hostDescriptor q = (fun desc => { desc with properties := d.connectionProperties q })
      <$> d.hostDescriptor p := by
  have hhostOf : d.hostOf q = d.hostOf p := by rw [hostOf, hostOf, hhost]
  have hportOf : d.portOf q = d.portOf p := by rw [portOf, portOf, hport]
  unfold hostDescriptor
  rw [hhostOf, hportOf, hoptions, hextra]
  cases extraOptions q.additionalOptions with
  | error e => rfl
  | ok extra =>
      show (if _ then _ else _) = _ <$> (if _ then _ else _)
      split <;> rfl

/-- A password that is given stands behind the user and before what may be
written over it. -/
theorem connectionProperties_of_password (d : Driver) (p : Parameters) {v : Value}
    (hv : v ≠ .null) :
    d.connectionProperties { p with password := v }
      = Settings.insert
          (match p.dbname with
            | .null => (Settings.empty.insert "user"
                (orDefault p.user (.text d.defaultUser))).insert "password" v
            | name => ((Settings.empty.insert "user"
                (orDefault p.user (.text d.defaultUser))).insert "password" v).insert
                  d.databaseProperty name)
          d.encryptProperty (.text (if p.ssl.isTruthy then "true" else "false")) := by
  cases v <;> first
    | exact absurd rfl hv
    | rfl

/-- The mask hides which password is given. -/
theorem masked_connectionProperties (d : Driver) (p : Parameters) {v w : Value}
    (hv : v ≠ .null) (hw : w ≠ .null) :
    Descriptor.masked (d.connectionProperties { p with password := v })
      = Descriptor.masked (d.connectionProperties { p with password := w }) := by
  rw [connectionProperties_of_password d p hv, connectionProperties_of_password d p hw]
  -- what is written later is written over the same mask
  cases p.dbname <;> simp only [Descriptor.masked_insert] <;> rfl

/-- **The password cannot be seen in a descriptor.** -/
theorem redacted_descriptor (d : Driver) (p : Parameters) {v w : Value}
    (hv : v ≠ .null) (hw : w ≠ .null) :
    Descriptor.redacted <$> d.descriptor { p with password := v }
      = Descriptor.redacted <$> d.descriptor { p with password := w } := by
  by_cases hfamily : d.family = .duckdb
  · -- a file has no credentials
    unfold descriptor
    rw [hfamily]
    rfl
  · rw [descriptor_of_family_ne hfamily, descriptor_of_family_ne hfamily,
      hostDescriptor_of_address_eq (q := { p with password := w })
        (p := { p with password := v }) rfl rfl rfl rfl]
    -- the properties are the only part that a password goes into
    have hmasked := masked_connectionProperties d p hv hw
    unfold hostDescriptor
    cases extraOptions p.additionalOptions with
    | error e => rfl
    | ok extra =>
        show _ <$> (if _ then _ else _) = _ <$> (_ <$> (if _ then _ else _))
        split
        · rfl
        · show Except.ok _ = Except.ok _
          simp only [Descriptor.redacted, hmasked]

/-! ## §3. Probes. -/

variable {ask ask' : Answering} {timeout : Value}

/-- The verdict on an answer asks for nothing more. -/
theorem requests_canConnect (d : Driver) (ask : Answering) (p : Parameters) (timeout : Value) :
    (d.canConnect ask p timeout).requests = (d.sendProbe ask p timeout).requests := by
  unfold canConnect
  simp only
  split
  · rfl
  · rfl
  · split <;> rfl

/-- Descriptors that show alike are probed alike, if they are answered alike. -/
theorem sendProbe_of_redacted
    (h : Descriptor.redacted <$> d.descriptor p = Descriptor.redacted <$> d.descriptor q)
    (hanswer : ∀ r ∈ (d.sendProbe ask p timeout).requests,
      ∀ r' ∈ (d.sendProbe ask' q timeout).requests, ask r = ask' r') :
    (d.sendProbe ask p timeout).outcome = (d.sendProbe ask' q timeout).outcome ∧
      (d.sendProbe ask p timeout).log = (d.sendProbe ask' q timeout).log := by
  unfold sendProbe at hanswer ⊢
  cases hp : d.descriptor p with
  | error e =>
      cases hq : d.descriptor q with
      | error e' =>
          rw [hp, hq] at h
          obtain rfl := Except.error.inj h
          exact ⟨rfl, rfl⟩
      | ok desc' =>
          rw [hp, hq] at h
          exact absurd h nofun
  | ok desc =>
      cases hq : d.descriptor q with
      | error e' =>
          rw [hp, hq] at h
          exact absurd h nofun
      | ok desc' =>
          rw [hp, hq] at h hanswer
          have hshown : desc.redacted = desc'.redacted := Except.ok.inj h
          have hsubname : desc.subname = desc'.subname := by
            show desc.redacted.subname = _
            rw [hshown]
            rfl
          refine ⟨hanswer _ (List.mem_singleton_self _) _ (List.mem_singleton_self _), ?_⟩
          -- the note names the address, which the mask leaves alone
          simp only [probingNote, hsubname]

/-- Two connections that differ in hidden values only, and are answered alike,
are probed alike, down to the log. -/
theorem canConnect_of_redacted
    (h : Descriptor.redacted <$> d.descriptor p = Descriptor.redacted <$> d.descriptor q)
    (hanswer : ∀ r ∈ (d.canConnect ask p timeout).requests,
      ∀ r' ∈ (d.canConnect ask' q timeout).requests, ask r = ask' r') :
    (d.canConnect ask p timeout).outcome = (d.canConnect ask' q timeout).outcome ∧
      (d.canConnect ask p timeout).log = (d.canConnect ask' q timeout).log := by
  rw [requests_canConnect, requests_canConnect] at hanswer
  obtain ⟨houtcome, hlog⟩ := sendProbe_of_redacted h hanswer
  unfold canConnect
  simp only [houtcome, hlog]
  cases (d.sendProbe ask' q timeout).outcome with
  | error text? => exact ⟨rfl, rfl⟩
  | ok rows? =>
      cases rows? with
      | none => exact ⟨rfl, rfl⟩
      | some rows =>
          cases hverdict : isProbeSuccess rows with
          | error e => simp only [hverdict, and_self]
          | ok success => cases success <;> simp only [hverdict, and_self]

/-! ## §4. Credentials. -/

/-- Typed parameters give a descriptor, unless the port of a host has more
digits than are written. -/
theorem exists_descriptor (d : Driver) (f : Form) :
    ((d.portOf f.toParameters).isWritable = false ∧
      d.descriptor f.toParameters = .error .tooManyDigits) ∨
    ∃ desc, d.descriptor f.toParameters = .ok desc := by
  obtain ⟨-, hport, herror⟩ | ⟨desc, hdesc, -⟩ := d.descriptor_toParameters f
  · exact .inl ⟨hport, herror⟩
  · exact .inr ⟨desc, hdesc⟩

/-- **Credentials stay hidden.**  For a database on a host, two forms with the
same host, port, options and free text have the same address, URL and options,
whatever their credentials; a port with too many digits is refused in both.
For every driver, two connections that differ in a given password only have the
same texts, the same redacted descriptor, and probes with the same result and
the same log, if they are answered alike. -/
theorem credentials_stay_hidden (d : Driver) :
    (d.family ≠ .duckdb → ∀ f g : Form, f.host = g.host → f.port = g.port →
      f.options = g.options → f.additionalOptions = g.additionalOptions →
      ((d.portOf f.toParameters).isWritable = false ∧
        d.descriptor f.toParameters = .error .tooManyDigits ∧
        d.descriptor g.toParameters = .error .tooManyDigits) ∨
      ∃ x y, d.descriptor f.toParameters = .ok x ∧ d.descriptor g.toParameters = .ok y ∧
        x.subname = y.subname ∧ x.url = y.url ∧ x.options = y.options) ∧
    ∀ (p : Parameters) (v w : Value), v ≠ .null → w ≠ .null →
      { p with password := v }.display? = { p with password := w }.display? ∧
      Descriptor.redacted <$> d.descriptor { p with password := v }
        = Descriptor.redacted <$> d.descriptor { p with password := w } ∧
      Descriptor.display <$> d.descriptor { p with password := v }
        = Descriptor.display <$> d.descriptor { p with password := w } ∧
      ∀ ask ask' timeout,
        (∀ r ∈ (d.canConnect ask { p with password := v } timeout).requests,
          ∀ r' ∈ (d.canConnect ask' { p with password := w } timeout).requests,
            ask r = ask' r') →
        (d.canConnect ask { p with password := v } timeout).outcome
            = (d.canConnect ask' { p with password := w } timeout).outcome ∧
          (d.canConnect ask { p with password := v } timeout).log
            = (d.canConnect ask' { p with password := w } timeout).log := by
  refine ⟨fun hfamily f g hhost hport hoptions hextra => ?_, fun p v w hv hw => ?_⟩
  · -- the second descriptor is the first one with other properties
    have haddress : d.descriptor g.toParameters
        = (fun desc => { desc with properties := d.connectionProperties g.toParameters })
          <$> d.descriptor f.toParameters := by
      rw [descriptor_of_family_ne hfamily, descriptor_of_family_ne hfamily]
      refine hostDescriptor_of_address_eq ?_ ?_ ?_ ?_
      · show Form.optionalText f.host = Form.optionalText g.host
        rw [hhost]
      · show (f.port.map Value.int).getD .null = (g.port.map Value.int).getD .null
        rw [hport]
      · show f.options.mapValues Value.text = g.options.mapValues Value.text
        rw [hoptions]
      · show Form.optionalText f.additionalOptions = Form.optionalText g.additionalOptions
        rw [hextra]
    obtain ⟨hwritable, herror⟩ | ⟨x, hx⟩ := d.exists_descriptor f
    · exact .inl ⟨hwritable, herror, by rw [haddress, herror]; rfl⟩
    · rw [hx] at haddress
      exact .inr ⟨x, _, hx, haddress, rfl, rfl, rfl⟩
  · have hredacted := redacted_descriptor d p hv hw
    refine ⟨rfl, hredacted, ?_, fun ask ask' timeout => canConnect_of_redacted hredacted⟩
    -- a display is already one of the redacted descriptor
    have hdisplay : ∀ x : Except SpecError Descriptor,
        Descriptor.display <$> x = Descriptor.display <$> (Descriptor.redacted <$> x) := by
      rintro (e | desc)
      · rfl
      · exact congrArg Except.ok desc.display_redacted.symm
    rw [hdisplay, hredacted, ← hdisplay]

/-- The properties may be named after one another. -/
theorem credentials_stay_hidden_hana :
    (∃ x y, Driver.descriptor
        { Driver.hana with databaseProperty := "password", encryptProperty := "user" }
        (Form.toParameters {
          host := some "h", port := some 1, dbname := some "d", user := some "u",
          password := some "p", ssl := true }) = .ok x ∧
      Driver.descriptor
        { Driver.hana with databaseProperty := "password", encryptProperty := "user" }
        (Form.toParameters { host := some "h", port := some 1 }) = .ok y ∧
      x.subname = y.subname ∧ x.url = y.url ∧ x.options = y.options) ∧
    Descriptor.redacted <$> Driver.hana.descriptor { password := .text "a" }
      = Descriptor.redacted <$> Driver.hana.descriptor { password := .text "b" } ∧
    (Driver.hana.canConnect (fun _ => .error (some "refused"))
        { password := .text "a" } (.int 1)).log
      = (Driver.hana.canConnect (fun _ => .error (some "refused"))
          { password := .text "b" } (.int 1)).log := by
  -- properties of other names are no part of the address
  obtain ⟨haddress, -⟩ := credentials_stay_hidden
    { Driver.hana with databaseProperty := "password", encryptProperty := "user" }
  obtain ⟨-, hpassword⟩ := credentials_stay_hidden Driver.hana
  obtain ⟨-, hredacted, -, hprobe⟩ :=
    hpassword {} (.text "a") (.text "b") Value.noConfusion Value.noConfusion
  refine ⟨?_, hredacted, (hprobe _ _ _ fun _ _ _ _ => rfl).2⟩
  obtain ⟨hport, -⟩ | hsame := haddress nofun
    { host := some "h", port := some 1, dbname := some "d", user := some "u",
      password := some "p", ssl := true } { host := some "h", port := some 1 } rfl rfl rfl rfl
  · have hwritable : (Value.int 1).isWritable = true :=
      Number.isWritable_of_length_le (by decide)
    exact absurd (hwritable.symm.trans hport) nofun
  · exact hsame

/-- **A port of 5001 digits has no address**, whatever the credentials. -/
theorem long_port_has_no_address :
    ∃ n : Nat, n = Number.power 10 5000 ∧
      ¬ ∃ x y, Driver.standard.descriptor
            (Form.toParameters { port := some n, user := some "u" }) = .ok x ∧
          Driver.standard.descriptor (Form.toParameters { port := some n }) = .ok y ∧
          x.subname = y.subname ∧ x.url = y.url ∧ x.options = y.options := by
  obtain ⟨n, hn, hlong⟩ := Number.exists_long_number
  refine ⟨n, hn, ?_⟩
  rintro ⟨x, y, -, hy, -⟩
  exact nomatch hy.symm.trans (descriptor_of_long_port nofun hlong)

end Driver

end SqlDialect
