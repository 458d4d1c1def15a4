/-
  SqlDialect.Proofs.Connection.Masked
  ────────────────────────────────
  **CONNECTIONS WITH A MASKED PASSWORD.**

  Masking the settings that fill in a form masks the password of the form,
  and masking a connection masks its entry and nothing else of it:

      masked c.toEntry = c.masked.toEntry

  So what is shown of masked settings tells no more of two connections than
  that both have a password.
-/
import SqlDialect.Proofs.Connection.Credentials
import SqlDialect.Proofs.Connection.Form
import SqlDialect.Proofs.Store.Entry

namespace SqlDialect

open SqlDialect.Toml

/-! ## §1. Masked settings. -/

namespace Descriptor

/-- What is no secret is displayed as it is. -/
theorem displayed_of_isSecret_eq_false {k : String} (h : isSecret k = false) (v : Value) :
    displayed (k, v) = v := by
  rw [displayed, h]
  rfl

/-- A masked value is the mask or what it was. -/
theorem get?_masked (s : Settings Value) (k : String) :
    (masked s).get? k = (s.get? k).map fun v => displayed (k, v) :=
  Entries.get?_map sameKey sameKey (g := id) (f := fun k v => displayed (k, v)) (fun _ _ => rfl)
    (fun _ _ h => by rw [beq_iff_eq.1 h]) k s.entries

/-- Masking settings masks each pair that they are made of. -/
theorem masked_ofList (pairs : List (String × Value)) :
    masked (.ofList pairs) = .ofList (pairs.map fun e => (e.1, displayed e)) :=
  Settings.overlay_of_insert masked_insert pairs .empty

/-- Masking changes no selection of names without secrets. -/
theorem filterKeys_masked (s : Settings Value) {p : String → Bool}
    (h : ∀ k, p k = true → isSecret k = false) :
    (masked s).filterKeys p = s.filterKeys p := by
  refine Settings.ext ?_
  show (s.entries.map fun e => (e.1, displayed e)).filter (fun e => p e.1)
    = s.entries.filter fun e => p e.1
  rw [List.filter_map]
  refine (List.map_congr_left fun e he => ?_).trans (List.map_id _)
  exact Prod.ext rfl (displayed_of_isSecret_eq_false (h e.1 (List.mem_filter.1 he).2) e.2)

end Descriptor

/-! ## §2. Masked forms. -/

namespace Form

/-- The form with its password masked. -/
def masked (f : Form) : Form :=
  { f with password := f.password.map fun _ => secretMask }

/-- Only the password has a secret spelling. -/
theorem isSecret_of_spelling {p : Parameter} {k : String} (hk : k ∈ p.spellings)
    (hp : p ≠ .password) : isSecret k = false := by
  revert k
  cases p <;> first
    | exact absurd rfl hp
    | decide

/-- Only the password is given as a mask. -/
theorem givenValue_masked {s : Settings Value} {p : Parameter} (hp : p ≠ .password) :
    givenValue (Descriptor.masked s) p = givenValue s p := by
  unfold givenValue
  show Option.map _ (List.find? _ (s.entries.map fun e => (e.1, Descriptor.displayed e)).reverse)
    = _
  rw [← List.map_reverse, List.find?_map, Option.map_map]
  refine Option.map_congr fun e he => ?_
  have hspelled : p.spellings.contains e.1 = true := by
    have htest := List.find?_some he
    exact htest
  exact Descriptor.displayed_of_isSecret_eq_false
    (isSecret_of_spelling (List.contains_iff_mem.1 hspelled) hp) e.2

/-- The mask stands where a password was given. -/
theorem givenValue_password_masked (s : Settings Value) :
    givenValue (Descriptor.masked s) .password
      = (givenValue s .password).map fun _ => .text secretMask := by
  rw [givenValue_of_spellings rfl, givenValue_of_spellings rfl, Descriptor.get?_masked]
  rfl

/-- No option is masked in the settings of a connection. -/
theorem optionsOf_masked (s : Settings Value) : optionsOf (Descriptor.masked s) = optionsOf s := by
  have hoptions : (Descriptor.masked s).filterKeys (fun k => (Parameter.ofKey? k).isNone)
      = s.filterKeys fun k => (Parameter.ofKey? k).isNone := by
    refine Descriptor.filterKeys_masked s fun k hk => ?_
    -- the secret is a parameter
    rw [Bool.eq_false_iff]
    intro hsecret
    obtain rfl : k = "password" := beq_iff_eq.1 hsecret
    exact absurd hk (by decide)
  rw [optionsOf, optionsOf, hoptions]

/-- **Masked settings fill in the masked form.** -/
theorem ofSettings_masked {s : Settings Value} {f : Form}
    (htext : ∀ v, s.get? "password" = some v → ∃ t, v = .text t) (h : ofSettings s = .ok f) :
    ofSettings (Descriptor.masked s) = .ok f.masked := by
  -- every field but the password is read from the same value
  rw [ofSettings_eq_ok_iff] at h ⊢
  refine ⟨optionsOf_masked s ▸ h.options, ?_, ?_, ?_, ?_, ?_, ?_, ?_⟩
  · exact givenValue_masked (s := s) (p := .port) nofun ▸ h.port
  · exact givenValue_masked (s := s) (p := .host) nofun ▸ h.host
  · exact givenValue_masked (s := s) (p := .dbname) nofun ▸ h.dbname
  · exact givenValue_masked (s := s) (p := .user) nofun ▸ h.user
  · -- the mask stands for the text of the password
    have hpassword := h.password
    rw [givenValue_password_masked]
    rw [givenValue_of_spellings (k := "password") rfl] at hpassword ⊢
    show _ = Except.ok (f.password.map fun _ => secretMask)
    cases hv : s.get? "password" with
    | none =>
        rw [hv] at hpassword
        rw [← Except.ok.inj hpassword]
        rfl
    | some v =>
        obtain ⟨t, rfl⟩ := htext v hv
        rw [hv] at hpassword
        rw [← Except.ok.inj hpassword]
        exact congrArg Except.ok (congrArg some (Value.shown_text secretMask))
  · exact givenValue_masked (s := s) (p := .ssl) nofun ▸ h.ssl
  · exact givenValue_masked (s := s) (p := .additionalOptions) nofun ▸ h.additionalOptions

end Form

/-! ## §3. Masked connections. -/

namespace Parameters

/-- The parameters with the password masked, if there is one. -/
def masked (p : Parameters) : Parameters :=
  match p.password with
  | .null => p
  | _ => { p with password := .text secretMask }

/-- With a password only that is masked. -/
theorem masked_of_password {p : Parameters} (h : p.password ≠ .null) :
    p.masked = { p with password := .text secretMask } := by
  unfold masked
  split
  next hnull => exact absurd hnull h
  next => rfl

end Parameters

/-- **A descriptor shows no more than that of the masked parameters.** -/
theorem Driver.redacted_descriptor_masked (d : Driver) (p : Parameters) :
    Descriptor.redacted <$> d.descriptor p.masked = Descriptor.redacted <$> d.descriptor p := by
  by_cases h : p.password = .null
  · have hsame : p.masked = p := by
      unfold Parameters.masked
      rw [h]
    rw [hsame]
  · rw [Parameters.masked_of_password h]
    exact d.redacted_descriptor p (w := p.password) nofun h

/-- A masked form gives masked parameters. -/
theorem Form.toParameters_masked (f : Form) : f.masked.toParameters = f.toParameters.masked := by
  obtain ⟨host, port, dbname, user, password, ssl, options, extra⟩ := f
  cases password <;> rfl

namespace NamedConnection

/-- The connection with its password masked. -/
def masked (c : NamedConnection) : NamedConnection :=
  { c with parameters := c.parameters.masked }

/-- Masking a parameter that is written masks what is written. -/
theorem writtenParameters_masked (p : Parameters) :
    (writtenParameters p).map (fun e => (e.1, Descriptor.displayed e))
      = writtenParameters p.masked := by
  have hvalue : ∀ k, isWritten k (valueOf p.masked k) = isWritten k (valueOf p k) ∧
      (isWritten k (valueOf p k) = true →
        Descriptor.displayed (k.key, valueOf p k) = valueOf p.masked k) := by
    intro k
    -- only the password is masked, if there is one
    obtain ⟨host, port, dbname, user, password, ssl, options, extra⟩ := p
    cases k with
    | password =>
        cases password with
        | null => exact ⟨rfl, nofun⟩
        | bool b => cases b <;> exact ⟨rfl, fun _ => rfl⟩
        | _ => exact ⟨rfl, fun _ => rfl⟩
    | _ => cases password <;> exact ⟨rfl, fun _ => rfl⟩
  have hwritten : (Parameter.all.filter fun k => isWritten k (valueOf p.masked k))
      = Parameter.all.filter fun k => isWritten k (valueOf p k) :=
    List.filter_congr fun k _ => (hvalue k).1
  rw [writtenParameters, writtenParameters, hwritten, List.map_map]
  exact List.map_congr_left fun k hk =>
    Prod.ext rfl ((hvalue k).2 (List.mem_filter.1 hk).2)

/-- Masking a connection leaves its options. -/
theorem options_masked (c : NamedConnection) :
    c.masked.parameters.options = c.parameters.options := by
  show c.parameters.masked.options = _
  unfold Parameters.masked
  split <;> rfl

/-- **A masked entry is the entry of the masked connection.** -/
theorem masked_toEntry (c : NamedConnection) :
    Descriptor.masked c.toEntry = c.masked.toEntry := by
  refine Settings.ext ?_
  show List.map _ c.toEntry.entries = _
  rw [entries_toEntry, entries_toEntry, options_masked, List.map_append, List.map_cons,
    writtenParameters_masked]
  congr 1
  unfold optionsEntry
  split <;> rfl

end NamedConnection

end SqlDialect
