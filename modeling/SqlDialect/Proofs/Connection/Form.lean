/-
  SqlDialect.Proofs.Connection.Form
  ────────────────────────────────
  **WHAT A FORM IS FILLED IN WITH.**

  A form is refused for a value of the wrong kind or with too many digits.
  Only an infinite port is refused in a way of its own:

      ofSettings s = .error .infinitePort

  exactly if the options can be written and the port is infinite.  A form that
  is filled in has what the settings give for each parameter.
-/
import SqlDialect.Connection.Form
import SqlDialect.Proofs.Settings
import SqlDialect.Proofs.Steps

namespace SqlDialect

open SqlDialect.Number

namespace Form

/-! ## §1. What is given. -/

/-- What stands under the spellings of a parameter is given for it, if only one
thing does. -/
theorem givenValue_of_unique {s : Settings Value} {p : Parameter} {given : Option Value}
    (h : ∀ v, (∃ k ∈ p.spellings, (k, v) ∈ s.entries) ↔ given = some v) :
    givenValue s p = given := by
  unfold givenValue
  cases hfind : s.entries.reverse.find? fun e => p.spellings.contains e.1 with
  | none =>
      rw [List.find?_eq_none] at hfind
      refine (Option.eq_none_iff_forall_ne_some.2 fun v hv => ?_).symm
      obtain ⟨k, hk, hmem⟩ := (h v).2 hv
      exact hfind (k, v) (List.mem_reverse.2 hmem) (List.contains_iff_mem.2 hk)
  | some e =>
      have hmem : e ∈ s.entries := List.mem_reverse.1 (List.mem_of_find?_eq_some hfind)
      have hspells := List.find?_some hfind
      exact ((h e.2).1 ⟨e.1, List.contains_iff_mem.1 hspells, hmem⟩).symm

/-- A parameter with one spelling is given under it. -/
theorem givenValue_of_spellings {p : Parameter} {k : String} (hp : p.spellings = [k])
    (s : Settings Value) : givenValue s p = s.get? k := by
  refine givenValue_of_unique fun v => ?_
  rw [Settings.get?_eq_some_iff, hp]
  simp only [List.mem_singleton, exists_eq_left]

/-- The port has one spelling. -/
theorem givenValue_port (s : Settings Value) : givenValue s .port = s.get? "port" :=
  givenValue_of_spellings rfl s

/-- The form has what the settings give for each parameter. -/
structure FilledIn (s : Settings Value) (f : Form) : Prop where
  options : optionsOf s = .ok f.options
  port : readPort ((givenValue s .port).getD .null) = .ok f.port
  host : readText ((givenValue s .host).getD .null) = .ok f.host
  dbname : readText ((givenValue s .dbname).getD .null) = .ok f.dbname
  user : readText ((givenValue s .user).getD .null) = .ok f.user
  password : readText ((givenValue s .password).getD .null) = .ok f.password
  ssl : readBool ((givenValue s .ssl).getD (.bool false)) = .ok f.ssl
  additionalOptions :
    readText ((givenValue s .additionalOptions).getD .null) = .ok f.additionalOptions

/-- **Settings fill in a form field by field.** -/
theorem ofSettings_eq_ok_iff {s : Settings Value} {f : Form} :
    ofSettings s = .ok f ↔ FilledIn s f := by
  unfold ofSettings
  dsimp only
  constructor
  · intro h
    obtain ⟨options, hoptions, h⟩ := exists_of_bind_eq_ok h
    obtain ⟨port, hport, h⟩ := exists_of_bind_eq_ok h
    obtain ⟨host, hhost, h⟩ := exists_of_bind_eq_ok h
    obtain ⟨dbname, hdbname, h⟩ := exists_of_bind_eq_ok h
    obtain ⟨user, huser, h⟩ := exists_of_bind_eq_ok h
    obtain ⟨password, hpassword, h⟩ := exists_of_bind_eq_ok h
    obtain ⟨ssl, hssl, h⟩ := exists_of_bind_eq_ok h
    obtain ⟨extra, hextra, h⟩ := exists_of_bind_eq_ok h
    obtain rfl := Except.ok.inj h
    exact ⟨hoptions, hport, hhost, hdbname, huser, hpassword, hssl, hextra⟩
  · intro h
    rw [h.options, h.port, h.host, h.dbname, h.user, h.password, h.ssl, h.additionalOptions]
    rfl

/-! ## §2. Faults. -/

/-- A refused port refuses the form, once its options are written. -/
theorem ofSettings_of_readPort_eq_error {s : Settings Value} {options : Settings String}
    {e : FormError} (hoptions : optionsOf s = .ok options)
    (hport : readPort ((givenValue s .port).getD .null) = .error e) :
    ofSettings s = .error e := by
  unfold ofSettings
  rw [hoptions]
  show (readPort _ >>= _) = _
  rw [hport]
  rfl

/-- Only a number with too many digits cannot be written. -/
theorem eq_of_written_eq_error {v : Value} {e : FormError} (h : written v = .error e) :
    v.isWritable = false ∧ e = .tooManyDigits := by
  unfold written at h
  split at h
  next => exact absurd h nofun
  next hv => exact ⟨Bool.eq_false_iff.2 hv, (Except.error.inj h).symm⟩

/-- A value is refused as a text only for the digits that it cannot show. -/
theorem eq_of_readText_eq_error {v : Value} {e : FormError} (h : readText v = .error e) :
    v.isWritable = false ∧ e = .tooManyDigits := by
  unfold readText at h
  split at h
  next => exact absurd h nofun
  next =>
    cases hv : written v with
    | error e' =>
        rw [hv] at h
        obtain rfl := Except.error.inj h
        exact eq_of_written_eq_error hv
    | ok w =>
        rw [hv] at h
        exact absurd h nofun

/-- A value is no truth value, or has too many digits to be a word. -/
theorem eq_of_readBool_eq_error {v : Value} {e : FormError} (h : readBool v = .error e) :
    e = .tooManyDigits ∨ e = .boolean v := by
  unfold readBool at h
  split at h
  next => exact absurd h nofun
  next =>
    obtain hv | ⟨w, hw, hword⟩ := error_of_bind_eq_error h
    · exact .inl (eq_of_written_eq_error hv).2
    · -- what can be written is the value itself
      have hwv : w = v := by
        unfold written at hw
        split at hw
        next => exact (Except.ok.inj hw).symm
        next => exact absurd hw nofun
      subst hwv
      dsimp only at hword
      split at hword
      · exact absurd hword nofun
      · split at hword
        · exact absurd hword nofun
        · exact .inr (Except.error.inj hword).symm

/-- Options are refused for their digits only. -/
theorem optionsOf_eq_ok_iff {s : Settings Value} :
    (∃ options, optionsOf s = .ok options) ↔
      ∀ e ∈ s.entries, Parameter.ofKey? e.1 = none → e.2.isWritable = true := by
  have hall : (s.filterKeys fun k => (Parameter.ofKey? k).isNone).entries.all (·.2.isWritable)
      = true ↔ ∀ e ∈ s.entries, Parameter.ofKey? e.1 = none → e.2.isWritable = true := by
    rw [List.all_eq_true]
    exact ⟨fun h e he hk => h e (List.mem_filter.2 ⟨he, Option.isNone_iff_eq_none.2 hk⟩),
      fun h e he => h e (List.mem_of_mem_filter he)
        (Option.isNone_iff_eq_none.1 (List.mem_filter.1 he).2)⟩
  rw [← hall]
  unfold optionsOf
  constructor
  · rintro ⟨options, h⟩
    dsimp only at h
    split at h
    next hw => exact hw
    next => exact absurd h nofun
  · intro hw
    exact ⟨_, if_pos hw⟩

/-- Options are refused only for the digits that they cannot show. -/
theorem eq_of_optionsOf_eq_error {s : Settings Value} {e : FormError}
    (h : optionsOf s = .error e) : e = .tooManyDigits := by
  unfold optionsOf at h
  dsimp only at h
  split at h
  next => exact absurd h nofun
  next => exact (Except.error.inj h).symm

/-- **Only an infinite port is refused as infinite.** -/
theorem readPort_eq_infinitePort_iff {v : Value} :
    readPort v = .error .infinitePort ↔ v.infiniteSign?.isSome = true := by
  have hother : ∀ w : Value, (do throw (.port (← written w)) : Except FormError (Option Int))
      ≠ .error .infinitePort := by
    intro w h
    obtain hw | ⟨_, -, h⟩ := error_of_bind_eq_error h
    · exact absurd (eq_of_written_eq_error hw).2 nofun
    · exact absurd (Except.error.inj h) nofun
  cases v with
  | null | bool | int | fraction => exact iff_of_false nofun nofun
  | text s =>
      refine iff_of_false ?_ nofun
      rw [readPort]
      split
      · exact nofun
      · split <;> exact nofun
  | float x =>
      cases x with
      | infinity => exact iff_of_true rfl rfl
      | nan | finite => exact iff_of_false nofun nofun
  | decimal x =>
      cases x with
      | infinity => exact iff_of_true rfl rfl
      | nan | finite =>
          refine iff_of_false ?_ nofun
          rw [readPort]
          · split <;> exact nofun
          · exact nofun
  -- what is no number and no text is refused with what it shows
  | date | time | moment | list | map | member => exact iff_of_false (hother _) nofun

/-- **The infinite port comes to light once the options are written.** -/
theorem ofSettings_eq_infinitePort_iff {s : Settings Value} :
    ofSettings s = .error .infinitePort ↔
      (∃ options, optionsOf s = .ok options) ∧
        ∃ v, s.get? "port" = some v ∧ v.infiniteSign?.isSome = true := by
  have hport : readPort ((givenValue s .port).getD .null) = .error .infinitePort ↔
      ∃ v, s.get? "port" = some v ∧ v.infiniteSign?.isSome = true := by
    rw [readPort_eq_infinitePort_iff, givenValue_port]
    cases s.get? "port" with
    | none => exact iff_of_false nofun fun ⟨_, h, _⟩ => absurd h nofun
    | some v => simp
  have htext : ∀ v, readText v ≠ .error .infinitePort := fun v h =>
    absurd (eq_of_readText_eq_error h).2 nofun
  have hbool : ∀ v, readBool v ≠ .error .infinitePort := fun v h =>
    (eq_of_readBool_eq_error h).elim nofun nofun
  rw [← hport]
  constructor
  · intro h
    unfold ofSettings at h
    obtain hoptions | ⟨options, hoptions, h⟩ := error_of_bind_eq_error h
    · exact absurd (eq_of_optionsOf_eq_error hoptions) nofun
    refine ⟨⟨options, hoptions⟩, ?_⟩
    obtain hp | ⟨port, -, h⟩ := error_of_bind_eq_error h
    · exact hp
    -- no text and no truth value is refused so
    obtain hv | ⟨_, -, h⟩ := error_of_bind_eq_error h
    · exact absurd hv (htext _)
    obtain hv | ⟨_, -, h⟩ := error_of_bind_eq_error h
    · exact absurd hv (htext _)
    obtain hv | ⟨_, -, h⟩ := error_of_bind_eq_error h
    · exact absurd hv (htext _)
    obtain hv | ⟨_, -, h⟩ := error_of_bind_eq_error h
    · exact absurd hv (htext _)
    obtain hv | ⟨_, -, h⟩ := error_of_bind_eq_error h
    · exact absurd hv (hbool _)
    obtain hv | ⟨_, -, h⟩ := error_of_bind_eq_error h
    · exact absurd hv (htext _)
    exact absurd h nofun
  · rintro ⟨⟨options, hoptions⟩, hp⟩
    exact ofSettings_of_readPort_eq_error hoptions hp

end Form

end SqlDialect
