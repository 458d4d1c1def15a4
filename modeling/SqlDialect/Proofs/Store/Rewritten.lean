/-
  SqlDialect.Proofs.Store.Rewritten
  ────────────────────────────────
  **ENTRIES THAT ARE WRITTEN AND READ BACK.**

  An entry that is written and read back has its values as they are stored
  and its options last, if they are a table.  It describes the connection
  that it would describe with these two things mended, unless its port is a
  floating-point number: then it describes none.

      (ofEntry name (rewritten entry)).toOption = (ofEntry name (mended entry)).toOption
-/
import SqlDialect.Proofs.Connection.Stored
import SqlDialect.Proofs.Store.Entry
import SqlDialect.Proofs.Store.Lookup
import SqlDialect.Proofs.Toml.RoundTrip

namespace SqlDialect

open SqlDialect.Toml SqlDialect.Number

namespace NamedConnection

/-! ## §1. Rewritten entries. -/

/-- The entry as it is read back from where it is written. -/
def rewritten (entry : Settings Value) : Settings Value :=
  Table.toSettings (storedTable entry)

/-- The rewritten options, if there are any. -/
def rewrittenOptions (entry : Settings Value) : List (String × Value) :=
  if (optionEntries entry).isEmpty then []
  else [(optionsName, .map (storedEntries (optionEntries entry)))]

/-- What is stored is named, the plain entries first. -/
theorem storedTable_eq (entry : Settings Value) :
    storedTable entry = (((entry.erase optionsName).mapValues storedValue).entries
      ++ rewrittenOptions entry).map fun e => (.text e.1, e.2) := by
  rw [List.map_append, storedTable, rewrittenOptions]
  show _ = List.map _ (List.map _ _) ++ _
  rw [List.map_map]
  congr 1
  split <;> rfl

/-- The options move behind the other entries. -/
theorem entries_rewritten (entry : Settings Value) :
    (rewritten entry).entries
      = ((entry.erase optionsName).mapValues storedValue).entries ++ rewrittenOptions entry := by
  rw [rewritten, storedTable_eq, toSettings_named]
  refine Settings.entries_ofList ?_
  -- the options stand behind entries of other names
  rw [List.map_append, List.nodup_append]
  refine ⟨Settings.nodup _, ?_, ?_⟩
  · unfold rewrittenOptions
    split <;> simp
  · intro k hk k' hk' heq
    obtain ⟨e, he, rfl⟩ := List.mem_map.1 hk
    obtain ⟨e', he', rfl⟩ := List.mem_map.1 he
    have hne := (List.mem_filter.1 he').2
    unfold rewrittenOptions at hk'
    split at hk'
    · exact absurd hk' List.not_mem_nil
    · obtain rfl := List.mem_singleton.1 hk'
      exact absurd heq (bne_iff_ne.1 hne)

/-- The stored table has the rewritten entries and no others. -/
theorem namedTable_rewritten (entry : Settings Value) :
    namedTable (rewritten entry) = storedTable entry := by
  rw [namedTable, entries_rewritten, storedTable_eq]

/-- Everything but the options is stored value by value. -/
theorem get?_rewritten {entry : Settings Value} {k : String} (hk : k ≠ optionsName) :
    (rewritten entry).get? k = (entry.get? k).map storedValue := by
  have hoptions : Entries.get? sameKey k (rewrittenOptions entry) = none := by
    rw [Entries.get?_sameKey_eq_none_iff]
    unfold rewrittenOptions
    split
    · exact List.not_mem_nil
    · exact fun hmem => hk (List.mem_singleton.1 hmem)
  rw [Settings.get?, entries_rewritten, Entries.get?_append, hoptions, Option.or_none]
  show Settings.get? _ k = _
  rw [Settings.get?_mapValues, Settings.get?_erase_of_ne entry hk]

/-- Options that are no table are left out, and so is an empty table. -/
theorem get?_options_rewritten (entry : Settings Value) :
    (rewritten entry).get? optionsName
      = if (optionEntries entry).isEmpty then none
        else some (.map (storedEntries (optionEntries entry))) := by
  have hplain : Entries.get? sameKey optionsName
      ((entry.erase optionsName).mapValues storedValue).entries = none := by
    show Settings.get? _ _ = none
    rw [Settings.get?_mapValues, Settings.get?_erase_self]
    rfl
  rw [Settings.get?, entries_rewritten, Entries.get?_append, hplain, rewrittenOptions]
  split
  · rfl
  · rw [Entries.get?, sameKey, if_pos (beq_self_eq_true optionsName)]
    rfl

/-- The options are read as they were stored. -/
theorem entryOptions_rewritten (name : String) (entry : Settings Value) :
    entryOptions name (rewritten entry) = .ok (storedEntries (optionEntries entry)) := by
  rw [entryOptions, get?_options_rewritten]
  by_cases hempty : (optionEntries entry).isEmpty = true
  · rw [if_pos hempty, List.isEmpty_iff.1 hempty]
    rfl
  · rw [if_neg hempty]

/-- No other entry is called options. -/
theorem erase_options_rewritten (entry : Settings Value) :
    (rewritten entry).erase optionsName = (entry.erase optionsName).mapValues storedValue := by
  have hoptions : (rewrittenOptions entry).filter (·.1 != optionsName) = [] := by
    unfold rewrittenOptions
    split <;> simp
  have hplain : ∀ e ∈ ((entry.erase optionsName).mapValues storedValue).entries,
      (e.1 != optionsName) = true := by
    intro e he
    obtain ⟨e', he', rfl⟩ := List.mem_map.1 he
    exact (List.mem_filter.1 he').2
  refine Settings.ext ?_
  show (rewritten entry).entries.filter (·.1 != optionsName) = _
  rw [entries_rewritten, List.filter_append, hoptions, List.append_nil,
    List.filter_eq_self.2 hplain]

/-- The parameters of a rewritten entry are stored value by value. -/
theorem entryForm_rewritten (entry : Settings Value) :
    entryForm (rewritten entry) = Form.ofSettings ((formEntries entry).mapValues storedValue) := by
  have hoptions : (rewrittenOptions entry).filter
      (fun e => e.1 != driverKey && e.1 != optionsName) = [] := by
    unfold rewrittenOptions
    split <;> simp
  rw [entryForm]
  congr 1
  refine Settings.ext ?_
  show List.filter _ (rewritten entry).entries = List.map _ (List.filter _ _)
  rw [entries_rewritten, List.filter_append, hoptions, List.append_nil]
  show List.filter _ (List.map _ (List.filter _ _)) = _
  rw [List.filter_map, List.filter_filter]
  congr 1
  refine List.filter_congr fun e _ => ?_
  simp

/-- The entry of a proper connection does not change. -/
theorem IsProper.rewritten_toEntry {c : NamedConnection} (hc : c.IsProper) :
    rewritten c.toEntry = c.toEntry := by
  have hstored := hc.storedTable_toEntry
  rw [rewritten, Value.map.inj hstored]
  exact toSettings_namedTable c.toEntry

/-! ## §2. Mended entries. -/

/-- The entry with its driver as it is stored. -/
def withStoredDriver (entry : Settings Value) : Settings Value :=
  match entry.get? driverKey with
  | some v => entry.insert driverKey (storedValue v)
  | none => entry

/-- The entry without options that are no table. -/
def withoutStrayOptions (entry : Settings Value) : Settings Value :=
  match entry.get? optionsName with
  | none | some (.map _) => entry
  | some _ => entry.erase optionsName

/-- The entry with its driver as it is stored and without options that are no table. -/
def mended (entry : Settings Value) : Settings Value :=
  withoutStrayOptions (withStoredDriver entry)

/-- The options of an entry, if they are a table. -/
def tableOptions (entry : Settings Value) : List (Value × Value) :=
  match entry.get? optionsName with
  | some (.map options) => options
  | _ => []

/-- The options stand under the names that their keys show. -/
theorem optionEntries_eq (entry : Settings Value) :
    optionEntries entry = (tableOptions entry).map fun e => (e.1.shown, e.2) := by
  unfold optionEntries tableOptions
  cases entry.get? optionsName with
  | none => rfl
  | some v => cases v <;> rfl

/-- Storing the driver changes no other entry. -/
theorem get?_withStoredDriver_of_ne {entry : Settings Value} {k : String} (hk : k ≠ driverKey) :
    (withStoredDriver entry).get? k = entry.get? k := by
  unfold withStoredDriver
  split
  · rw [Settings.get?_insert, if_neg (Ne.symm hk)]
  · rfl

/-- The driver is there as it is stored. -/
theorem get?_driver_withStoredDriver (entry : Settings Value) :
    (withStoredDriver entry).get? driverKey = (entry.get? driverKey).map storedValue := by
  unfold withStoredDriver
  split
  next v hv => rw [Settings.get?_insert, if_pos rfl, hv]; rfl
  next hv => rw [hv]; rfl

/-- A mended entry has its driver as it is stored. -/
theorem get?_driver_mended (entry : Settings Value) :
    (mended entry).get? driverKey = (entry.get? driverKey).map storedValue := by
  rw [← get?_driver_withStoredDriver, mended, withoutStrayOptions]
  split
  · rfl
  · rfl
  · exact Settings.get?_erase_of_ne _ (by decide)

/-- A mended entry never fails for its options. -/
theorem entryOptions_mended (name : String) (entry : Settings Value) :
    entryOptions name (mended entry) = .ok (tableOptions entry) := by
  have hget : (withStoredDriver entry).get? optionsName = entry.get? optionsName :=
    get?_withStoredDriver_of_ne (by decide)
  rw [entryOptions, tableOptions, mended, withoutStrayOptions, hget]
  cases hv : entry.get? optionsName with
  | none =>
      dsimp only
      rw [hget, hv]
  | some v =>
      cases v with
      | map options =>
          dsimp only
          rw [hget, hv]
      | _ =>
          dsimp only
          rw [Settings.get?_erase_self]

/-- Mending concerns no parameter. -/
theorem formEntries_mended (entry : Settings Value) :
    formEntries (mended entry) = formEntries entry := by
  have hdriver : formEntries (withStoredDriver entry) = formEntries entry := by
    unfold withStoredDriver
    split
    · exact Settings.filterKeys_insert_of_false entry _ (by decide)
    · rfl
  rw [← hdriver, mended, withoutStrayOptions]
  split
  · rfl
  · rfl
  · refine Settings.ext ?_
    show List.filter _ (List.filter _ _) = List.filter _ _
    rw [List.filter_filter]
    refine List.filter_congr fun e _ => ?_
    simp

/-! ## §3. Connections of rewritten entries. -/

/-- The port of the entry is a floating-point number. -/
def HasFloatPort (entry : Settings Value) : Prop :=
  ∃ x, entry.get? "port" = some (.float x)

/-- The driver and the options that the entry has are stored as they are,
unless the driver is unknown before and after. -/
structure IsTidy (ids : List String) (entry : Settings Value) : Prop where
  driver : ∀ v, entry.get? driverKey = some v → storedValue v = v ∨ v.shown ∉ ids
  options : ∀ v, entry.get? optionsName = some v → ∃ options, v = .map options

/-- The entry stands in a document and can be written. -/
structure IsRewritable (entry : Settings Value) : Prop where
  held : ∀ e ∈ entry.entries, IsHeld e.2
  writable : Toml.isWritable entry = true

/-- The connection of an entry by its driver, its options and its parameters. -/
theorem toOption_ofEntry {name id : String} {entry : Settings Value}
    {options : List (Value × Value)} (hdriver : entry.get? driverKey = some (.text id))
    (hoptions : entryOptions name entry = .ok options)
    (hw : ∀ e ∈ options, e.2.isWritable = true) :
    (ofEntry name entry).toOption = (entryForm entry).toOption.map fun form =>
      ⟨name, id, { form.toParameters with
        options := form.toParameters.options.overlay
          (options.map fun e => (e.1.shown, .text e.2.shown)) }⟩ := by
  have htexts : optionTexts options
      = .ok (options.map fun e => (e.1.shown, .text e.2.shown)) :=
    if_pos (List.all_eq_true.2 hw)
  unfold ofEntry
  rw [hdriver]
  dsimp only
  rw [hoptions]
  show ((entryForm entry).mapError EntryError.form >>= fun form =>
    (optionTexts options).mapError EntryError.form >>= _).toOption = _
  -- the options can be shown, so only the form can fail
  rw [htexts]
  cases entryForm entry <;> rfl

/-- Without a text as its driver an entry is refused. -/
theorem ofEntry_of_not_text {name : String} {entry : Settings Value}
    (h : ∀ id, entry.get? driverKey ≠ some (.text id)) :
    ofEntry name entry = .error (.noDriver name) := by
  unfold ofEntry
  split
  next id hid => exact absurd hid (h id)
  next => rfl

/-- The settings of an entry that can be rewritten are kept by it. -/
theorem IsRewritable.isKept {entry : Settings Value} (h : IsRewritable entry) :
    Form.IsKept (formEntries entry) where
  held e he := h.held e (List.mem_of_mem_filter he)
  writable e he := by
    obtain ⟨hmem, hkey⟩ := List.mem_filter.1 he
    rw [Bool.and_eq_true] at hkey
    exact isWritable_of_mem_plainEntries h.writable e (List.mem_filter.2 ⟨hmem, hkey.2⟩)

/-- Each option of an entry that can be rewritten can be written. -/
theorem IsRewritable.isWritable_of_mem_options {entry : Settings Value} (h : IsRewritable entry) :
    ∀ e ∈ tableOptions entry, e.2.isWritable = true := by
  intro e he
  refine isWritable_of_mem_optionEntries h.writable (e.1.shown, e.2) ?_
  rw [optionEntries_eq]
  exact List.mem_map_of_mem he

/-- **A rewritten entry describes the connection of the mended one, unless its
port is a floating-point number.** -/
theorem IsRewritable.toOption_ofEntry_rewritten {entry : Settings Value} (h : IsRewritable entry)
    (hport : ¬ HasFloatPort entry) (name : String) :
    (ofEntry name (rewritten entry)).toOption = (ofEntry name (mended entry)).toOption := by
  have hdriver : (rewritten entry).get? driverKey = (mended entry).get? driverKey := by
    rw [get?_rewritten (by decide), get?_driver_mended]
  by_cases htext : ∃ id, (mended entry).get? driverKey = some (.text id)
  · obtain ⟨id, hid⟩ := htext
    have hform : (entryForm (rewritten entry)).toOption = (entryForm (mended entry)).toOption := by
      rw [entryForm_rewritten]
      show _ = (Form.ofSettings (formEntries (mended entry))).toOption
      rw [formEntries_mended]
      refine Form.toOption_ofSettings_mapValues h.isKept fun x hx => hport ⟨x, ?_⟩
      rw [← get?_port_formEntries]
      exact hx
    have hstored : ∀ e ∈ storedEntries (optionEntries entry), e.2.isWritable = true := by
      intro e he
      obtain ⟨e', he', rfl⟩ := List.mem_map.1 he
      exact isWritable_storedValue (isWritable_of_mem_optionEntries h.writable e' he')
    -- options are texts in the end, so it does not matter how they were stored
    have htexts : (storedEntries (optionEntries entry)).map
          (fun e => (e.1.shown, Value.text e.2.shown))
        = (tableOptions entry).map fun e => (e.1.shown, .text e.2.shown) := by
      rw [storedEntries, optionEntries_eq, List.map_map, List.map_map]
      refine List.map_congr_left fun e _ => ?_
      show (Value.shown (.text e.1.shown), Value.text (storedValue e.2).shown) = _
      rw [Value.shown_text, shown_storedValue]
    rw [toOption_ofEntry (hdriver.trans hid) (entryOptions_rewritten name entry) hstored,
      toOption_ofEntry hid (entryOptions_mended name entry) h.isWritable_of_mem_options,
      hform, htexts]
  · have hmended : ∀ id, (mended entry).get? driverKey ≠ some (.text id) :=
      fun id hid => htext ⟨id, hid⟩
    rw [ofEntry_of_not_text hmended, ofEntry_of_not_text (hdriver ▸ hmended)]

/-- A connection has the driver of its entry, and the parameters of the entry
fill in a form. -/
theorem ofEntry_eq_ok {name : String} {entry : Settings Value} {c : NamedConnection}
    (h : ofEntry name entry = .ok c) :
    entry.get? driverKey = some (.text c.driverId) ∧ ∃ form, entryForm entry = .ok form := by
  unfold ofEntry at h
  split at h
  next id hid =>
    obtain ⟨_, -, h⟩ := exists_of_bind_eq_ok h
    obtain ⟨_, hform, h⟩ := exists_of_bind_eq_ok h
    obtain ⟨_, -, h⟩ := exists_of_bind_eq_ok h
    refine ⟨by rw [← Except.ok.inj h]; exact hid, ?_⟩
    cases hf : entryForm entry with
    | error e =>
        rw [hf] at hform
        exact absurd hform nofun
    | ok form => exact ⟨form, rfl⟩
  next => exact absurd h nofun

/-- A rewritten floating-point port is the port of no connection. -/
theorem toOption_ofEntry_rewritten_of_float {entry : Settings Value}
    (hport : HasFloatPort entry) (name : String) :
    (ofEntry name (rewritten entry)).toOption = none := by
  obtain ⟨x, hx⟩ := hport
  have hform : (entryForm (rewritten entry)).toOption = none := by
    rw [entryForm_rewritten]
    refine Form.toOption_ofSettings_of_float (x := x) ?_
    rw [get?_port_formEntries]
    exact hx
  cases hof : ofEntry name (rewritten entry) with
  | error e => rfl
  | ok c =>
      obtain ⟨-, form, hf⟩ := ofEntry_eq_ok hof
      rw [hf] at hform
      exact absurd hform nofun

/-- No rewritten port is infinite, for a float is a text by then. -/
theorem rewritten_not_hasInfinitePort (entry : Settings Value) :
    ¬ HasInfinitePort (rewritten entry) := by
  rintro ⟨-, -, -, v, hv, hinf⟩
  rw [get?_rewritten (by decide)] at hv
  obtain ⟨w, -, rfl⟩ := Option.map_eq_some_iff.1 hv
  rw [infiniteSign?_storedValue] at hinf
  exact absurd hinf nofun

/-- The infinite port of a document is a floating-point number. -/
theorem mended_not_hasInfinitePort {entry : Settings Value}
    (hheld : ∀ e ∈ entry.entries, IsHeld e.2) (hport : ¬ HasFloatPort entry) :
    ¬ HasInfinitePort (mended entry) := by
  rintro ⟨-, -, -, v, hv, hinf⟩
  rw [← get?_port_formEntries, formEntries_mended, get?_port_formEntries] at hv
  cases hheld ("port", v) (Settings.get?_eq_some_iff.1 hv) with
  | float x => exact hport ⟨x, hv⟩
  | _ => exact absurd hinf nofun

/-- A tidy entry whose driver is kept needs no mending. -/
theorem mended_eq_self {entry : Settings Value}
    (hdriver : ∀ v, entry.get? driverKey = some v → storedValue v = v)
    (hoptions : ∀ v, entry.get? optionsName = some v → ∃ options, v = .map options) :
    mended entry = entry := by
  have hstored : withStoredDriver entry = entry := by
    unfold withStoredDriver
    split
    next v hv =>
      rw [hdriver v hv]
      exact Settings.insert_of_get?_eq_some hv
    next => rfl
  rw [mended, hstored, withoutStrayOptions]
  split
  · rfl
  · rfl
  -- options that are no table there are none
  next v hnot hv =>
    obtain ⟨options, rfl⟩ := hoptions v hv
    exact absurd rfl (hnot options)

end NamedConnection

namespace Store

open NamedConnection

variable {ids : List String} {name : String}

/-! ## §4. Lookups of rewritten entries. -/

/-- **A rewritten entry is looked up as the mended one**, unless its port is a
floating-point number. -/
theorem entryLookup_rewritten {entry : Settings Value} (h : IsRewritable entry)
    (hport : ¬ HasFloatPort entry) :
    entryLookup ids name (rewritten entry) = entryLookup ids name (mended entry) := by
  rw [entryLookup_eq (rewritten_not_hasInfinitePort entry),
    entryLookup_eq (mended_not_hasInfinitePort h.held hport), h.toOption_ofEntry_rewritten hport]

/-- A port that is a float loses the entry when it is rewritten. -/
theorem entryLookup_rewritten_of_float {entry : Settings Value} (hport : HasFloatPort entry) :
    entryLookup ids name (rewritten entry) = .ok none := by
  rw [entryLookup_eq (rewritten_not_hasInfinitePort entry),
    toOption_ofEntry_rewritten_of_float hport]
  rfl

/-- A mended entry for an unknown driver is looked up as nothing. -/
theorem entryLookup_mended_of_unknown {entry : Settings Value}
    (hnot : ¬ HasInfinitePort (mended entry)) {v : Value}
    (hv : entry.get? driverKey = some v) (hid : v.shown ∉ ids) :
    entryLookup ids name (mended entry) = .ok none := by
  rw [entryLookup_eq hnot]
  cases hc : ofEntry name (mended entry) with
  | error e => rfl
  | ok c =>
      obtain ⟨hdriver, -⟩ := ofEntry_eq_ok hc
      rw [get?_driver_mended, hv] at hdriver
      have hshown : v.shown = c.driverId := by
        rw [← shown_storedValue, Option.some.inj hdriver, Value.shown_text]
      refine congrArg Except.ok (Option.filter_eq_none_iff.2 ?_)
      rintro _ ⟨⟩ hmem
      exact hid (hshown ▸ List.contains_iff_mem.1 hmem)

/-- **A tidy entry is looked up as if nothing had to be mended.** -/
theorem entryLookup_mended {entry : Settings Value} (hheld : ∀ e ∈ entry.entries, IsHeld e.2)
    (hport : ¬ HasFloatPort entry) (h : IsTidy ids entry) :
    entryLookup ids name (mended entry) = entryLookup ids name entry := by
  by_cases hdriver : ∀ v, entry.get? driverKey = some v → storedValue v = v
  · rw [mended_eq_self hdriver h.options]
  · -- the driver is no text before, and an unknown one afterwards
    obtain ⟨v, hdriver⟩ := not_forall.1 hdriver
    obtain ⟨hv, hstored⟩ := Classical.not_imp.1 hdriver
    have hid := (h.driver v hv).resolve_left hstored
    have htext : ∀ id, entry.get? driverKey ≠ some (.text id) := by
      intro id htext
      obtain rfl : v = .text id := Option.some.inj (hv.symm.trans htext)
      exact hstored (congrArg Value.text (Value.shown_text id))
    rw [entryLookup_mended_of_unknown (mended_not_hasInfinitePort hheld hport) hv hid,
      entryLookup_of_error (ofEntry_of_not_text htext) nofun]

/-- An entry that is not tidy is no connection. -/
theorem entryLookup_of_not_isTidy {entry : Settings Value} (h : ¬ IsTidy ids entry) :
    entryLookup ids name entry = .ok none := by
  by_cases htext : ∃ id, entry.get? driverKey = some (.text id)
  · obtain ⟨id, hid⟩ := htext
    -- the driver is kept, so the options are no table
    have hoptions : ¬ ∃ options, entryOptions name entry = .ok options := by
      intro hoptions
      refine h ⟨fun v hv => .inl ?_, entryOptions_eq_ok_iff.1 hoptions⟩
      obtain rfl : v = .text id := Option.some.inj (hv.symm.trans hid)
      exact congrArg Value.text (Value.shown_text id)
    cases hentry : entryOptions name entry with
    | ok options => exact absurd ⟨options, hentry⟩ hoptions
    | error e =>
        have hof : ofEntry name entry = .error e := by
          unfold ofEntry
          rw [hid]
          dsimp only
          rw [hentry]
          rfl
        refine entryLookup_of_error hof ?_
        rw [eq_of_entryOptions_eq_error hentry]
        nofun
  · exact entryLookup_of_error (ofEntry_of_not_text fun id hid => htext ⟨id, hid⟩) nofun

end Store

end SqlDialect
