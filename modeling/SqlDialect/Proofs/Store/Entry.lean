/-
  SqlDialect.Proofs.Store.Entry
  ────────────────────────────────
  **CONNECTIONS SURVIVE THEIR ENTRIES.**

  A connection whose parameters are of their proper kinds is read back from
  its entry as it was:

      ofEntry name (toEntry c) = .ok c

  The parameters that are left out of an entry are those that reading
  supplies, and the entry itself does not change when it is stored.
-/
import SqlDialect.Proofs.Settings
import SqlDialect.Proofs.Toml.Document
import SqlDialect.Store.Entry

namespace SqlDialect

open SqlDialect.Toml

/-! ## §1. The form of an entry. -/

namespace Parameter

theorem mem_all (p : Parameter) : p ∈ all := by
  cases p <;> decide

/-- No parameter is spelled as another one's key. -/
theorem contains_spellings (p q : Parameter) :
    p.spellings.contains q.key = true ↔ q = p := by
  cases p <;> cases q <;> decide

/-- The key of a parameter names it. -/
theorem ofKey?_key (p : Parameter) : ofKey? p.key = some p :=
  p.ofKey?_of_mem p.key (by cases p <;> decide)

end Parameter

/-- The last entry that spells a parameter is its only one. -/
theorem find?_spelled (v : Parameter → Value) (p : Parameter) : ∀ ks : List Parameter,
    (ks.map fun k => (k.key, v k)).find? (fun e => p.spellings.contains e.1)
      = if p ∈ ks then some (p.key, v p) else none
  | [] => rfl
  | k :: ks => by
      rw [List.map_cons, List.find?_cons, find?_spelled v p ks]
      by_cases hk : k = p
      · subst hk
        have hown : k.spellings.contains k.key = true := (k.contains_spellings k).2 rfl
        simp only [hown, List.mem_cons, true_or, if_true]
      · have hnot : p.spellings.contains k.key = false := by
          rw [Bool.eq_false_iff, ne_eq, Parameter.contains_spellings]
          exact hk
        simp only [hnot, List.mem_cons, Ne.symm hk, false_or]

/-- What is given for a parameter among the written ones. -/
theorem givenValue_written {p : Parameters} {s : Settings Value}
    (hs : s.entries = NamedConnection.writtenParameters p) (k : Parameter) :
    Form.givenValue s k
      = if NamedConnection.isWritten k (NamedConnection.valueOf p k) = true
        then some (NamedConnection.valueOf p k) else none := by
  have hmem : k ∈ (Parameter.all.filter fun k =>
        NamedConnection.isWritten k (NamedConnection.valueOf p k)).reverse ↔
      NamedConnection.isWritten k (NamedConnection.valueOf p k) = true := by
    rw [List.mem_reverse, List.mem_filter]
    exact and_iff_right k.mem_all
  rw [Form.givenValue, hs, NamedConnection.writtenParameters, ← List.map_reverse,
    find?_spelled]
  by_cases h : NamedConnection.isWritten k (NamedConnection.valueOf p k) = true
  · rw [if_pos (hmem.2 h), if_pos h]
    rfl
  · rw [if_neg (fun hk => h (hmem.1 hk)), if_neg h]
    rfl

/-- A parameter that is not written is null, unless it is encryption. -/
theorem getD_givenValue {p : Parameters} {s : Settings Value}
    (hs : s.entries = NamedConnection.writtenParameters p) {k : Parameter} (hk : k ≠ .ssl) :
    (Form.givenValue s k).getD .null = NamedConnection.valueOf p k := by
  rw [givenValue_written hs]
  split
  next => rfl
  next h =>
    unfold NamedConnection.isWritten at h
    split at h
    next hv => exact hv.symm
    next => exact absurd rfl hk
    next => exact absurd rfl h

namespace Form

/-- A text that may be missing is read back as such. -/
theorem readText_optionalText (s : Option String) : readText (optionalText s) = .ok s := by
  cases s with
  | none => rfl
  | some s =>
      show Except.ok (some (Value.text s).shown) = _
      rw [Value.shown_text]

/-- A port that may be missing is read back as such. -/
theorem readPort_given (n : Option Int) : readPort ((n.map .int).getD .null) = .ok n := by
  cases n <;> rfl

/-- The written parameters of a form fill in the form without its options. -/
theorem ofSettings_written {f : Form} {s : Settings Value}
    (hs : s.entries = NamedConnection.writtenParameters f.toParameters) :
    ofSettings s = .ok { f with options := .empty } := by
  have hoptions : optionsOf s = .ok .empty := by
    have hnone : (s.filterKeys fun k => (Parameter.ofKey? k).isNone) = .empty := by
      refine Settings.ext (List.filter_eq_nil_iff.2 ?_)
      intro e he
      rw [hs] at he
      obtain ⟨k, -, rfl⟩ := List.mem_map.1 he
      simp [Parameter.ofKey?_key]
    rw [optionsOf, hnone]
    rfl
  -- a flag that is not set is not written, and is read as not set
  have hssl : (givenValue s .ssl).getD (.bool false) = .bool f.ssl := by
    rw [givenValue_written hs]
    show (if NamedConnection.isWritten .ssl (.bool f.ssl) = true then
      some (Value.bool f.ssl) else none).getD (.bool false) = _
    cases f.ssl <;> rfl
  have hgiven : ∀ k, k ≠ .ssl →
      (givenValue s k).getD .null = NamedConnection.valueOf f.toParameters k :=
    fun k hk => getD_givenValue hs hk
  unfold ofSettings
  simp only [hoptions, hssl, hgiven .host nofun, hgiven .port nofun, hgiven .dbname nofun,
    hgiven .user nofun, hgiven .password nofun, hgiven .additionalOptions nofun,
    NamedConnection.valueOf, toParameters, readText_optionalText, readPort_given]
  rfl

end Form

/-! ## §2. The entries of an entry. -/

namespace NamedConnection

/-- The options of an entry, if there are any. -/
def optionsEntry (options : Settings Value) : List (String × Value) :=
  if options.isEmpty then [] else [(optionsName, Parameters.settingsValue options)]

/-- The options stand under one name, if they are written at all. -/
theorem map_fst_optionsEntry (options : Settings Value) :
    ((optionsEntry options).map (·.1)).Sublist [optionsName] := by
  unfold optionsEntry
  split
  · exact List.nil_sublist _
  · exact List.Sublist.refl _

/-- Parameters are written under their keys, each at most once. -/
theorem map_fst_writtenParameters (p : Parameters) :
    ((writtenParameters p).map (·.1)).Sublist (Parameter.all.map Parameter.key) := by
  rw [writtenParameters, List.map_map]
  exact List.filter_sublist.map _

/-- The entries of a connection's entry stand as they are listed. -/
theorem entries_toEntry (c : NamedConnection) :
    c.toEntry.entries = (driverKey, .text c.driverId) :: writtenParameters c.parameters
      ++ optionsEntry c.parameters.options := by
  refine Settings.entries_ofList ?_
  rw [List.map_append, List.map_cons]
  -- all keys that an entry may have are different
  have hall : (driverKey :: Parameter.all.map Parameter.key ++ [optionsName]).Nodup := by decide
  exact (((map_fst_writtenParameters _).cons_cons driverKey).append
    (map_fst_optionsEntry _)).nodup hall

/-- Neither the driver nor a parameter stands under the name of the options. -/
theorem ne_optionsName_of_mem {c : NamedConnection} {e : String × Value}
    (h : e ∈ (driverKey, .text c.driverId) :: writtenParameters c.parameters) :
    e.1 ≠ optionsName := by
  have hsub := (map_fst_writtenParameters c.parameters).cons_cons driverKey
  have hmem := hsub.subset (List.mem_map_of_mem (f := (·.1)) h)
  revert hmem
  have hall : ∀ k ∈ driverKey :: Parameter.all.map Parameter.key, k ≠ optionsName := by decide
  exact hall e.1

/-- The options are written exactly if there are any. -/
theorem get?_options_toEntry (c : NamedConnection) :
    c.toEntry.get? optionsName = if c.parameters.options.isEmpty then none
      else some (Parameters.settingsValue c.parameters.options) := by
  have hfront : Entries.get? sameKey optionsName
      ((driverKey, .text c.driverId) :: writtenParameters c.parameters) = none := by
    rw [Entries.get?_sameKey_eq_none_iff]
    intro hmem
    obtain ⟨e, he, hname⟩ := List.mem_map.1 hmem
    exact ne_optionsName_of_mem he hname
  rw [Settings.get?, entries_toEntry, Entries.get?_append, hfront, optionsEntry]
  split
  · rfl
  · simp [Entries.get?, sameKey]

/-- The driver is always written. -/
theorem get?_driver_toEntry (c : NamedConnection) :
    c.toEntry.get? driverKey = some (.text c.driverId) := by
  rw [Settings.get?, entries_toEntry]
  rfl

/-- Beside the options the entry has the driver and the parameters. -/
theorem plainEntries_toEntry (c : NamedConnection) :
    plainEntries c.toEntry
      = (driverKey, .text c.driverId) :: writtenParameters c.parameters := by
  have hoptions : (optionsEntry c.parameters.options).filter (·.1 != optionsName) = [] := by
    unfold optionsEntry
    split <;> simp
  rw [plainEntries, entries_toEntry, List.filter_append, hoptions, List.append_nil,
    List.filter_eq_self]
  intro e he
  exact bne_iff_ne.2 (ne_optionsName_of_mem he)

/-- The options of a connection stand in its entry. -/
theorem optionEntries_toEntry (c : NamedConnection) :
    optionEntries c.toEntry = c.parameters.options.entries := by
  rw [optionEntries, get?_options_toEntry]
  by_cases h : c.parameters.options.isEmpty = true
  · rw [if_pos h]
    exact (List.isEmpty_iff.1 h).symm
  · rw [if_neg h]
    show List.map _ (List.map _ c.parameters.options.entries) = _
    rw [List.map_map]
    refine (List.map_congr_left fun e _ => ?_).trans (List.map_id _)
    exact Prod.ext (Value.shown_text e.1) rfl

/-- Beside the driver and the options the entry has the parameters. -/
theorem filter_toEntry (c : NamedConnection) :
    c.toEntry.entries.filter (fun e => e.1 != driverKey && e.1 != optionsName)
      = writtenParameters c.parameters := by
  have hoptions : (optionsEntry c.parameters.options).filter
      (fun e => e.1 != driverKey && e.1 != optionsName) = [] := by
    unfold optionsEntry
    split <;> simp
  have hwritten : (writtenParameters c.parameters).filter
      (fun e => e.1 != driverKey && e.1 != optionsName) = writtenParameters c.parameters := by
    rw [List.filter_eq_self]
    intro e he
    obtain ⟨k, -, rfl⟩ := List.mem_map.1 he
    show (k.key != driverKey && k.key != optionsName) = true
    cases k <;> decide
  rw [entries_toEntry, List.filter_append, hoptions, List.append_nil,
    List.filter_cons_of_neg (by simp), hwritten]

/-- Options whose values are texts are read back as they are. -/
theorem optionTexts_mapValues (options : Settings String) :
    optionTexts ((options.mapValues Value.text).entries.map fun e => (.text e.1, e.2))
      = .ok (options.mapValues Value.text).entries := by
  have hw : ((options.mapValues Value.text).entries.map fun e =>
      (Value.text e.1, e.2)).all (·.2.isWritable) = true := by
    rw [Settings.mapValues, List.map_map, List.all_map, List.all_eq_true]
    intro e _
    rfl
  rw [optionTexts, if_pos hw, Settings.mapValues, List.map_map, List.map_map]
  congr 1
  refine List.map_congr_left fun e _ => ?_
  exact Prod.ext (Value.shown_text e.1) (congrArg Value.text (Value.shown_text e.2))

/-! ## §3. Connections of proper kinds. -/

/-- The parameters are of their proper kinds, and the port can be written. -/
structure IsProper (c : NamedConnection) : Prop where
  typed : ∃ f : Form, c.parameters = f.toParameters
  port : c.parameters.port.isWritable = true

/-- A text is stored as it is. -/
theorem storedValue_optionalText (s : Option String) (h : Form.optionalText s ≠ .null) :
    storedValue (Form.optionalText s) = Form.optionalText s := by
  cases s with
  | none => exact absurd rfl h
  | some s =>
      show Value.text (Value.text s).shown = _
      rw [Value.shown_text]
      rfl

/-- What is written of proper parameters is stored as it is. -/
theorem storedValue_valueOf {f : Form} {k : Parameter}
    (h : isWritten k (valueOf f.toParameters k) = true) :
    storedValue (valueOf f.toParameters k) = valueOf f.toParameters k := by
  have hnull : valueOf f.toParameters k ≠ .null := by
    intro hv
    rw [hv] at h
    cases k <;> exact absurd h nofun
  cases k
  case port =>
    replace hnull : (f.port.map .int).getD .null ≠ Value.null := hnull
    show storedValue ((f.port.map .int).getD .null) = (f.port.map .int).getD .null
    cases hport : f.port with
    | none => exact absurd (by rw [hport]; rfl) hnull
    | some n => rfl
  case ssl => rfl
  all_goals exact storedValue_optionalText _ hnull

/-- Entries that are stored as they are keep their names. -/
theorem storedEntries_eq {es : List (String × Value)}
    (h : ∀ e ∈ es, storedValue e.2 = e.2) :
    storedEntries es = es.map fun e => (.text e.1, e.2) :=
  List.map_congr_left fun e he => by rw [h e he]

/-- **The entry of a proper connection is stored as it is.** -/
theorem IsProper.storedTable_toEntry {c : NamedConnection} (hc : c.IsProper) :
    .map (storedTable c.toEntry) = Parameters.settingsValue c.toEntry := by
  obtain ⟨⟨f, hf⟩, -⟩ := hc
  -- the driver is a text, and each parameter is stored as it is
  have hplain : storedEntries (plainEntries c.toEntry)
      = (plainEntries c.toEntry).map fun e => (.text e.1, e.2) := by
    refine storedEntries_eq ?_
    rw [plainEntries_toEntry, List.forall_mem_cons]
    refine ⟨congrArg Value.text (Value.shown_text _), fun e he => ?_⟩
    rw [hf] at he
    obtain ⟨k, hk, rfl⟩ := List.mem_map.1 he
    exact storedValue_valueOf (List.mem_filter.1 hk).2
  -- the options of a proper connection are texts
  have hoptions : storedEntries c.parameters.options.entries
      = c.parameters.options.entries.map fun e => (.text e.1, e.2) := by
    refine storedEntries_eq fun e he => ?_
    rw [hf] at he
    obtain ⟨e', -, rfl⟩ := List.mem_map.1 he
    exact congrArg Value.text (Value.shown_text _)
  rw [storedTable, hplain, plainEntries_toEntry, optionEntries_toEntry, hoptions,
    Parameters.settingsValue, entries_toEntry, optionsEntry, List.map_append]
  congr 2
  show (if c.parameters.options.isEmpty = true then _ else _) = _
  split <;> rfl

/-- The entry of a proper connection can be written. -/
theorem IsProper.isWritable_toEntry {c : NamedConnection} (hc : c.IsProper) :
    Toml.isWritable c.toEntry = true := by
  obtain ⟨⟨f, hf⟩, hport⟩ := hc
  -- the port is the only number, and texts can always be written
  have htext : ∀ s, (Form.optionalText s).isWritable = true := by
    rintro (_ | s) <;> rfl
  have hplain : (plainEntries c.toEntry).all (·.2.isWritable) = true := by
    rw [plainEntries_toEntry, List.all_eq_true, List.forall_mem_cons]
    refine ⟨rfl, fun e he => ?_⟩
    rw [hf] at he hport
    obtain ⟨k, -, rfl⟩ := List.mem_map.1 he
    cases k
    case port => exact hport
    case ssl => rfl
    all_goals exact htext _
  rw [Toml.isWritable, Bool.and_eq_true]
  refine ⟨hplain, ?_⟩
  rw [get?_options_toEntry]
  by_cases h : c.parameters.options.isEmpty = true
  · rw [if_pos h]
  · rw [if_neg h, hf]
    show List.all _ _ = true
    rw [List.all_eq_true]
    intro e he
    obtain ⟨e', he', rfl⟩ := List.mem_map.1 he
    obtain ⟨e'', -, rfl⟩ := List.mem_map.1 he'
    rfl

/-- No option is written twice. -/
theorem nodup_optionEntries_toEntry (c : NamedConnection) :
    ((optionEntries c.toEntry).map (·.1)).Nodup := by
  rw [optionEntries_toEntry]
  exact c.parameters.options.nodup

/-- **A proper connection is read back from its entry.** -/
theorem IsProper.ofEntry_toEntry {c : NamedConnection} (hc : c.IsProper) :
    ofEntry c.name c.toEntry = .ok c := by
  obtain ⟨⟨f, hf⟩, -⟩ := hc
  -- missing options are read as none
  have hoptions : entryOptions c.name c.toEntry
      = .ok (c.parameters.options.entries.map fun e => (.text e.1, e.2)) := by
    rw [entryOptions, get?_options_toEntry]
    by_cases h : c.parameters.options.isEmpty = true
    · rw [if_pos h, List.isEmpty_iff.1 h]
      rfl
    · rw [if_neg h]
      rfl
  have hform : entryForm c.toEntry = .ok { f with options := .empty } := by
    refine Form.ofSettings_written ?_
    rw [← hf]
    exact filter_toEntry c
  have htexts : optionTexts (c.parameters.options.entries.map fun e => (.text e.1, e.2))
      = .ok c.parameters.options.entries := by
    rw [hf]
    exact optionTexts_mapValues f.options
  have hoverlay : (Settings.empty.mapValues .text).overlay c.parameters.options.entries
      = c.parameters.options := Settings.ofList_entries _
  unfold ofEntry
  rw [get?_driver_toEntry]
  simp only [hoptions, hform, Except.mapError, bind, Except.bind, htexts]
  show Except.ok (NamedConnection.mk c.name c.driverId { f.toParameters with
    options := (Settings.empty.mapValues .text).overlay c.parameters.options.entries }) = _
  rw [hoverlay, ← hf]

end NamedConnection

end SqlDialect
