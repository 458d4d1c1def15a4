/-
  SqlDialect.Proofs.Store.Written
  ────────────────────────────────
  **FILES THAT THE PROGRAM HAS WRITTEN.**

  Every entry of such a file is a table as it is stored, and to store it
  again changes nothing:

      storedMap (storedMap v) = storedMap v

  So a connection can always be saved beside the entries that are there, its
  own entry is all that is new, and no lookup fails before or after.
-/
import SqlDialect.Proofs.Store.Rewriting

namespace SqlDialect

open SqlDialect.Toml

/-! ## §1. What has been stored. -/

/-- What was stored once is stored as it is. -/
theorem Toml.storedValue_storedValue (v : Value) :
    storedValue (storedValue v) = storedValue v := by
  cases v with
  | bool | int => rfl
  | _ => exact congrArg Value.text (Value.shown_text _)

/-- Values that have been stored are stored as they are. -/
theorem Toml.storedEntries_stored (es : List (String × Value)) :
    storedEntries (es.map fun e => (e.1, storedValue e.2)) = storedEntries es := by
  rw [storedEntries, storedEntries, List.map_map]
  refine List.map_congr_left fun e _ => ?_
  exact congrArg (Prod.mk (Value.text e.1)) (storedValue_storedValue e.2)

namespace NamedConnection

/-- The plain entries of a rewritten entry are the stored ones. -/
theorem plainEntries_rewritten (entry : Settings Value) :
    plainEntries (rewritten entry)
      = (plainEntries entry).map fun e => (e.1, storedValue e.2) :=
  congrArg Settings.entries (erase_options_rewritten entry)

/-- The options of a rewritten entry are the stored ones. -/
theorem optionEntries_rewritten (entry : Settings Value) :
    optionEntries (rewritten entry)
      = (optionEntries entry).map fun e => (e.1, storedValue e.2) := by
  have htable : tableOptions (rewritten entry) = storedEntries (optionEntries entry) := by
    have hoptions := entryOptions_rewritten "" entry
    -- the options are read as a table, whatever they were before
    unfold entryOptions at hoptions
    unfold tableOptions
    split at hoptions
    next hnone =>
      rw [hnone]
      exact Except.ok.inj hoptions
    next options hsome =>
      rw [hsome]
      exact Except.ok.inj hoptions
    next => exact absurd hoptions nofun
  rw [optionEntries_eq, htable, storedEntries, List.map_map]
  refine List.map_congr_left fun e _ => ?_
  exact congrArg (Prod.mk · (storedValue e.2)) (Value.shown_text e.1)

/-- **To store a table again changes nothing.** -/
theorem storedTable_rewritten (entry : Settings Value) :
    storedTable (rewritten entry) = storedTable entry := by
  rw [storedTable, plainEntries_rewritten, optionEntries_rewritten, storedEntries_stored,
    storedEntries_stored, List.isEmpty_map, ← storedTable]

/-- An entry that can be written can be written again. -/
theorem isWritable_rewritten {entry : Settings Value} (h : Toml.isWritable entry = true) :
    Toml.isWritable (rewritten entry) = true := by
  refine isWritable_of_entries ?_ ?_
  · rw [plainEntries_rewritten, List.forall_mem_map]
    exact fun e he => isWritable_storedValue (isWritable_of_mem_plainEntries h e he)
  · rw [optionEntries_rewritten, List.forall_mem_map]
    exact fun e he => isWritable_storedValue (isWritable_of_mem_optionEntries h e he)

end NamedConnection

namespace Store

open NamedConnection

variable {s : Store} {ids : List String}

/-- A value that stands in a file that has been written. -/
def IsStored (v : Value) : Prop := storedMap v = v ∧ IsWritableTable v

/-- A table that is written is stored. -/
theorem isStored_storedMap {v : Value} (h : IsWritableTable v) : IsStored (storedMap v) := by
  refine ⟨?_, ⟨_, rfl⟩, isWritable_rewritten h.2⟩
  exact congrArg Value.map (storedTable_rewritten (entryIn v))

/-- The entry of a connection of proper kinds stands so in its file. -/
theorem isStored_toEntry {c : NamedConnection} (hc : c.IsProper) :
    IsStored (Parameters.settingsValue c.toEntry) := by
  have hentry : entryIn (Parameters.settingsValue c.toEntry) = c.toEntry :=
    toSettings_namedTable c.toEntry
  refine ⟨?_, ⟨_, rfl⟩, ?_⟩
  · rw [storedMap, hentry]
    exact hc.storedTable_toEntry
  · rw [hentry]
    exact hc.isWritable_toEntry

/-! ## §2. Files that have been written. -/

/-- The program has written the file or deleted it, or there has never been one. -/
def IsWritten (s : Store) : Prop :=
  s = {} ∨ ∃ before name, Rewrites before name s

/-- A file that was written lists stored tables. -/
theorem IsWritten.list_eq (h : s.IsWritten) :
    ∃ doc, s.list = .ok doc ∧ ∀ e ∈ doc.entries, IsStored e.2 := by
  obtain rfl | ⟨before, name, h⟩ := h
  · exact ⟨.empty, rfl, fun _ he => absurd he List.not_mem_nil⟩
  · obtain ⟨_, data, -, hlist, -, hw⟩ := h.list_eq
    refine ⟨_, hlist, fun e he => ?_⟩
    obtain ⟨e', he', rfl⟩ := List.mem_map.1 he
    exact isStored_storedMap (hw e' he')

/-- Stored tables are rewritten as they are. -/
theorem writableTables_eq_of_stored {data : Settings Value}
    (h : ∀ e ∈ data.entries, IsStored e.2) :
    writableTables data = .ok (data.mapValues entryIn).entries := by
  refine mapM_eq_pure (g := fun e : String × Value => (e.1, entryIn e.2)) fun e he => ?_
  obtain ⟨-, ⟨t, ht⟩, hw⟩ := h e he
  have htable : writableTable e.1 e.2 = .ok (entryIn e.2) := by
    rw [ht] at hw ⊢
    exact if_pos hw
  rw [htable]
  rfl

/-- **A connection of proper kinds can be saved in a file that has been
written**, and its entry is all that is new. -/
theorem IsWritten.save (h : s.IsWritten) {c : NamedConnection} (hc : c.IsProper) :
    ∃ doc s', s.list = .ok doc ∧ s.save c = .ok s' ∧
      s'.list = .ok (doc.insert c.name (Parameters.settingsValue c.toEntry)) := by
  obtain ⟨doc, hdoc, hstored⟩ := h.list_eq
  let data := doc.insert c.name (Parameters.settingsValue c.toEntry)
  have hdata : ∀ e ∈ data.entries, IsStored e.2 := by
    intro e he
    have hget := Settings.get?_eq_some_iff.2 he
    rw [Settings.get?_insert] at hget
    split at hget
    · rw [← Option.some.inj hget]
      exact isStored_toEntry hc
    · exact hstored (e.1, e.2) (Settings.get?_eq_some_iff.1 hget)
  have hsave : s.save c = .ok (withTables (data.mapValues entryIn).entries) := by
    rw [Store.save, hdoc]
    show (withTables <$> writableTables data) = _
    rw [writableTables_eq_of_stored hdata]
    rfl
  refine ⟨doc, _, hdoc, hsave, ?_⟩
  obtain ⟨doc', hdoc', hlist, -⟩ := list_save hsave
  obtain rfl := Except.ok.inj (hdoc.symm.trans hdoc')
  -- what is stored already is stored as it is
  have hsame : data.mapValues storedMap = data := by
    refine Settings.ext ((List.map_congr_left fun e he => ?_).trans (List.map_id _))
    exact congrArg (Prod.mk e.1) (hdata e he).1
  rw [hlist]
  exact congrArg Except.ok hsame

/-! ## §3. Lookups. -/

/-- Documents that agree about a name answer alike for it. -/
theorem get?_congr {s' : Store} {doc doc' : Settings Value} {name : String}
    (h : s.list = .ok doc) (h' : s'.list = .ok doc') (hname : doc.get? name = doc'.get? name) :
    s.get? ids name = s'.get? ids name := by
  unfold get?
  rw [h, h', ok_bind, ok_bind, hname]

/-- **A lookup in a file that has been written does not fail.** -/
theorem IsWritten.exists_get? (h : s.IsWritten) (ids : List String) (name : String) :
    ∃ c?, s.get? ids name = .ok c? := by
  obtain ⟨doc, hdoc, hstored⟩ := h.list_eq
  cases hv : doc.get? name with
  | none => exact ⟨none, get?_of_missing hdoc hv⟩
  | some v =>
      obtain ⟨hsame, -⟩ := hstored (name, v) (Settings.get?_eq_some_iff.1 hv)
      have htable : doc.get? name = some (.map (storedTable (entryIn v))) :=
        hv.trans (congrArg some hsame.symm)
      rw [get?_of_map hdoc htable]
      exact ⟨_, entryLookup_eq (rewritten_not_hasInfinitePort (entryIn v))⟩

/-- **A connection that has been saved is found under its name, and under the
other names what was there.** -/
theorem IsWritten.get?_save (h : s.IsWritten) {c : NamedConnection} (hc : c.IsProper) :
    ∃ s', s.save c = .ok s' ∧
      (∀ ids, s'.get? ids c.name = .ok (if ids.contains c.driverId then some c else none)) ∧
      ∀ ids m, m ≠ c.name → s'.get? ids m = s.get? ids m := by
  obtain ⟨doc, s', hdoc, hsave, hlist⟩ := h.save hc
  refine ⟨s', hsave, fun ids => ?_, fun ids m hm => ?_⟩
  · have hget : (doc.insert c.name (Parameters.settingsValue c.toEntry)).get? c.name
        = some (.map (namedTable c.toEntry)) := by
      rw [Settings.get?_insert, if_pos rfl]
      rfl
    rw [get?_of_map hlist hget, toSettings_namedTable, entryLookup_of_ok hc.ofEntry_toEntry]
  · refine get?_congr hlist hdoc ?_
    rw [Settings.get?_insert, if_neg (Ne.symm hm)]

end Store

end SqlDialect
