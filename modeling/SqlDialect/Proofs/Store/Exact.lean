/-
  SqlDialect.Proofs.Store.Exact
  ────────────────────────────────
  **TABLES THAT ARE KEPT AS THEY ARE.**

  Texts, truth values and whole numbers are stored as they are, and so are
  options that hold nothing else.  Of a table of such entries only the place of
  the options changes: they are read back last.

      read (write data.entries) = .ok (the tables of data, options last)

  Names and keys are any texts at all.
-/
import SqlDialect.Proofs.Store.Rewritten

namespace SqlDialect

open SqlDialect.Toml

namespace Toml

/-! ## §1. What is stored as it is. -/

/-- A text, a truth value or a whole number that can be written. -/
def IsScalar : Value → Prop
  | .text _ | .bool _ => True
  | .int n => Number.isWritable n = true
  | _ => False

/-- A scalar can be written. -/
theorem IsScalar.isWritable {v : Value} (h : IsScalar v) : v.isWritable = true := by
  cases v with
  | int n => exact h
  | text | bool => rfl
  | _ => exact absurd h id

/-- A scalar is stored as it is. -/
theorem IsScalar.storedValue_eq {v : Value} (h : IsScalar v) : storedValue v = v := by
  cases v with
  | text s => exact congrArg Value.text (Value.shown_text s)
  | int | bool => rfl
  | _ => exact absurd h id

/-- A table of scalars, but for the options: they are a mapping of scalars that
is not empty. -/
structure IsExact (entry : Settings Value) : Prop where
  scalar : ∀ e ∈ entry.entries, e.1 ≠ optionsName → IsScalar e.2
  options : ∀ v, entry.get? optionsName = some v → ∃ options : Settings Value,
    v = Parameters.settingsValue options ∧ options.isEmpty = false ∧
      ∀ e ∈ options.entries, IsScalar e.2

variable {entry : Settings Value}

/-- The options of an entry are those under their name. -/
theorem optionEntries_of_get? {options : Settings Value}
    (h : entry.get? optionsName = some (Parameters.settingsValue options)) :
    optionEntries entry = options.entries := by
  rw [optionEntries, h]
  exact map_shown_namedTable options

/-- Scalar options are stored as they are. -/
theorem storedEntries_of_isScalar {options : Settings Value}
    (h : ∀ e ∈ options.entries, IsScalar e.2) :
    storedEntries options.entries = namedTable options := by
  refine List.map_congr_left fun e he => ?_
  exact Prod.ext rfl (h e he).storedValue_eq

namespace IsExact

/-- An exact table has options that are scalars, or none at all. -/
theorem exists_options (h : IsExact entry) : ∃ options : Settings Value,
    optionEntries entry = options.entries ∧ (∀ e ∈ options.entries, IsScalar e.2) ∧
      entry.get? optionsName = if options.isEmpty then none
        else some (Parameters.settingsValue options) := by
  cases hget : entry.get? optionsName with
  | none =>
      refine ⟨.empty, ?_, fun e he => absurd he List.not_mem_nil, rfl⟩
      rw [optionEntries, hget]
      rfl
  | some v =>
      obtain ⟨options, rfl, hne, hscalar⟩ := h.options v hget
      refine ⟨options, optionEntries_of_get? hget, hscalar, ?_⟩
      rw [if_neg (Bool.eq_false_iff.1 hne)]

/-- No option of an exact entry stands twice. -/
theorem nodup_optionEntries (h : IsExact entry) : ((optionEntries entry).map (·.1)).Nodup := by
  obtain ⟨options, hentries, -, -⟩ := h.exists_options
  rw [hentries]
  exact options.nodup

/-- An exact entry can be written. -/
theorem isWritable (h : IsExact entry) : Toml.isWritable entry = true := by
  refine isWritable_of_entries ?_ ?_
  · intro e he
    obtain ⟨hmem, hname⟩ := List.mem_filter.1 he
    exact (h.scalar e hmem (bne_iff_ne.1 hname)).isWritable
  · obtain ⟨options, hentries, hscalar, -⟩ := h.exists_options
    rw [hentries]
    exact fun e he => (hscalar e he).isWritable

/-- Every key has the value that it had. -/
theorem get?_rewritten (h : IsExact entry) (k : String) :
    (NamedConnection.rewritten entry).get? k = entry.get? k := by
  by_cases hk : k = optionsName
  · obtain ⟨options, hentries, hscalar, hget⟩ := h.exists_options
    rw [hk, NamedConnection.get?_options_rewritten, hget, hentries,
      storedEntries_of_isScalar hscalar]
    rfl
  · rw [NamedConnection.get?_rewritten hk]
    cases hget : entry.get? k with
    | none => rfl
    | some v =>
        have hscalar := h.scalar (k, v) (Settings.get?_eq_some_iff.1 hget) hk
        rw [Option.map_some, hscalar.storedValue_eq]

/-- What is no option has its place. -/
theorem erase_rewritten (h : IsExact entry) :
    (NamedConnection.rewritten entry).erase optionsName = entry.erase optionsName := by
  rw [NamedConnection.erase_options_rewritten]
  refine Settings.mapValues_eq_self fun e he => ?_
  obtain ⟨hmem, hname⟩ := List.mem_filter.1 he
  exact (h.scalar e hmem (bne_iff_ne.1 hname)).storedValue_eq

end IsExact

/-! ## §2. The document. -/

/-- **Exact tables are read back as they were.**  The names, the options and all
that is no option keep their order. -/
theorem read_write_exact {data : Settings (Settings Value)}
    (h : ∀ e ∈ data.entries, IsExact e.2) :
    ∃ found : Settings (Settings Value),
      read (write data.entries) = .ok (found.mapValues Parameters.settingsValue) ∧
      found.keys = data.keys ∧
      ∀ name entry, data.get? name = some entry → ∃ entry', found.get? name = some entry' ∧
        entry'.entries.Perm entry.entries ∧
        entry'.erase optionsName = entry.erase optionsName := by
  -- what is found is each entry with its options moved to the end
  refine ⟨data.mapValues NamedConnection.rewritten, ?_, ?_, ?_⟩
  · have hread := read_write data.nodup (fun e he => (h e he).isWritable)
      fun e he => (h e he).nodup_optionEntries
    have htables : storedTables data.entries
        = ((data.mapValues NamedConnection.rewritten).mapValues
            Parameters.settingsValue).entries := by
      rw [Settings.mapValues_mapValues]
      refine List.map_congr_left fun e _ => Prod.ext rfl ?_
      exact congrArg Value.map (NamedConnection.namedTable_rewritten e.2).symm
    rw [hread, htables, Settings.ofList_entries]
  · exact List.map_map
  · intro name entry hget
    have hexact := h (name, entry) (Settings.get?_eq_some_iff.1 hget)
    refine ⟨NamedConnection.rewritten entry, ?_, ?_, hexact.erase_rewritten⟩
    · rw [Settings.get?_mapValues, hget, Option.map_some]
    · exact Settings.perm_iff.2 hexact.get?_rewritten

/-- Names that would be read as syntax if they were not quoted. -/
def awkwardTables : Settings (Settings Value) := .ofList [
  ("", .ofList [("a.b\"]=", "\x00\\\"\n\x7f"),
    ("options", Parameters.settingsValue (.ofList [("options", .int (-7)), ("", .bool false)])),
    ("\x1b", .bool true)]),
  ("].options", .empty)]

theorem read_write_awkwardTables : ∃ found : Settings (Settings Value),
    read (write awkwardTables.entries) = .ok (found.mapValues Parameters.settingsValue) ∧
      found.keys = awkwardTables.keys ∧
      ∀ name entry, awkwardTables.get? name = some entry → ∃ entry', found.get? name = some entry' ∧
        entry'.entries.Perm entry.entries ∧
        entry'.erase optionsName = entry.erase optionsName := by
  refine read_write_exact fun e he => ?_
  rw [awkwardTables, Settings.entries_ofList (by decide), List.mem_cons, List.mem_singleton] at he
  rcases he with rfl | rfl
  · constructor
    · rw [Settings.entries_ofList (by decide)]
      simp [IsScalar, optionsName]
    · intro v hv
      refine ⟨.ofList [("options", .int (-7)), ("", .bool false)], (Option.some.inj hv).symm,
        rfl, ?_⟩
      rw [Settings.entries_ofList (by decide)]
      simp only [IsScalar, List.forall_mem_cons]
      exact ⟨by decide +kernel, trivial, fun e he => absurd he List.not_mem_nil⟩
  · exact ⟨fun e he => absurd he List.not_mem_nil, nofun⟩

end Toml

end SqlDialect
