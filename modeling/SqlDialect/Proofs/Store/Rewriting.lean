/-
  SqlDialect.Proofs.Store.Rewriting
  ────────────────────────────────
  **WHAT REWRITING THE FILE DOES TO THE OTHER NAMES.**

  Saving or forgetting a connection writes the whole file anew, so every
  other entry is written too, though nobody asked for it.  What is looked up
  under another name stays the same if its entry is tidy: the driver is kept
  as it is, the options are a table and the port is no floating-point number.

      an entry with a floating-point port      is no connection any more
      an entry that is not tidy otherwise      is looked up as if mended
-/
import SqlDialect.Proofs.Store.Rewritten

namespace SqlDialect

open SqlDialect.Toml

namespace Store

open NamedConnection

variable {ids : List String} {name m : String}

/-! ## §1. The file. -/

/-- The entries of a value, if it is a table. -/
def entryIn (v : Value) : Settings Value :=
  match v with
  | .map t => Table.toSettings t
  | _ => .empty

/-- A table whose entries can be written. -/
def IsWritableTable (v : Value) : Prop :=
  (∃ t, v = .map t) ∧ Toml.isWritable (entryIn v) = true

/-- A value that is rewritten is a table that can be written. -/
theorem writableTable_eq_ok {v : Value} {entry : Settings Value}
    (h : writableTable name v = .ok entry) : entry = entryIn v ∧ IsWritableTable v := by
  unfold writableTable at h
  obtain ⟨table, htable, h⟩ := exists_of_bind_eq_ok h
  unfold tableOf at htable
  split at htable
  next t =>
    obtain rfl := Except.ok.inj htable
    split at h
    next hw => exact ⟨(Except.ok.inj h).symm, ⟨t, rfl⟩, hw⟩
    next => exact absurd h nofun
  next => exact absurd htable nofun

/-- The tables that are written are those of the data, and each can be written. -/
theorem writableTables_eq_ok {data : Settings Value} {tables : List (String × Settings Value)}
    (h : writableTables data = .ok tables) :
    tables = (data.mapValues entryIn).entries ∧ ∀ e ∈ data.entries, IsWritableTable e.2 := by
  have hstep : ∀ (e : String × Value) (b : String × Settings Value),
      (e.1, ·) <$> writableTable e.1 e.2 = .ok b →
        b = (e.1, entryIn e.2) ∧ IsWritableTable e.2 := by
    intro e b hb
    cases hw : writableTable e.1 e.2 with
    | error _ => rw [hw] at hb; exact absurd hb nofun
    | ok entry =>
        rw [hw] at hb
        obtain ⟨rfl, htable⟩ := writableTable_eq_ok hw
        exact ⟨(Except.ok.inj hb).symm, htable⟩
  obtain ⟨htables, hall⟩ := eq_map_of_mapM_eq_ok (fun e b hb => (hstep e b hb).1) h
  exact ⟨htables, fun e he => (hstep e _ (hall e he)).2⟩

/-- A table as it is stored. -/
def storedMap (v : Value) : Value :=
  .map (storedTable (entryIn v))

/-- **The file that is written holds the tables of the data as they are stored.** -/
theorem list_withTables {data : Settings Value} {tables : List (String × Settings Value)}
    (h : writableTables data = .ok tables)
    (hopt : ∀ e ∈ data.entries, ((optionEntries (entryIn e.2)).map (·.1)).Nodup) :
    (withTables tables).list = .ok (data.mapValues storedMap) := by
  obtain ⟨rfl, hw⟩ := writableTables_eq_ok h
  have hread := read_write (data.mapValues entryIn).nodup
    (fun e he => by
      obtain ⟨e', he', rfl⟩ := List.mem_map.1 he
      exact (hw e' he').2)
    (fun e he => by
      obtain ⟨e', he', rfl⟩ := List.mem_map.1 he
      exact hopt e' he')
  -- storing the entries is storing each value
  have hdata : Settings.ofList (storedTables (data.mapValues entryIn).entries)
      = data.mapValues storedMap :=
    calc Settings.ofList (storedTables (data.mapValues entryIn).entries)
        = .ofList ((data.mapValues entryIn).mapValues fun e => .map (storedTable e)).entries := rfl
      _ = (data.mapValues entryIn).mapValues fun e => .map (storedTable e) :=
        Settings.ofList_entries _
      _ = data.mapValues storedMap := Settings.mapValues_mapValues ..
  show (Toml.read (Toml.write _)).mapError _ = _
  rw [hread, hdata]
  rfl

/-- The options of a table of a document have distinct names. -/
theorem nodup_optionEntries_of_isHeld {v : Value} (h : IsHeld v) :
    ((optionEntries (entryIn v)).map (·.1)).Nodup := by
  cases h with
  | map s hs =>
      show ((optionEntries (Table.toSettings (namedTable s))).map (·.1)).Nodup
      rw [toSettings_namedTable, optionEntries]
      split
      next options hoptions =>
        cases hs (optionsName, .map options) (Settings.get?_eq_some_iff.1 hoptions) with
        | map o _ =>
            rw [map_shown_namedTable]
            exact o.nodup
      next => exact List.nodup_nil
  | _ => exact List.nodup_nil

/-- The entry of a connection has options with distinct names. -/
theorem nodup_optionEntries_settingsValue (c : NamedConnection) :
    ((optionEntries (entryIn (Parameters.settingsValue c.toEntry))).map (·.1)).Nodup := by
  show ((optionEntries (Table.toSettings (namedTable c.toEntry))).map (·.1)).Nodup
  rw [toSettings_namedTable]
  exact nodup_optionEntries_toEntry c

variable {s s' : Store}

/-- What the store holds is what a document holds. -/
theorem isHeld_of_list {doc : Settings Value} (h : s.list = .ok doc) :
    ∀ e ∈ doc.entries, IsHeld e.2 := by
  unfold list at h
  split at h
  · obtain rfl := Except.ok.inj h
    exact fun _ he => absurd he List.not_mem_nil
  next f _ =>
    cases hread : Toml.read f.text with
    | error e => rw [hread] at h; exact absurd h nofun
    | ok doc' =>
        rw [hread] at h
        obtain rfl := Except.ok.inj h
        exact isHeld_of_read hread

/-- Saving stores the entry of the connection beside the entries that were there. -/
theorem list_save {c : NamedConnection} (h : s.save c = .ok s') :
    ∃ doc, s.list = .ok doc ∧
      s'.list = .ok ((doc.insert c.name (Parameters.settingsValue c.toEntry)).mapValues storedMap) ∧
      ∀ e ∈ (doc.insert c.name (Parameters.settingsValue c.toEntry)).entries,
        IsWritableTable e.2 := by
  unfold save at h
  obtain ⟨doc, hdoc, h⟩ := exists_of_bind_eq_ok h
  obtain ⟨tables, htables, h⟩ := exists_of_bind_eq_ok h
  refine ⟨doc, hdoc, ?_, (writableTables_eq_ok htables).2⟩
  rw [← Except.ok.inj h]
  refine list_withTables htables fun e he => ?_
  -- an entry was there before, or it is the new one
  have hget := Settings.get?_eq_some_iff.2 he
  rw [Settings.get?_insert] at hget
  split at hget
  · rw [← Option.some.inj hget]
    exact nodup_optionEntries_settingsValue c
  · exact nodup_optionEntries_of_isHeld
      (isHeld_of_list hdoc (e.1, e.2) (Settings.get?_eq_some_iff.1 hget))

/-- The file has been written anew, or deleted with its last entry, for the
sake of one name. -/
inductive Rewrites (s : Store) (name : String) (s' : Store) : Prop
  | save {c : NamedConnection} (hname : c.name = name) (h : s.save c = .ok s')
  | remove (h : s.remove name = .ok (true, s'))

/-- **Rewriting stores the entries that were there, but for the one name.** -/
theorem Rewrites.list_eq (h : Rewrites s name s') :
    ∃ (doc data : Settings Value), s.list = .ok doc ∧ s'.list = .ok (data.mapValues storedMap) ∧
      (∀ m, m ≠ name → data.get? m = doc.get? m) ∧ ∀ e ∈ data.entries, IsWritableTable e.2 := by
  cases h with
  | save hname h =>
      obtain ⟨doc, hdoc, hdoc', hw⟩ := list_save h
      refine ⟨doc, _, hdoc, hdoc', fun m hm => ?_, hw⟩
      rw [Settings.get?_insert, if_neg (hname ▸ Ne.symm hm)]
  | remove h =>
      unfold Store.remove at h
      obtain ⟨doc, hdoc, h⟩ := exists_of_bind_eq_ok h
      have hget : ∀ m, m ≠ name → (doc.erase name).get? m = doc.get? m := fun m hm =>
        Settings.get?_erase_of_ne doc hm
      split at h
      · exact absurd h nofun
      · dsimp only at h
        split at h
        next hempty =>
          -- the last entry has gone, and the file with it
          obtain ⟨-, rfl⟩ := Prod.mk.inj (Except.ok.inj h)
          have herase : doc.erase name = .empty := Settings.ext (List.isEmpty_iff.1 hempty)
          refine ⟨doc, .empty, hdoc, rfl, fun m hm => ?_, fun _ he => absurd he List.not_mem_nil⟩
          rw [← hget m hm, herase]
        next =>
          obtain ⟨tables, htables, h⟩ := exists_of_bind_eq_ok h
          obtain ⟨-, rfl⟩ := Prod.mk.inj (Except.ok.inj h)
          have hheld := isHeld_of_list hdoc
          exact ⟨doc, _, hdoc, list_withTables htables fun e he =>
            nodup_optionEntries_of_isHeld (hheld e (List.mem_of_mem_filter he)), hget,
            (writableTables_eq_ok htables).2⟩

/-- Every other entry is stored, and none is added. -/
theorem Rewrites.get?_list (h : Rewrites s name s') :
    ∃ doc doc', s.list = .ok doc ∧ s'.list = .ok doc' ∧ ∀ m, m ≠ name →
      doc'.get? m = (doc.get? m).map storedMap ∧ ∀ v, doc.get? m = some v → IsWritableTable v := by
  obtain ⟨doc, data, hdoc, hdoc', hget, hw⟩ := h.list_eq
  refine ⟨doc, _, hdoc, hdoc', fun m hm => ⟨?_, fun v hv => ?_⟩⟩
  · rw [Settings.get?_mapValues, hget m hm]
  · exact hw (m, v) (Settings.get?_eq_some_iff.1 ((hget m hm).trans hv))

/-! ## §2. The other names. -/

/-- What becomes of the lookup of an entry when the file is written anew. -/
inductive Outlasts (ids : List String) (m : String) (entry : Settings Value)
    (before after : Except StoreError (Option NamedConnection)) : Prop
  | kept (h : IsTidy ids entry) (hport : ¬ HasFloatPort entry) (heq : after = before)
  | lost (hport : HasFloatPort entry) (heq : after = .ok none)
  | mended (h : ¬ IsTidy ids entry) (hport : ¬ HasFloatPort entry) (hbefore : before = .ok none)
      (heq : after = entryLookup ids m (mended entry))

/-- An entry outlasts being rewritten. -/
theorem outlasts_rewritten {entry : Settings Value} (h : IsRewritable entry) :
    Outlasts ids m entry (entryLookup ids m entry) (entryLookup ids m (rewritten entry)) := by
  by_cases hport : HasFloatPort entry
  · exact .lost hport (entryLookup_rewritten_of_float hport)
  · by_cases htidy : IsTidy ids entry
    · refine .kept htidy hport ?_
      rw [entryLookup_rewritten h hport, entryLookup_mended h.held hport htidy]
    · exact .mended htidy hport (entryLookup_of_not_isTidy htidy) (entryLookup_rewritten h hport)

/-- A table of a document is rewritable if it can be written. -/
theorem isRewritable_of_isHeld {t : Table} (h : IsHeld (.map t))
    (hw : Toml.isWritable (Table.toSettings t) = true) : IsRewritable (Table.toSettings t) := by
  cases h with
  | map s hs => exact ⟨by rw [toSettings_namedTable]; exact hs, hw⟩

/-- **Rewriting the file for one name** leaves what is looked up under another
as it was if its entry is tidy and its port is no floating-point number.  An
entry with such a port is no connection any more; any other entry was none
before and is looked up as if mended.  Forgetting a name that is missing
leaves the file alone. -/
theorem rewriting_keeps_tidy_entries (s : Store) (name : String) :
    (∀ s', s.remove name = .ok (false, s') → s' = s) ∧
    ∀ s', Rewrites s name s' → ∃ doc, s.list = .ok doc ∧ ∀ m, m ≠ name → ∀ ids,
      (doc.get? m = none ∧ s.get? ids m = .ok none ∧ s'.get? ids m = .ok none) ∨
      ∃ t, doc.get? m = some (.map t) ∧
        Outlasts ids m (Table.toSettings t) (s.get? ids m) (s'.get? ids m) := by
  refine ⟨fun s' h => ?_, fun s' h => ?_⟩
  · -- nothing has been found, so nothing is written
    unfold remove at h
    obtain ⟨doc, hdoc, h⟩ := exists_of_bind_eq_ok h
    split at h
    · exact (Prod.mk.inj (Except.ok.inj h)).2.symm
    · dsimp only at h
      split at h
      · exact absurd h nofun
      · obtain ⟨_, -, h⟩ := exists_of_bind_eq_ok h
        exact absurd h nofun
  · obtain ⟨doc, doc', hdoc, hdoc', hothers⟩ := h.get?_list
    refine ⟨doc, hdoc, fun m hm ids => ?_⟩
    obtain ⟨hget, hw⟩ := hothers m hm
    cases hv : doc.get? m with
    | none =>
        rw [hv] at hget
        exact .inl ⟨rfl, get?_of_missing hdoc hv, get?_of_missing hdoc' hget⟩
    | some v =>
        obtain ⟨⟨t, rfl⟩, hwritable⟩ := hw v hv
        -- what could not be written would have stopped the call
        rw [hv] at hget
        have hheld := isHeld_of_list hdoc (m, .map t) (Settings.get?_eq_some_iff.1 hv)
        rw [get?_of_map hdoc hv, get?_of_map hdoc' hget]
        exact .inr ⟨t, rfl, outlasts_rewritten (isRewritable_of_isHeld hheld hwritable)⟩

/-- A file with a port that is no whole number. -/
def halfPort : Store :=
  ⟨some ⟨"[a]\ndriver = \"sql\"\nport = 1.5\n", .everyone⟩⟩

/-- The file after a connection has been saved beside it. -/
def halfPortSaved : Store :=
  ⟨some ⟨"[\"a\"]\n\"driver\" = \"sql\"\n\"port\" = \"1.5\"\n\n[\"n\"]\n\"driver\" = \"sql\"\n", .owner⟩⟩

/-- A port that is no whole number is lost with its connection. -/
theorem half_port_is_lost :
    Rewrites halfPort "n" halfPortSaved ∧ "a" ≠ "n" ∧
    (halfPort.get? ["sql"] "a").toOption.map (·.isSome) = some true ∧
    (halfPortSaved.get? ["sql"] "a").toOption.map (·.isSome) = some false ∧
    ∃ doc, halfPort.list = .ok doc ∧
      ((doc.get? "a" = none ∧ halfPort.get? ["sql"] "a" = .ok none ∧
        halfPortSaved.get? ["sql"] "a" = .ok none) ∨
      ∃ t, doc.get? "a" = some (.map t) ∧
        Outlasts ["sql"] "a" (Table.toSettings t) (halfPort.get? ["sql"] "a")
          (halfPortSaved.get? ["sql"] "a")) := by
  have hsave : halfPort.save ⟨"n", "sql", {}⟩ = .ok halfPortSaved :=
    eq_ok_of_toOption_eq_some (by decide +kernel)
  have hrewrites : Rewrites halfPort "n" halfPortSaved := .save rfl hsave
  have hne : "a" ≠ "n" := by decide
  obtain ⟨doc, hdoc, hothers⟩ := (rewriting_keeps_tidy_entries halfPort "n").2 _ hrewrites
  exact ⟨hrewrites, hne, by decide +kernel, by decide +kernel, doc, hdoc,
    hothers "a" hne ["sql"]⟩

end Store

end SqlDialect
