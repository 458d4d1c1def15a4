/-
  SqlDialect.Proofs.Toml.Document
  ────────────────────────────────
  **FOLLOWING THE STATEMENTS OF TABLES.**

  The statements that are written for a table open it, give its entries
  their values and do the same for its options.  Following them puts one
  more entry into the document:

      tableStatements name entry  ↦  T ++ [(name, storedTable entry)]

  The invariant is that nothing is closed and that every opened table
  belongs to a name that has been written.
-/
import SqlDialect.Proofs.Settings
import SqlDialect.Proofs.Toml.Line

namespace SqlDialect.Toml

open SqlDialect.Text

/-! ## §1. Tables with names as keys. -/

/-- Named values as they are stored. -/
def storedEntries (es : List (String × Value)) : Table :=
  es.map fun e => (.text e.1, storedValue e.2)

/-- A name without an entry is not found. -/
theorem get?_storedEntries {name : String} {es : List (String × Value)}
    (h : name ∉ es.map (·.1)) : Table.get? (storedEntries es) name = none := by
  induction es with
  | nil => rfl
  | cons e es ih =>
      rw [List.map_cons, List.mem_cons, not_or] at h
      show Entries.get? Value.same (.text name) ((.text e.1, storedValue e.2) :: _) = none
      have hne : Value.same (.text e.1) (.text name) = false :=
        beq_eq_false_iff_ne.2 (Ne.symm h.1)
      rw [Entries.get?, hne]
      exact ih h.2

theorem same_text_self (name : String) : Value.same (.text name) (.text name) = true :=
  beq_self_eq_true name

/-- A name is not found behind an entry of another name. -/
theorem get?_append_of_ne {t : Table} {name name' : String} {v : Value}
    (h : t.get? name = none) (hne : name' ≠ name) :
    Table.get? (t ++ [(.text name', v)]) name = none := by
  have hsame : Value.same (.text name') (.text name) = false := beq_eq_false_iff_ne.2 hne
  have ht : Entries.get? Value.same (.text name) t = none := h
  rw [Table.get?, Entries.get?_append, ht, Entries.get?, hsame]
  rfl

/-- A new entry is found. -/
theorem get?_append_self {t : Table} {name : String} {v : Value} (h : t.get? name = none) :
    Table.get? (t ++ [(.text name, v)]) name = some v := by
  have ht : Entries.get? Value.same (.text name) t = none := h
  rw [Table.get?, Entries.get?_append, ht, Entries.get?, same_text_self]
  rfl

/-- A new name comes last. -/
theorem set_of_get?_eq_none {t : Table} {name : String} (v : Value)
    (h : t.get? name = none) : t.set name v = t ++ [(.text name, v)] :=
  Entries.insert_of_get?_eq_none v h

/-- The last entry may be set again. -/
theorem set_append_self {t : Table} {name : String} (v w : Value) (h : t.get? name = none) :
    Table.set (t ++ [(.text name, w)]) name v = t ++ [(.text name, v)] :=
  Entries.insert_append_self (same_text_self name) v w h

/-! ## §2. One statement. -/

/-- A document in which nothing is closed and nothing pending. -/
def openState (t : Table) (opened : List Key) (header : Key) : State where
  table := t
  marks := opened.map (·, .opened)
  header := header

/-- A table that was only opened is not closed. -/
theorem isClosed_opened (opened : List Key) (key : Key) :
    Marks.isClosed (opened.map (·, .opened)) key = false := by
  rw [Marks.isClosed, List.any_eq_false]
  intro m hm
  obtain ⟨k, -, rfl⟩ := List.mem_map.1 hm
  simp

/-- A table is opened only by its own header. -/
theorem isOpened_opened {opened : List Key} {key : Key} (h : key ∉ opened) :
    Marks.isOpened (opened.map (·, .opened)) key = false := by
  rw [Marks.isOpened, Bool.eq_false_iff, ne_eq, List.contains_iff_mem, List.mem_map]
  rintro ⟨k, hk, heq⟩
  exact h ((Prod.mk.inj heq).1 ▸ hk)

/-- A stored value has no table of its own to close. -/
theorem closeFor_storedValue (ms : Marks) (key : Key) (v : Value) :
    ms.closeFor key (storedValue v) = ms := by
  cases v <;> rfl

/-- A new table is opened. -/
theorem follow?_table {t : Table} {opened : List Key} {header key : Key}
    (h : key ∉ opened) :
    (openState t opened header).follow? (.table key)
      = (t.changeAt? true some key).map fun t => openState t (key :: opened) key := by
  show State.open? (openState t opened header) key = _
  rw [State.open?, openState, isOpened_opened h, isClosed_opened]
  rfl

/-- An entry gets its value in the open table. -/
theorem follow?_assign (t : Table) (opened : List Key) (header : Key) (name : String)
    (v : Value) :
    (openState t opened header).follow? (.assign [name] (storedValue v))
      = (t.changeAt? true (Table.add? name (storedValue v)) header).map fun t =>
          openState t opened header := by
  show State.assign? (openState t opened header) [name] (storedValue v) = _
  have hparent : header ++ [name].dropLast = header := List.append_nil header
  simp only [State.assign?, State.passed, openState, List.length_singleton, List.range_one,
    List.drop_succ_cons, List.drop_nil, List.map_nil, List.any_nil, isClosed_opened,
    Bool.or_self, Bool.false_eq_true, if_false, closeFor_storedValue, hparent]
  rfl

/-! ## §3. The entries of a table. -/

/-- The statements that give names their values. -/
def assignments (es : List (String × Value)) : List Statement :=
  es.map fun e => .assign [e.1] (storedValue e.2)

/-- The table at the header of the document is the hole of `put`. -/
def StandsAt (put : Table → Table) (header : Key) : Prop :=
  ∀ (key : Key) (change : Table → Option Table) (inner : Table),
    (put inner).changeAt? true change (header ++ key)
      = (inner.changeAt? true change key).map put

/-- The table of the document stands at no header. -/
theorem standsAt_id : StandsAt id [] := by
  intro key change inner
  show inner.changeAt? true change key = _
  exact (Option.map_id' (x := inner.changeAt? true change key)).symm

/-- The table of the last name is entered by that name. -/
theorem StandsAt.below {put : Table → Table} {header : Key} (hput : StandsAt put header)
    {t : Table} {name : String} (h : t.get? name = none) :
    StandsAt (fun inner => t ++ [(.text name, .map (put inner))]) (name :: header) := by
  intro key change inner
  have hset : ∀ inner', Table.set (t ++ [(.text name, .map (put inner))]) name (.map inner')
      = t ++ [(.text name, .map inner')] := fun inner' => set_append_self _ _ h
  rw [List.cons_append, Table.changeAt?, get?_append_self h]
  simp only [hput key, hset, Option.map_map]
  rfl

/-- A table that is missing is made. -/
theorem changeAt?_new {t : Table} {name : String} (h : t.get? name = none) :
    t.changeAt? true some [name] = some (t ++ [(.text name, .map [])]) := by
  rw [Table.changeAt?, h]
  show some (t.set name (.map [])) = _
  rw [set_of_get?_eq_none _ h]

/-- The assignments below a header add the stored entries to its table, in their
order. -/
theorem followAll?_assignments {put : Table → Table} {header : Key}
    (hput : StandsAt put header) (opened : List Key) :
    ∀ (es : List (String × Value)) (inner : Table), (es.map (·.1)).Nodup →
      (∀ name ∈ es.map (·.1), inner.get? name = none) →
      (openState (put inner) opened header).followAll? (assignments es)
        = some (openState (put (inner ++ storedEntries es)) opened header)
  | [], inner, _, _ => by
      rw [storedEntries, List.map_nil, List.append_nil]
      rfl
  | e :: es, inner, hnd, hnew => by
      rw [List.map_cons, List.nodup_cons] at hnd
      have he : inner.get? e.1 = none := hnew e.1 (by simp)
      have hadd : Table.add? e.1 (storedValue e.2) inner
          = some (inner ++ [(.text e.1, storedValue e.2)]) := by
        rw [Table.add?, he, set_of_get?_eq_none _ he]
        rfl
      -- the header leads to the hole, where the entry is new
      have hchange : (put inner).changeAt? true (Table.add? e.1 (storedValue e.2)) header
          = some (put (inner ++ [(.text e.1, storedValue e.2)])) := by
        have hhole := hput [] (Table.add? e.1 (storedValue e.2)) inner
        rw [List.append_nil, Table.changeAt?, hadd] at hhole
        exact hhole
      have hrest := followAll?_assignments hput opened es
        (inner ++ [(.text e.1, storedValue e.2)]) hnd.2 fun name hname =>
          get?_append_of_ne (hnew name (by simp [List.mem_map.1 hname]))
            fun heq => hnd.1 (by rw [heq]; exact hname)
      show State.followAll? _ (.assign [e.1] (storedValue e.2) :: assignments es) = _
      rw [State.followAll?_cons, follow?_assign, hchange]
      show State.followAll? _ (assignments es) = _
      rw [hrest, List.append_assoc]
      rfl

/-- A new table is opened and gets its entries. -/
theorem followAll?_open {put : Table → Table} {header : Key} (hput : StandsAt put header)
    {inner : Table} {name : String} (h : inner.get? name = none) {opened : List Key}
    (hop : header ++ [name] ∉ opened) {es : List (String × Value)}
    (hnd : (es.map (·.1)).Nodup) (before : Key) :
    (openState (put inner) opened before).followAll?
        (.table (header ++ [name]) :: assignments es)
      = some (openState (put (inner ++ [(.text name, .map (storedEntries es))]))
          ((header ++ [name]) :: opened) (header ++ [name])) := by
  -- the new table is the hole for what follows
  have hinner : StandsAt (fun t => put (inner ++ [(.text name, .map t)]))
      (header ++ [name]) := by
    intro key change t
    have hlast : Table.changeAt? true change (name :: key) (inner ++ [(.text name, .map t)])
        = (t.changeAt? true change key).map fun t => inner ++ [(.text name, .map t)] :=
      standsAt_id.below h key change t
    rw [List.append_assoc, hput, List.singleton_append, hlast, Option.map_map]
    rfl
  rw [State.followAll?_cons, follow?_table hop, hput, changeAt?_new h]
  exact followAll?_assignments hinner _ es [] hnd fun _ _ => rfl

/-! ## §4. Tables one after another. -/

/-- The entries that stand in the table itself. -/
def plainEntries (entry : Settings Value) : List (String × Value) :=
  entry.entries.filter (·.1 != optionsName)

/-- The options, under the names that their keys show. -/
def optionEntries (entry : Settings Value) : List (String × Value) :=
  match entry.get? optionsName with
  | some (.map options) => options.map fun e => (e.1.shown, e.2)
  | _ => []

/-- An entry as it is stored: its options stand last, if there are any. -/
def storedTable (entry : Settings Value) : Table :=
  storedEntries (plainEntries entry)
    ++ if (optionEntries entry).isEmpty then []
      else [(.text optionsName, .map (storedEntries (optionEntries entry)))]

/-- What a table is written as. -/
def tableStatements (name : String) (entry : Settings Value) : List Statement :=
  .table [name] :: assignments (plainEntries entry)
    ++ if (optionEntries entry).isEmpty then []
      else .table [name, optionsName] :: assignments (optionEntries entry)

/-- Statements are followed one after the other. -/
theorem followAll?_append (s : State) (sts sts' : List Statement) :
    s.followAll? (sts ++ sts') = (s.followAll? sts).bind (·.followAll? sts') :=
  List.foldlM_append

/-- The options are no plain entry. -/
theorem get?_plainEntries (entry : Settings Value) :
    Table.get? (storedEntries (plainEntries entry)) optionsName = none := by
  refine get?_storedEntries fun hmem => ?_
  obtain ⟨e, he, hname⟩ := List.mem_map.1 hmem
  have hne := (List.mem_filter.1 he).2
  rw [hname] at hne
  exact absurd hne (by simp)

/-- No plain entry stands twice. -/
theorem nodup_plainEntries (entry : Settings Value) :
    ((plainEntries entry).map (·.1)).Nodup := by
  exact (entry.filterKeys (· != optionsName)).nodup

/-- The statements of a table add it to the document; whatever they open
belongs to its name. -/
theorem followAll?_tableStatements {t : Table} {name : String} (h : t.get? name = none)
    {opened : List Key} (hop : ∀ key ∈ opened, key.head? ≠ some name) (before : Key)
    {entry : Settings Value} (hnd : ((optionEntries entry).map (·.1)).Nodup) :
    ∃ opened' header, (openState t opened before).followAll? (tableStatements name entry)
        = some (openState (t ++ [(.text name, .map (storedTable entry))]) opened' header) ∧
      ∀ key ∈ opened', key ∈ opened ∨ key.head? = some name := by
  have hown : [] ++ [name] ∉ opened := fun hmem => hop _ hmem rfl
  have hopen := followAll?_open standsAt_id h hown (nodup_plainEntries entry) before
  by_cases hempty : (optionEntries entry).isEmpty = true
  · refine ⟨[name] :: opened, [name], ?_, ?_⟩
    · rw [tableStatements, storedTable, if_pos hempty, if_pos hempty, List.append_nil,
        List.append_nil]
      exact hopen
    · rintro key (_ | ⟨_, hmem⟩)
      · exact .inr rfl
      · exact .inl hmem
  · -- the options are opened inside the table that has just been opened
    have hnew : [name] ++ [optionsName] ∉ [name] :: opened := by
      rintro (_ | ⟨_, hmem⟩)
      exact hop _ hmem rfl
    have hoptions := followAll?_open (standsAt_id.below h) (get?_plainEntries entry) hnew hnd
      [name]
    refine ⟨[name, optionsName] :: [name] :: opened, [name, optionsName], ?_, ?_⟩
    · rw [tableStatements, storedTable, if_neg hempty, if_neg hempty, followAll?_append]
      show Option.bind (State.followAll? (openState (id t) opened before)
        (.table ([] ++ [name]) :: assignments (plainEntries entry))) _ = _
      rw [hopen]
      exact hoptions
    · rintro key (_ | ⟨_, _ | ⟨_, hmem⟩⟩)
      · exact .inr rfl
      · exact .inr rfl
      · exact .inl hmem

/-- The tables as the values of their names. -/
def storedTables (tables : List (String × Settings Value)) : List (String × Value) :=
  tables.map fun e => (e.1, .map (storedTable e.2))

/-- **Tables with different names become the entries of the document.** -/
theorem followAll?_tables :
    ∀ (tables : List (String × Settings Value)) (t : Table) (opened : List Key) (header : Key),
      (tables.map (·.1)).Nodup → (∀ e ∈ tables, ((optionEntries e.2).map (·.1)).Nodup) →
      (∀ name ∈ tables.map (·.1), t.get? name = none ∧
        ∀ key ∈ opened, key.head? ≠ some name) →
      ∃ opened' header', (openState t opened header).followAll?
          (tables.flatMap fun e => tableStatements e.1 e.2)
        = some (openState (t ++ (storedTables tables).map fun e => (.text e.1, e.2))
            opened' header')
  | [], t, opened, header, _, _, _ => ⟨opened, header, by
      rw [storedTables, List.map_nil, List.map_nil, List.append_nil]
      rfl⟩
  | e :: tables, t, opened, header, hnd, hopt, hnew => by
      rw [List.map_cons, List.nodup_cons] at hnd
      obtain ⟨hget, hop⟩ := hnew e.1 (by simp)
      obtain ⟨opened', header', hfirst, hopened⟩ :=
        followAll?_tableStatements hget hop header (hopt e (by simp))
      -- the tables below have other names, so none of them has been opened yet
      have hrest : ∀ name ∈ tables.map (·.1),
          Table.get? (t ++ [(.text e.1, .map (storedTable e.2))]) name = none ∧
            ∀ key ∈ opened', key.head? ≠ some name := by
        intro name hname
        obtain ⟨hget', hop'⟩ := hnew name (List.mem_cons_of_mem _ hname)
        have hne : e.1 ≠ name := fun heq => hnd.1 (by rw [heq]; exact hname)
        refine ⟨get?_append_of_ne hget' hne, fun key hkey hhead => ?_⟩
        obtain hold | hown := hopened key hkey
        · exact hop' key hold hhead
        · exact hne (Option.some.inj (hown.symm.trans hhead))
      obtain ⟨opened'', header'', htables⟩ := followAll?_tables tables _ opened' header' hnd.2
        (fun e' he' => hopt e' (by simp [he'])) hrest
      refine ⟨opened'', header'', ?_⟩
      rw [List.flatMap_cons, followAll?_append, hfirst, Option.bind_some, htables,
        List.append_assoc]
      rfl

end SqlDialect.Toml
