/-
  SqlDialect.Proofs.Store.History
  ────────────────────────────────
  **THE FILE IS A MAP.**

  Whatever is saved and removed, the file holds the connections that have
  been saved and not removed since, in the order in which their names came:

      after history = .ok (holding cs),  Keeps history cs

  One call preserves the invariant `Keeps`; the run is an induction over
  the calls.
-/
import SqlDialect.Proofs.Steps
import SqlDialect.Proofs.Store.Entry
import SqlDialect.Proofs.Toml.RoundTrip
import SqlDialect.Store.Basic

namespace SqlDialect

open SqlDialect.Toml

/-! ## §1. Calls and what is left of them. -/

/-- What is asked of the store: to keep a connection or to forget a name. -/
inductive Call where
  | save (c : NamedConnection) (proper : c.IsProper)
  | remove (name : String)

/-- The name that a call is about. -/
def Call.name : Call → String
  | .save c _ => c.name
  | .remove name => name

/-- What a call leaves of the store. -/
def Call.run (s : Store) : Call → Except StoreError Store
  | .save c _ => s.save c
  | .remove name => (·.2) <$> s.remove name

/-- The store after some calls, the latest first, from no file on. -/
def Store.after : List Call → Except StoreError Store
  | [] => .ok {}
  | call :: earlier => Store.after earlier >>= call.run

/-- The connection last saved under the name, unless it has been removed since. -/
def kept? (name : String) : List Call → Option NamedConnection
  | [] => none
  | .save c _ :: earlier => if c.name = name then some c else kept? name earlier
  | .remove n :: earlier => if n = name then none else kept? name earlier

/-- How many calls came before the one that saved the name when it was last
absent. -/
def keptSince? (name : String) : List Call → Option Nat
  | [] => none
  | .save c _ :: earlier =>
      if c.name = name then (keptSince? name earlier).or (some earlier.length)
      else keptSince? name earlier
  | .remove n :: earlier => if n = name then none else keptSince? name earlier

/-- A name has a place in the file exactly if a connection is kept under it. -/
theorem isSome_keptSince? (name : String) : ∀ history : List Call,
    (keptSince? name history).isSome = (kept? name history).isSome
  | [] => rfl
  | .save c _ :: earlier => by
      have ih := isSome_keptSince? name earlier
      rw [keptSince?, kept?]
      split
      · cases keptSince? name earlier <;> rfl
      · exact ih
  | .remove n :: earlier => by
      have ih := isSome_keptSince? name earlier
      rw [keptSince?, kept?]
      split
      · rfl
      · exact ih

/-- The call that a place goes back to is one of the calls. -/
theorem keptSince?_lt {name : String} : ∀ {history : List Call} {i : Nat},
    keptSince? name history = some i → i < history.length
  | .save c _ :: earlier, i, h => by
      rw [keptSince?] at h
      rw [List.length_cons]
      split at h
      next =>
        cases hearlier : keptSince? name earlier with
        | none =>
            rw [hearlier] at h
            obtain rfl := Option.some.inj h
            exact Nat.lt_succ_self _
        | some j =>
            rw [hearlier] at h
            obtain rfl := Option.some.inj h
            exact Nat.lt_succ_of_lt (keptSince?_lt hearlier)
      next => exact Nat.lt_succ_of_lt (keptSince?_lt h)
  | .remove n :: earlier, i, h => by
      rw [keptSince?] at h
      rw [List.length_cons]
      split at h
      next => exact absurd h nofun
      next => exact Nat.lt_succ_of_lt (keptSince?_lt h)

/-- A call changes nothing about other names. -/
theorem kept?_of_ne {call : Call} {name : String} (h : call.name ≠ name)
    (earlier : List Call) : kept? name (call :: earlier) = kept? name earlier := by
  cases call <;> exact if_neg h

/-- A call changes no place of other names. -/
theorem keptSince?_of_ne {call : Call} {name : String} (h : call.name ≠ name)
    (earlier : List Call) :
    keptSince? name (call :: earlier) = keptSince? name earlier := by
  cases call <;> exact if_neg h

/-! ## §2. The store of some connections. -/

/-- The connections under their names, as the file lists them. -/
def listing (cs : List NamedConnection) : List (String × Value) :=
  cs.map fun c => (c.name, Parameters.settingsValue c.toEntry)

/-- The store that holds some connections. -/
def Store.holding (cs : List NamedConnection) : Store :=
  if cs.isEmpty then {} else withTables (cs.map fun c => (c.name, c.toEntry))

/-- Connections that can stand in one file. -/
structure AreKept (cs : List NamedConnection) : Prop where
  proper : ∀ c ∈ cs, c.IsProper
  nodup : (cs.map (·.name)).Nodup

variable {cs : List NamedConnection}

/-- The file lists the names of the connections. -/
theorem map_fst_listing (cs : List NamedConnection) :
    (listing cs).map (·.1) = cs.map (·.name) := by
  rw [listing, List.map_map]
  rfl

/-- No name is listed twice. -/
theorem AreKept.nodup_listing (h : AreKept cs) : ((listing cs).map (·.1)).Nodup := by
  rw [map_fst_listing]
  exact h.nodup

/-- Settings that stand in the file as a table are read as one. -/
theorem tableOf_settingsValue (name : String) (s : Settings Value) :
    Store.tableOf name (Parameters.settingsValue s) = .ok s := by
  show Except.ok (Table.toSettings (s.entries.map fun e => (.text e.1, e.2))) = _
  rw [toSettings_named, Settings.ofList_entries]

/-- The store lists what it holds. -/
theorem AreKept.list_holding (h : AreKept cs) :
    (Store.holding cs).list = .ok (.ofList (listing cs)) := by
  unfold Store.holding
  split
  next hempty =>
    obtain rfl := List.isEmpty_iff.1 hempty
    rfl
  next =>
    have hread : Toml.read (write (cs.map fun c => (c.name, c.toEntry)))
        = .ok (.ofList (storedTables (cs.map fun c => (c.name, c.toEntry)))) := by
      -- the names differ, the entries can be written, and so can each option once
      refine read_write ?_ ?_ ?_
      · rw [List.map_map]
        exact h.nodup
      · intro e he
        obtain ⟨c, hc, rfl⟩ := List.mem_map.1 he
        exact (h.proper c hc).isWritable_toEntry
      · intro e he
        obtain ⟨c, -, rfl⟩ := List.mem_map.1 he
        exact c.nodup_optionEntries_toEntry
    -- nothing in the entry of a proper connection changes when it is stored
    have hstored : storedTables (cs.map fun c => (c.name, c.toEntry)) = listing cs := by
      rw [storedTables, List.map_map]
      refine List.map_congr_left fun c hc => ?_
      exact Prod.ext rfl (h.proper c hc).storedTable_toEntry
    show (Toml.read _).mapError StoreError.unreadable = _
    rw [hread, hstored]
    rfl

/-- What the file has under a name is the entry of its connection. -/
theorem get?_ofList_listing (h : AreKept cs) (name : String) :
    (Settings.ofList (listing cs)).get? name
      = (cs.find? (·.name == name)).map fun c => Parameters.settingsValue c.toEntry := by
  rw [Settings.get?, Settings.entries_ofList h.nodup_listing]
  clear h
  induction cs with
  | nil => rfl
  | cons c cs ih =>
      show (if sameKey c.name name then _ else _) = _
      rw [List.find?_cons]
      by_cases hname : c.name = name
      · simp [sameKey, hname]
      · simp only [sameKey, beq_eq_false_iff_ne.2 hname]
        exact ih

/-- The entries of the connections are what is written. -/
theorem writableTables_listing (h : AreKept cs) {data : Settings Value}
    (hdata : data.entries = listing cs) :
    Store.writableTables data = .ok (cs.map fun c => (c.name, c.toEntry)) := by
  rw [Store.writableTables, hdata, listing, List.mapM_map]
  refine mapM_eq_pure fun c hc => ?_
  have htable : Store.writableTable c.name (Parameters.settingsValue c.toEntry)
      = .ok c.toEntry := by
    rw [Store.writableTable, tableOf_settingsValue]
    show (if Toml.isWritable c.toEntry = true then _ else _) = _
    rw [if_pos (h.proper c hc).isWritable_toEntry]
    rfl
  show (c.name, ·) <$> Store.writableTable c.name (Parameters.settingsValue c.toEntry) = _
  rw [htable]
  rfl

/-! ## §3. One call. -/

/-- The connections with one more, in the place of the one of its name. -/
def putConnection (c : NamedConnection) (cs : List NamedConnection) :
    List NamedConnection :=
  if c.name ∈ cs.map (·.name) then cs.map fun x => if x.name = c.name then c else x
  else cs ++ [c]

/-- Setting the entry of a connection puts it into its place. -/
theorem entries_insert_listing (h : AreKept cs) (c : NamedConnection) :
    ((Settings.ofList (listing cs)).insert c.name (Parameters.settingsValue c.toEntry)).entries
      = listing (putConnection c cs) := by
  show Entries.insert sameKey _ _ (Settings.ofList (listing cs)).entries = _
  rw [Settings.entries_ofList h.nodup_listing]
  unfold putConnection
  split
  next hmem =>
    rw [← map_fst_listing] at hmem
    rw [Entries.insert_of_mem _ h.nodup_listing hmem, listing, listing, List.map_map,
      List.map_map]
    refine List.map_congr_left fun x _ => ?_
    show (if x.name = c.name then _ else _) = _
    -- the entry is exchanged where the connection is
    by_cases hx : x.name = c.name
    · simp [hx]
    · simp [hx]
  next hnot =>
    rw [← map_fst_listing, ← Entries.get?_sameKey_eq_none_iff] at hnot
    rw [Entries.insert_of_get?_eq_none _ hnot, listing, listing, List.map_append]
    rfl

/-- A connection that is put somewhere is there. -/
theorem putConnection_ne_nil (c : NamedConnection) (cs : List NamedConnection) :
    putConnection c cs ≠ [] := by
  unfold putConnection
  split
  next hmem =>
    rintro hnil
    rw [List.map_eq_nil_iff] at hnil
    subst hnil
    exact absurd hmem (by simp)
  next => simp

/-- A name keeps its place, and a new one comes last. -/
theorem map_name_putConnection (c : NamedConnection) (cs : List NamedConnection) :
    (putConnection c cs).map (·.name)
      = if c.name ∈ cs.map (·.name) then cs.map (·.name) else cs.map (·.name) ++ [c.name] := by
  unfold putConnection
  split
  · rw [List.map_map]
    refine List.map_congr_left fun x _ => ?_
    show (if x.name = c.name then c else x).name = x.name
    split
    next hx => exact hx.symm
    next => rfl
  · rw [List.map_append]
    rfl

/-- A proper connection joins others that are kept. -/
theorem AreKept.putConnection (h : AreKept cs) {c : NamedConnection} (hc : c.IsProper) :
    AreKept (putConnection c cs) where
  proper := by
    intro x hx
    unfold SqlDialect.putConnection at hx
    split at hx
    · obtain ⟨y, hy, rfl⟩ := List.mem_map.1 hx
      split
      · exact hc
      · exact h.proper y hy
    · rcases List.mem_append.1 hx with hx | hx
      · exact h.proper x hx
      · obtain rfl := List.mem_singleton.1 hx
        exact hc
  nodup := by
    rw [map_name_putConnection]
    split
    next => exact h.nodup
    next hnot =>
      rw [List.nodup_append]
      refine ⟨h.nodup, by simp, fun a ha b hb heq => ?_⟩
      obtain rfl := List.mem_singleton.1 hb
      exact hnot (heq ▸ ha)

/-- Some of the connections are kept as all are. -/
theorem AreKept.filter (h : AreKept cs) (p : NamedConnection → Bool) :
    AreKept (cs.filter p) where
  proper c hc := h.proper c (List.mem_filter.1 hc).1
  nodup := (List.filter_sublist.map _).nodup h.nodup

/-- **Saving puts the connection among those that are held.** -/
theorem AreKept.save_holding (h : AreKept cs) {c : NamedConnection} (hc : c.IsProper) :
    (Store.holding cs).save c = .ok (Store.holding (SqlDialect.putConnection c cs)) := by
  -- what is listed is rewritten with the connection in its place
  rw [Store.save, h.list_holding]
  show (Store.withTables <$> Store.writableTables _) = _
  rw [writableTables_listing (h.putConnection hc) (entries_insert_listing h c)]
  show Except.ok (Store.withTables _) = _
  rw [Store.holding, List.isEmpty_eq_false_iff.2 (putConnection_ne_nil c cs)]
  rfl

/-- **Removing a name takes its connection out**, and tells whether there was one. -/
theorem AreKept.remove_holding (h : AreKept cs) (name : String) :
    (Store.holding cs).remove name
      = .ok ((cs.find? (·.name == name)).isSome,
          Store.holding (cs.filter (·.name != name))) := by
  have hcontains : (Settings.ofList (listing cs)).contains name
      = (cs.find? (·.name == name)).isSome := by
    rw [Settings.contains_eq_isSome, get?_ofList_listing h, Option.isSome_map]
  have herase : ((Settings.ofList (listing cs)).erase name).entries
      = listing (cs.filter (·.name != name)) := by
    show (Settings.ofList (listing cs)).entries.filter (·.1 != name) = _
    rw [Settings.entries_ofList h.nodup_listing, listing, listing, List.filter_map]
    rfl
  rw [Store.remove, h.list_holding]
  show (if !(Settings.ofList (listing cs)).contains name then _ else _) = _
  rw [hcontains]
  by_cases hfound : (cs.find? (·.name == name)).isSome = true
  · -- the file goes with the last connection
    simp only [hfound, Bool.not_true, Bool.false_eq_true, if_false]
    have hempty : ((Settings.ofList (listing cs)).erase name).isEmpty
        = (cs.filter (·.name != name)).isEmpty := by
      rw [Settings.isEmpty, herase, listing, List.isEmpty_map]
    rw [hempty, writableTables_listing (h.filter _) herase, Store.holding]
    split <;> rfl
  · -- a name that is not there leaves the file alone
    have hall : cs.filter (·.name != name) = cs := by
      rw [List.filter_eq_self]
      intro c hc
      rw [Option.not_isSome_iff_eq_none, List.find?_eq_none] at hfound
      simpa using hfound c hc
    simp [hfound, hall]
    rfl

/-! ## §4. The invariant. -/

/-- The connections are those that the history leaves, in the order in which
their names came. -/
structure Keeps (history : List Call) (cs : List NamedConnection) : Prop where
  proper : ∀ c ∈ cs, c.IsProper
  found : ∀ name, cs.find? (·.name == name) = kept? name history
  order : (cs.map (·.name)).Pairwise fun a b => ∃ i j,
    keptSince? a history = some i ∧ keptSince? b history = some j ∧ i < j

variable {history : List Call}

/-- What the calls keep can stand in one file. -/
theorem Keeps.areKept (h : Keeps history cs) : AreKept cs where
  proper := h.proper
  nodup := h.order.imp fun ⟨i, j, ha, hb, hlt⟩ heq => by
    subst heq
    obtain rfl := Option.some.inj (ha.symm.trans hb)
    exact absurd hlt (Nat.lt_irrefl i)

/-- A connection is found under its own name. -/
theorem name_of_find? {c : NamedConnection} {name : String}
    (h : cs.find? (·.name == name) = some c) : c.name = name := by
  have hname := List.find?_some h
  exact beq_iff_eq.1 hname

/-- A connection that was put is found, and every other one as before. -/
theorem find?_putConnection (c : NamedConnection) (cs : List NamedConnection)
    (name : String) :
    (putConnection c cs).find? (·.name == name)
      = if c.name = name then some c else cs.find? (·.name == name) := by
  unfold putConnection
  split
  next hmem =>
    -- a connection is exchanged for one of the same name only
    have hsame : (fun x : NamedConnection => x.name == name)
        ∘ (fun x => if x.name = c.name then c else x) = fun x => x.name == name := by
      funext x
      show ((if x.name = c.name then c else x).name == name) = _
      split
      next hx => rw [hx]
      next => rfl
    rw [List.find?_map, hsame]
    by_cases hname : c.name = name
    · obtain ⟨x, hx, hxname⟩ := List.mem_map.1 hmem
      cases hfind : cs.find? (·.name == name) with
      | none =>
          rw [List.find?_eq_none] at hfind
          exact absurd (by simp [hxname, hname]) (hfind x hx)
      | some y =>
          have hy : y.name = c.name := (name_of_find? hfind).trans hname.symm
          simp [hy, hname]
    · rw [if_neg hname]
      cases hfind : cs.find? (·.name == name) with
      | none => rfl
      | some y =>
          have hy : y.name ≠ c.name := fun hy => hname (hy.symm.trans (name_of_find? hfind))
          simp [hy]
  next hnot =>
    rw [List.find?_append]
    by_cases hname : c.name = name
    · have hnone : cs.find? (·.name == name) = none := by
        rw [List.find?_eq_none]
        intro x hx hxname
        exact hnot (List.mem_map.2 ⟨x, hx, (beq_iff_eq.1 hxname).trans hname.symm⟩)
      rw [hnone, if_pos hname]
      simp [hname]
    · rw [if_neg hname]
      simp [hname]

/-- A name is in its place since it came, even if it is saved again. -/
theorem keptSince?_save {name : String} {i : Nat} (h : keptSince? name history = some i)
    (c : NamedConnection) (hc : c.IsProper) :
    keptSince? name (.save c hc :: history) = some i := by
  rw [keptSince?, h]
  split <;> rfl

/-- Saving a connection keeps it. -/
theorem Keeps.save (h : Keeps history cs) {c : NamedConnection} (hc : c.IsProper) :
    Keeps (.save c hc :: history) (putConnection c cs) where
  proper := (h.areKept.putConnection hc).proper
  found name := by
    rw [find?_putConnection, h.found]
    rfl
  order := by
    have hold : (cs.map (·.name)).Pairwise fun a b => ∃ i j,
        keptSince? a (.save c hc :: history) = some i ∧
        keptSince? b (.save c hc :: history) = some j ∧ i < j :=
      h.order.imp fun ⟨i, j, ha, hb, hlt⟩ =>
        ⟨i, j, keptSince?_save ha c hc, keptSince?_save hb c hc, hlt⟩
    rw [map_name_putConnection]
    split
    next => exact hold
    next hnot =>
      -- the new name comes after the calls so far
      have hsince : ∀ name, (keptSince? name history).isSome = true ↔
          name ∈ cs.map (·.name) := by
        intro name
        rw [isSome_keptSince?, ← h.found, List.find?_isSome]
        simp
      rw [List.pairwise_append]
      refine ⟨hold, List.pairwise_singleton _ _, fun a ha b hb => ?_⟩
      obtain rfl := List.mem_singleton.1 hb
      obtain ⟨i, hi⟩ := Option.isSome_iff_exists.1 ((hsince a).2 ha)
      have hnone : keptSince? c.name history = none := by
        rw [← Option.not_isSome_iff_eq_none, hsince]
        exact hnot
      refine ⟨i, history.length, keptSince?_save hi c hc, ?_, keptSince?_lt hi⟩
      rw [keptSince?, if_pos rfl, hnone]
      rfl

/-- Removing a name keeps all others. -/
theorem Keeps.remove (h : Keeps history cs) (name : String) :
    Keeps (.remove name :: history) (cs.filter (·.name != name)) where
  proper c hc := h.proper c (List.mem_filter.1 hc).1
  found other := by
    rw [List.find?_filter, kept?]
    by_cases hname : name = other
    · subst hname
      rw [if_pos rfl, List.find?_eq_none]
      simp
    · rw [if_neg hname, ← h.found]
      congr 1
      funext c
      by_cases hc : c.name = other
      · simp [hc, Ne.symm hname]
      · simp [hc]
  order := by
    -- the names that are left keep their places
    have hnames : (cs.filter (·.name != name)).map (·.name)
        = (cs.map (·.name)).filter (· != name) := by
      rw [List.filter_map]
      rfl
    rw [hnames]
    refine (h.order.filter _).imp_of_mem fun {a b} ha hb => ?_
    have hother : ∀ x ∈ (cs.map (·.name)).filter (· != name),
        keptSince? x (.remove name :: history) = keptSince? x history := fun x hx =>
      keptSince?_of_ne (Ne.symm (bne_iff_ne.1 (List.mem_filter.1 hx).2)) history
    rw [hother a ha, hother b hb]
    exact id

/-- **Every history leaves a store that holds what it keeps.** -/
theorem after_eq_holding : ∀ history : List Call,
    ∃ cs, Keeps history cs ∧ Store.after history = .ok (Store.holding cs)
  | [] => ⟨[], ⟨by simp, fun _ => rfl, List.Pairwise.nil⟩, rfl⟩
  | call :: earlier => by
      -- one call on the store that the earlier calls have left
      obtain ⟨cs, hcs, hafter⟩ := after_eq_holding earlier
      rw [Store.after, hafter]
      cases call with
      | save c hc => exact ⟨_, hcs.save hc, hcs.areKept.save_holding hc⟩
      | remove name =>
          refine ⟨_, hcs.remove name, ?_⟩
          show (·.2) <$> (Store.holding cs).remove name = _
          rw [hcs.areKept.remove_holding name]
          rfl

/-! ## §5. The map. -/

/-- A connection that is held is found if its driver is among the ids. -/
theorem Keeps.get?_holding (h : Keeps history cs) (ids : List String) (name : String) :
    (Store.holding cs).get? ids name
      = .ok ((kept? name history).filter fun c => ids.contains c.driverId) := by
  rw [Store.get?, h.areKept.list_holding]
  simp only [bind, Except.bind, get?_ofList_listing h.areKept, ← h.found]
  cases hfind : cs.find? (·.name == name) with
  | none => rfl
  | some c =>
      have hname : c.name = name := name_of_find? hfind
      have hentry := (h.proper c (List.mem_of_find?_eq_some hfind)).ofEntry_toEntry
      subst hname
      simp only [Option.map_some, tableOf_settingsValue, hentry]
      show Except.ok (if ids.contains c.driverId then some c else none) = _
      rw [Option.filter_some]

/-- A file is there exactly if there is a connection to hold. -/
theorem file_holding_eq_none_iff : (Store.holding cs).file = none ↔ cs = [] := by
  unfold Store.holding
  split
  next hempty => exact iff_of_true rfl (List.isEmpty_iff.1 hempty)
  next hne => exact iff_of_false nofun fun hnil => hne (List.isEmpty_iff.2 hnil)

/-- The store is empty exactly if no name is kept. -/
theorem Keeps.eq_nil_iff (h : Keeps history cs) :
    cs = [] ↔ ∀ name, kept? name history = none := by
  constructor
  · rintro rfl name
    exact (h.found name).symm
  · intro hnone
    rw [List.eq_nil_iff_forall_not_mem]
    intro c hc
    have hfind := (h.found c.name).trans (hnone c.name)
    rw [List.find?_eq_none] at hfind
    exact hfind c hc (beq_self_eq_true c.name)

/-- **The file is a map.**  After any calls it lists the names that are kept,
each with the entry of its connection, in the order in which the names came;
a connection is found as it was saved if its driver is among the ids; removing
tells whether the name was there; a call changes nothing about other names;
and there is a file as long as a name is kept. -/
theorem after_is_map (history : List Call) : ∃ s listed,
    Store.after history = .ok s ∧ s.list = .ok listed ∧
    (∀ name, listed.get? name
      = (kept? name history).map fun c => Parameters.settingsValue c.toEntry) ∧
    (listed.keys.Pairwise fun a b => ∃ i j,
      keptSince? a history = some i ∧ keptSince? b history = some j ∧ i < j) ∧
    (∀ ids name, s.get? ids name
      = .ok ((kept? name history).filter fun c => ids.contains c.driverId)) ∧
    (∀ name, (·.1) <$> s.remove name = .ok (kept? name history).isSome) ∧
    (∀ call, ∃ s' listed', Store.after (call :: history) = .ok s' ∧ s'.list = .ok listed' ∧
      ∀ name, call.name ≠ name → listed'.get? name = listed.get? name ∧
        ∀ ids, s'.get? ids name = s.get? ids name) ∧
    (s.file = none ↔ ∀ name, kept? name history = none) := by
  -- the store holds exactly the connections that the calls keep
  obtain ⟨cs, hcs, hafter⟩ := after_eq_holding history
  have hlisted : ∀ {history' cs'}, Keeps history' cs' → ∀ name,
      (Settings.ofList (listing cs')).get? name
        = (kept? name history').map fun c => Parameters.settingsValue c.toEntry := by
    intro history' cs' h name
    rw [get?_ofList_listing h.areKept, h.found]
  refine ⟨Store.holding cs, .ofList (listing cs), hafter, hcs.areKept.list_holding,
    hlisted hcs, ?_, hcs.get?_holding, ?_, ?_, ?_⟩
  · rw [Settings.keys, Settings.entries_ofList hcs.areKept.nodup_listing, map_fst_listing]
    exact hcs.order
  · intro name
    rw [hcs.areKept.remove_holding, ← hcs.found]
    rfl
  · intro call
    obtain ⟨cs', hcs', hafter'⟩ := after_eq_holding (call :: history)
    refine ⟨Store.holding cs', .ofList (listing cs'), hafter', hcs'.areKept.list_holding,
      fun name hname => ⟨?_, fun ids => ?_⟩⟩
    · rw [hlisted hcs', hlisted hcs, kept?_of_ne hname]
    · rw [hcs'.get?_holding, hcs.get?_holding, kept?_of_ne hname]
  · rw [file_holding_eq_none_iff, hcs.eq_nil_iff]

end SqlDialect
