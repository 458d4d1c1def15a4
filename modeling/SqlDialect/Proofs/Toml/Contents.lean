/-
  SqlDialect.Proofs.Toml.Contents
  ────────────────────────────────
  **WHAT A DOCUMENT HOLDS.**

  A document holds truth values, whole and floating-point numbers, texts,
  dates, times, arrays and tables, and every table has distinct names:

      read text = .ok doc → ∀ e ∈ doc.entries, IsHeld e.2

  Each value that is read is such a value, and each statement keeps the
  names of every table apart.
-/
import SqlDialect.Proofs.Settings
import SqlDialect.Proofs.Steps
import SqlDialect.Toml.Reader
import SqlDialect.Value.Text

namespace SqlDialect.Toml

/-! ## §1. Values that a document holds. -/

/-- Named values as a table. -/
def namedTable (s : Settings Value) : Table :=
  s.entries.map fun e => (.text e.1, e.2)

/-- A value that a document holds.  Nothing is asked of the items of an array. -/
inductive IsHeld : Value → Prop
  | bool (b : Bool) : IsHeld (.bool b)
  | int (n : Int) : IsHeld (.int n)
  | float (x : Number.Binary64) : IsHeld (.float x)
  | text (s : String) : IsHeld (.text s)
  | date (d : Calendar.Date) : IsHeld (.date d)
  | time (c : Calendar.Clock) (o : Option Calendar.Offset) : IsHeld (.time c o)
  | moment (m : Calendar.Moment) : IsHeld (.moment m)
  | list (items : List Value) : IsHeld (.list items)
  | map (s : Settings Value) (h : ∀ e ∈ s.entries, IsHeld e.2) : IsHeld (.map (namedTable s))

/-- A table of a document. -/
def HoldsEntries (t : Table) : Prop :=
  ∃ s : Settings Value, t = namedTable s ∧ ∀ e ∈ s.entries, IsHeld e.2

/-- A table of a document is one of its values. -/
theorem HoldsEntries.isHeld {t : Table} (h : HoldsEntries t) : IsHeld (.map t) := by
  obtain ⟨s, rfl, hs⟩ := h
  exact .map s hs

/-- A value that is a table holds entries. -/
theorem IsHeld.holdsEntries {t : Table} (h : IsHeld (.map t)) : HoldsEntries t := by
  cases h with
  | map s hs => exact ⟨s, rfl, hs⟩

theorem holdsEntries_nil : HoldsEntries [] :=
  ⟨.empty, rfl, fun _ he => absurd he List.not_mem_nil⟩

/-! ## §2. Looking up and changing a table. -/

/-- A name gives what it gave before the values became a table. -/
theorem get?_namedTable (s : Settings Value) (name : String) :
    (namedTable s).get? name = s.get? name :=
  (Entries.get?_map sameKey Value.same (g := Value.text) (f := fun _ v => v) (fun _ _ => rfl)
    (fun _ _ _ => rfl) name s.entries).trans Option.map_id'

/-- A value may be set before the values become a table. -/
theorem set_namedTable (s : Settings Value) (name : String) (v : Value) :
    (namedTable s).set name v = namedTable (s.insert name v) :=
  (Entries.map_insert sameKey Value.same (g := Value.text) (f := fun _ v => v) (fun _ _ => rfl)
    (fun _ _ _ => rfl) name v s.entries).symm

/-- The values of a table are found again. -/
theorem toSettings_namedTable (s : Settings Value) : (namedTable s).toSettings = s := by
  rw [Table.toSettings, namedTable, List.filterMap_map]
  show Settings.ofList (s.entries.filterMap fun e => some e) = s
  rw [List.filterMap_some, Settings.ofList_entries]

/-- A name shows itself. -/
theorem map_shown_namedTable (s : Settings Value) :
    (namedTable s).map (fun e => (e.1.shown, e.2)) = s.entries := by
  rw [namedTable, List.map_map]
  refine (List.map_congr_left fun e _ => ?_).trans (List.map_id s.entries)
  exact Prod.ext (Value.shown_text e.1) rfl

namespace HoldsEntries

variable {t t' : Table} {name : String} {v : Value}

/-- What a table of a document has is held. -/
theorem get? (ht : HoldsEntries t) (h : t.get? name = some v) : IsHeld v := by
  obtain ⟨s, rfl, hs⟩ := ht
  rw [get?_namedTable, Settings.get?_eq_some_iff] at h
  exact hs _ h

/-- A held value may be set in a table of a document. -/
theorem set (ht : HoldsEntries t) (hv : IsHeld v) : HoldsEntries (t.set name v) := by
  obtain ⟨s, rfl, hs⟩ := ht
  refine ⟨s.insert name v, set_namedTable s name v, fun e he => ?_⟩
  have hget : (s.insert name v).get? e.1 = some e.2 := Settings.get?_eq_some_iff.2 he
  rw [Settings.get?_insert] at hget
  split at hget
  · exact Option.some.inj hget ▸ hv
  · exact hs e (Settings.get?_eq_some_iff.1 hget)

/-- A held value may be added to a table of a document. -/
theorem add? (ht : HoldsEntries t) (hv : IsHeld v) (h : t.add? name v = some t') :
    HoldsEntries t' := by
  unfold Table.add? at h
  split at h
  · exact absurd h nofun
  · exact Option.some.inj h ▸ ht.set hv

/-- A table may be added to an array of tables. -/
theorem addItem? (ht : HoldsEntries t) (h : t.addItem? name = some t') : HoldsEntries t' := by
  unfold Table.addItem? at h
  split at h
  · exact Option.some.inj h ▸ ht.set (.list _)
  · exact Option.some.inj h ▸ ht.set (.list _)
  · exact absurd h nofun

/-- A change at a key leaves the tables on the way as they should be. -/
theorem changeAt? {enterArrays : Bool} {change : Table → Option Table}
    (hchange : ∀ t t', HoldsEntries t → change t = some t' → HoldsEntries t') :
    ∀ (key : Key) {t t' : Table}, HoldsEntries t →
      t.changeAt? enterArrays change key = some t' → HoldsEntries t'
  | [], t, t', ht, h => hchange t t' ht h
  | name :: key, t, t', ht, h => by
      have inner : ∀ {u u' : Table}, HoldsEntries u →
          (Table.changeAt? enterArrays change key u).map (fun u => t.set name (.map u)) = some u' →
          HoldsEntries u' := by
        intro u u' hu hmap
        obtain ⟨w, hw, rfl⟩ := Option.map_eq_some_iff.1 hmap
        exact ht.set (changeAt? hchange key hu hw).isHeld
      rw [Table.changeAt?] at h
      cases hget : t.get? name with
      | none =>
          rw [hget] at h
          exact inner holdsEntries_nil h
      | some v =>
          rw [hget] at h
          cases v with
          | map u => exact inner (ht.get? hget).holdsEntries h
          | list items =>
              -- an array stays an array
              dsimp only at h
              split at h
              · obtain ⟨_, -, rfl⟩ := Option.map_eq_some_iff.1 h
                exact ht.set (.list _)
              · exact absurd h nofun
          | _ => exact absurd h nofun

end HoldsEntries

/-! ## §3. Values that are read. -/

/-- A truth value is held. -/
theorem isHeld_of_takeBool? {s rest : List Char} {v : Value}
    (h : takeBool? s = some (v, rest)) : IsHeld v := by
  unfold takeBool? at h
  split at h
  · obtain ⟨rfl, -⟩ := Prod.mk.inj (Option.some.inj h)
    exact .bool true
  · obtain ⟨_, -, hr⟩ := Option.map_eq_some_iff.1 h
    obtain ⟨rfl, -⟩ := Prod.mk.inj hr
    exact .bool false

/-- A date, with or without a time, is held. -/
theorem isHeld_of_takeDayTime? {date : Calendar.Date} {s rest : List Char} {v : Value}
    (h : takeDayTime? date s = some (v, rest)) : IsHeld v := by
  unfold takeDayTime? at h
  split at h
  · split at h
    · obtain ⟨⟨clock, tail⟩, -, hr⟩ := Option.map_eq_some_iff.1 h
      dsimp only at hr
      split at hr <;> obtain ⟨rfl, -⟩ := Prod.mk.inj hr
      · exact .moment _
      · exact .moment _
    · exact absurd h nofun
  · exact absurd h nofun

/-- A time is held. -/
theorem isHeld_of_takeTime? {s rest : List Char} {v : Value}
    (h : takeTime? s = some (v, rest)) : IsHeld v := by
  unfold takeTime? at h
  split at h
  next date tail _ =>
    -- a date stands alone, or a time follows it
    cases hday : takeDayTime? date tail with
    | none =>
        rw [hday] at h
        obtain ⟨rfl, -⟩ := Prod.mk.inj (Option.some.inj h)
        exact .date date
    | some r =>
        rw [hday] at h
        obtain rfl : r = (v, rest) := Option.some.inj h
        exact isHeld_of_takeDayTime? hday
  next =>
    obtain ⟨_, -, hr⟩ := Option.map_eq_some_iff.1 h
    obtain ⟨rfl, -⟩ := Prod.mk.inj hr
    exact .time _ none

/-- A number in another base is held. -/
theorem isHeld_of_takeBased? {s rest : List Char} {v : Value}
    (h : takeBased? s = some (v, rest)) : IsHeld v := by
  unfold takeBased? at h
  split at h
  next tail =>
    -- whichever base the letter stands for, if it stands for one
    dsimp only at h
    split at h <;>
      obtain ⟨_, -, h⟩ := Option.bind_eq_some_iff.1 h <;>
      obtain ⟨_, -, h⟩ := Option.bind_eq_some_iff.1 h <;>
      obtain ⟨rfl, -⟩ := Prod.mk.inj (Option.some.inj h) <;>
      exact .int _
  next => cases h

/-- A number that is not finite is held. -/
theorem isHeld_of_takeSpecial? {s rest : List Char} {v : Value}
    (h : takeSpecial? s = some (v, rest)) : IsHeld v := by
  unfold takeSpecial? at h
  dsimp only at h
  split at h
  · obtain ⟨rfl, -⟩ := Prod.mk.inj (Option.some.inj h)
    exact .float _
  · obtain ⟨_, -, hr⟩ := Option.map_eq_some_iff.1 h
    obtain ⟨rfl, -⟩ := Prod.mk.inj hr
    exact .float _

/-- A decimal number is held. -/
theorem isHeld_of_takeDecimal {s rest : List Char} {v : Value}
    (h : takeDecimal s = .ok (v, rest)) : IsHeld v := by
  unfold takeDecimal at h
  dsimp only at h
  split at h
  next =>
    split at h
    · split at h
      · exact absurd h nofun
      · obtain ⟨rfl, -⟩ := Prod.mk.inj (Except.ok.inj h)
        exact .int _
    · split at h
      · obtain ⟨rfl, -⟩ := Prod.mk.inj (Except.ok.inj h)
        exact .float _
      · exact absurd h nofun
  next => exact absurd h nofun

/-- A simple value is held. -/
theorem isHeld_of_takeScalar {s rest : List Char} {v : Value}
    (h : takeScalar s = .ok (v, rest)) : IsHeld v := by
  unfold takeScalar at h
  split at h
  next hb => exact isHeld_of_takeBool? (Except.ok.inj h ▸ hb)
  next =>
    split at h
    next ht => exact isHeld_of_takeTime? (Except.ok.inj h ▸ ht)
    next =>
      split at h
      next hb => exact isHeld_of_takeBased? (Except.ok.inj h ▸ hb)
      next =>
        split at h
        next hs => exact isHeld_of_takeSpecial? (Except.ok.inj h ▸ hs)
        next => exact isHeld_of_takeDecimal h

/-- What is not malformed was there. -/
theorem eq_some_of_orMalformed_eq_ok {α : Type} {o : Option α} {a : α}
    (h : orMalformed o = .ok a) : o = some a := by
  cases o with
  | none => exact absurd h nofun
  | some b => exact congrArg some (Except.ok.inj h)

/-- Assigning in an inline table keeps it one of a document. -/
theorem HoldsEntries.assignInline? {t t' : Table} {marks : Marks} {key : Key} {v : Value}
    (ht : HoldsEntries t) (hv : IsHeld v) (h : assignInline? t marks key v = some t') :
    HoldsEntries t' := by
  unfold Toml.assignInline? at h
  split at h
  · exact absurd h nofun
  · exact changeAt? (fun _ _ hu hadd => hu.add? hv hadd) _ ht h

/-- What is read below a bound is held. -/
structure ReadsHeld (bound : Nat) : Prop where
  value : ∀ {s rest : List Char} {v : Value}, readValue bound s = .ok (v, rest) → IsHeld v
  pairs : ∀ {t t' : Table} {marks : Marks} {s rest : List Char}, HoldsEntries t →
    readPairs bound t marks s = .ok (t', rest) → HoldsEntries t'

/-- A value is held if all shorter ones are. -/
theorem ReadsHeld.value_succ {bound : Nat} (ih : ReadsHeld bound) {s rest : List Char}
    {v : Value} (h : readValue (bound + 1) s = .ok (v, rest)) : IsHeld v := by
  unfold readValue at h
  split at h
  · -- a text in quotes of either kind
    obtain ⟨_, -, h⟩ := exists_of_bind_eq_ok h
    obtain ⟨rfl, -⟩ := Prod.mk.inj (Except.ok.inj h)
    exact .text _
  · obtain ⟨_, -, h⟩ := exists_of_bind_eq_ok h
    obtain ⟨rfl, -⟩ := Prod.mk.inj (Except.ok.inj h)
    exact .text _
  · -- an array, whatever its items are
    obtain ⟨_, -, h⟩ := exists_of_bind_eq_ok h
    split at h
    · obtain ⟨rfl, -⟩ := Prod.mk.inj (Except.ok.inj h)
      exact .list []
    · obtain ⟨_, -, h⟩ := exists_of_bind_eq_ok h
      obtain ⟨rfl, -⟩ := Prod.mk.inj (Except.ok.inj h)
      exact .list _
  · -- an inline table starts empty and takes one pair after another
    split at h
    · obtain ⟨rfl, -⟩ := Prod.mk.inj (Except.ok.inj h)
      exact holdsEntries_nil.isHeld
    · obtain ⟨_, hpairs, h⟩ := exists_of_bind_eq_ok h
      obtain ⟨rfl, -⟩ := Prod.mk.inj (Except.ok.inj h)
      exact (ih.pairs holdsEntries_nil hpairs).isHeld
  · exact isHeld_of_takeScalar h

/-- An inline table is held if all shorter values are. -/
theorem ReadsHeld.pairs_succ {bound : Nat} (ih : ReadsHeld bound) {t t' : Table} {marks : Marks}
    {s rest : List Char} (ht : HoldsEntries t)
    (h : readPairs (bound + 1) t marks s = .ok (t', rest)) : HoldsEntries t' := by
  rw [readPairs] at h
  obtain ⟨⟨key, tail⟩, -, h⟩ := exists_of_bind_eq_ok h
  obtain ⟨⟨v, tail'⟩, hv, h⟩ := exists_of_bind_eq_ok h
  obtain ⟨u, hu, h⟩ := exists_of_bind_eq_ok h
  have hassigned : HoldsEntries u :=
    ht.assignInline? (ih.value hv) (eq_some_of_orMalformed_eq_ok hu)
  split at h
  · obtain ⟨rfl, -⟩ := Prod.mk.inj (Except.ok.inj h)
    exact hassigned
  · exact ih.pairs hassigned h
  · exact absurd h nofun

/-- Every value that is read is held. -/
theorem readsHeld : ∀ bound, ReadsHeld bound
  | 0 => ⟨fun h => absurd h nofun, fun _ h => absurd h nofun⟩
  | bound + 1 => ⟨(readsHeld bound).value_succ, (readsHeld bound).pairs_succ⟩

/-! ## §4. Statements that are followed. -/

/-- The statement gives a value that a document holds, if it gives one. -/
def Statement.GivesHeld : Statement → Prop
  | .assign _ v => IsHeld v
  | _ => True

/-- A statement that is read gives a held value. -/
theorem givesHeld_of_readStatement {s rest : List Char} {st : Statement}
    (h : readStatement s = .ok (st, rest)) : st.GivesHeld := by
  unfold readStatement at h
  split at h
  -- a header gives no value
  · have h := eq_some_of_orMalformed_eq_ok h
    unfold takeHeader? at h
    split at h
    · obtain ⟨_, -, h⟩ := Option.bind_eq_some_iff.1 h
      split at h
      · obtain ⟨rfl, -⟩ := Prod.mk.inj (Option.some.inj h)
        trivial
      · exact absurd h nofun
    · obtain ⟨_, -, h⟩ := Option.bind_eq_some_iff.1 h
      split at h
      · obtain ⟨rfl, -⟩ := Prod.mk.inj (Option.some.inj h)
        trivial
      · exact absurd h nofun
    · exact absurd h nofun
  · obtain ⟨_, -, h⟩ := exists_of_bind_eq_ok h
    obtain ⟨_, hv, h⟩ := exists_of_bind_eq_ok h
    obtain ⟨rfl, -⟩ := Prod.mk.inj (Except.ok.inj h)
    exact (readsHeld _).value hv

/-- Every statement that is read gives a held value. -/
theorem givesHeld_of_mem_readStatements : ∀ (bound : Nat) {s : List Char} {st : Statement},
    st ∈ (readStatements bound s).1 → st.GivesHeld
  | 0, _, _, h => absurd h List.not_mem_nil
  | bound + 1, s, st, h => by
      rw [readStatements] at h
      split at h
      · exact absurd h List.not_mem_nil
      · -- empty lines and comments give no statement
        exact givesHeld_of_mem_readStatements bound h
      · split at h
        · exact givesHeld_of_mem_readStatements bound h
        · exact absurd h List.not_mem_nil
      · split at h
        next => exact absurd h List.not_mem_nil
        -- a statement, and those behind its line end
        next statement rest hst =>
          split at h
          · obtain rfl | h := List.mem_cons.1 h
            · exact givesHeld_of_readStatement hst
            · exact givesHeld_of_mem_readStatements bound h
          · obtain rfl := List.mem_singleton.1 h
            exact givesHeld_of_readStatement hst

/-- A statement keeps the tables of the document as they should be. -/
theorem holdsEntries_follow? {s s' : State} {st : Statement} (hs : HoldsEntries s.table)
    (hst : st.GivesHeld) (h : s.follow? st = some s') : HoldsEntries s'.table := by
  cases st with
  | assign key v =>
      replace h : s.assign? key v = some s' := h
      unfold State.assign? at h
      dsimp only at h
      split at h
      · exact absurd h nofun
      · obtain ⟨t, ht, rfl⟩ := Option.map_eq_some_iff.1 h
        exact hs.changeAt? (fun _ _ hu hadd => hu.add? hst hadd) _ ht
  | table key =>
      replace h : s.settle.open? key = some s' := h
      unfold State.open? at h
      split at h
      · exact absurd h nofun
      · -- a header only makes the tables on the way to its own
        obtain ⟨t, ht, rfl⟩ := Option.map_eq_some_iff.1 h
        exact HoldsEntries.changeAt? (fun _ _ hu hsame => Option.some.inj hsame ▸ hu) _ hs ht
  -- a header of an array adds an empty table to it
  | item key =>
      replace h : s.settle.openItem? key = some s' := h
      unfold State.openItem? at h
      split at h
      · exact absurd h nofun
      · obtain ⟨t, ht, rfl⟩ := Option.map_eq_some_iff.1 h
        exact HoldsEntries.changeAt? (fun _ _ hu hitem => hu.addItem? hitem) _ hs ht

/-- Statements that give held values leave a table of a document. -/
theorem holdsEntries_followAll? : ∀ {statements : List Statement} {s s' : State},
    HoldsEntries s.table → (∀ st ∈ statements, st.GivesHeld) →
      s.followAll? statements = some s' → HoldsEntries s'.table
  | [], _, _, hs, _, h => Option.some.inj h ▸ hs
  | st :: rest, _, _, hs, hst, h => by
      rw [State.followAll?_cons] at h
      obtain ⟨next, hnext, h⟩ := Option.bind_eq_some_iff.1 h
      exact holdsEntries_followAll?
        (holdsEntries_follow? hs (hst st (by simp)) hnext)
        (fun st' hst' => hst st' (List.mem_cons_of_mem st hst')) h

/-- **A document holds only such values.** -/
theorem isHeld_of_read {text : String} {doc : Settings Value} (h : read text = .ok doc) :
    ∀ e ∈ doc.entries, IsHeld e.2 := by
  unfold read ofStatements at h
  dsimp only at h
  split at h
  · exact absurd h nofun
  · exact absurd h nofun
  next s hfollow _ =>
    obtain ⟨doc', htable, hdoc⟩ := holdsEntries_followAll? holdsEntries_nil
      (fun _ => givesHeld_of_mem_readStatements _) hfollow
    rw [← Except.ok.inj h, htable, toSettings_namedTable]
    exact hdoc

end SqlDialect.Toml
