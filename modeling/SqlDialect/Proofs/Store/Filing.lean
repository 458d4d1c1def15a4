/-
  SqlDialect.Proofs.Store.Filing
  ────────────────────────────────
  **NO FAULT COMES AFTER A WRITE.**

  All that may fail in saving or removing a connection comes before the file
  is touched, so a fault finds the file as it was:

      (save c).on s = orBefore s (s.save c)
-/
import SqlDialect.Proofs.Steps
import SqlDialect.Store.Basic

namespace SqlDialect.Filing

variable {α β : Type} {s : Store}

/-! ## §1. Steps in a row. -/

/-- A result with the store that it comes with, or a fault with the one before. -/
def orBefore (s : Store) : Except StoreError (α × Store) → Except StoreError α × Store
  | .ok (a, s') => (.ok a, s')
  | .error e => (.error e, s)

/-- The steps go on with the file that the first of them has left. -/
theorem on_bind (x : Filing α) (next : α → Filing β) (s : Store) :
    on (x >>= next) s = match x.on s with
      | (.ok a, s') => (next a).on s'
      | (.error e, s') => (.error e, s') := by
  unfold on
  rw [ExceptT.run_bind, StateT.run_bind]
  rcases x.run.run s with ⟨_ | a, s'⟩ <;> rfl

/-- After a step that succeeds the next one goes on with its file. -/
theorem on_bind_of_ok {x : Filing α} {a : α} {s' : Store} (h : x.on s = (.ok a, s'))
    (next : α → Filing β) : on (x >>= next) s = (next a).on s' := by
  rw [on_bind, h]

/-- A step that fails ends the others, and its file stays. -/
theorem on_bind_of_error {x : Filing α} {e : StoreError} {s' : Store}
    (h : x.on s = (.error e, s')) (next : α → Filing β) :
    on (x >>= next) s = (.error e, s') := by
  rw [on_bind, h]

/-! ## §2. Reading and writing the file. -/

/-- To load the file is to read it. -/
theorem on_load (s : Store) : load.on s = (s.list, s) := by
  obtain ⟨_ | f⟩ := s <;> rfl

/-- What cannot be written faults before the file is written. -/
theorem on_store (data : Settings Value) (s : Store) :
    (store data).on s
      = orBefore s ((fun tables => ((), Store.withTables tables))
          <$> Store.writableTables data) := by
  unfold store
  cases htables : Store.writableTables data with
  | error e => rfl
  | ok tables => rfl

/-! ## §3. Saving and removing. -/

/-- **To save step by step is to save.** -/
theorem on_save (c : NamedConnection) (s : Store) :
    (save c).on s = orBefore s (((), ·) <$> s.save c) := by
  have hload := on_load s
  unfold save Store.save
  cases hlist : s.list with
  | error e =>
      rw [hlist] at hload
      exact on_bind_of_error hload _
  | ok data =>
      rw [hlist] at hload
      rw [on_bind_of_ok hload, on_store]
      show _ = orBefore s (((), ·) <$> Store.withTables <$> Store.writableTables _)
      cases Store.writableTables (data.insert c.name (Parameters.settingsValue c.toEntry)) <;> rfl

/-- **To remove step by step is to remove.** -/
theorem on_remove (name : String) (s : Store) :
    (remove name).on s = orBefore s (s.remove name) := by
  have hload := on_load s
  unfold remove Store.remove
  cases hlist : s.list with
  | error e =>
      rw [hlist] at hload
      exact on_bind_of_error hload _
  | ok data =>
      rw [hlist] at hload
      rw [on_bind_of_ok hload, ok_bind]
      -- nothing to remove, the last connection, or one of several
      by_cases hmissing : (!data.contains name) = true
      · rw [if_pos hmissing, if_pos hmissing]
        rfl
      · rw [if_neg hmissing, if_neg hmissing]
        by_cases hlast : (data.erase name).isEmpty = true
        · dsimp only
          rw [if_pos hlast, if_pos hlast]
          rfl
        · dsimp only
          rw [if_neg hlast, if_neg hlast]
          have hstore := on_store (data.erase name) s
          cases htables : Store.writableTables (data.erase name) with
          | error e =>
              rw [htables] at hstore
              exact on_bind_of_error hstore _
          | ok tables =>
              rw [htables] at hstore
              exact on_bind_of_ok hstore _

/-- A name that is missing leaves the file alone. -/
theorem eq_of_remove_eq_false {s' : Store} {name : String}
    (h : s.remove name = .ok (false, s')) : s' = s := by
  unfold Store.remove at h
  obtain ⟨doc, -, h⟩ := exists_of_bind_eq_ok h
  split at h
  · exact (Prod.mk.inj (Except.ok.inj h)).2.symm
  · dsimp only at h
    split at h
    · exact absurd h nofun
    · obtain ⟨_, -, h⟩ := exists_of_bind_eq_ok h
      exact absurd h nofun

/-- A fault leaves the file as it was. -/
theorem snd_orBefore_of_error {r : Except StoreError (α × Store)} {e : StoreError}
    (h : (orBefore s r).1 = .error e) : (orBefore s r).2 = s := by
  cases r with
  | error e' => rfl
  | ok p => exact absurd h nofun

end SqlDialect.Filing
