/-
  SqlDialect.Proofs.Store.Lookup
  ────────────────────────────────
  **WHAT A NAME IS LOOKED UP AS.**

  A file may be written by hand.  What stands under a name is looked up as
  a connection if it describes one for a known driver, and as nothing if it
  does not.  Of a document that can be read only two things have no answer:

      a name whose value is no table          .notTable name
      an entry whose port is infinite         .entry (.form .infinitePort)
-/
import SqlDialect.Proofs.Connection.Form
import SqlDialect.Store.Basic

namespace SqlDialect

open SqlDialect.Toml

namespace NamedConnection

/-! ## §1. Entries with an infinite port. -/

/-- Nothing is wrong with the entry up to its port, and the port is infinite. -/
structure HasInfinitePort (entry : Settings Value) : Prop where
  driver : ∃ id, entry.get? driverKey = some (.text id)
  options : ∀ v, entry.get? optionsName = some v → ∃ options, v = .map options
  /-- What becomes an option of the driver can be written. -/
  writable : ∀ e ∈ entry.entries, e.1 ≠ driverKey → e.1 ≠ optionsName →
    Parameter.ofKey? e.1 = none → e.2.isWritable = true
  port : ∃ v, entry.get? "port" = some v ∧ v.infiniteSign?.isSome = true

/-- The options of an entry are missing or a map. -/
theorem entryOptions_eq_ok_iff {name : String} {entry : Settings Value} :
    (∃ options, entryOptions name entry = .ok options) ↔
      ∀ v, entry.get? optionsName = some v → ∃ options, v = .map options := by
  unfold entryOptions
  cases entry.get? optionsName with
  | none => exact iff_of_true ⟨[], rfl⟩ nofun
  | some v =>
      cases v with
      | map options =>
          exact iff_of_true ⟨options, rfl⟩ fun _ h => ⟨options, (Option.some.inj h).symm⟩
      | _ => exact iff_of_false nofun fun h => (h _ rfl).elim nofun

/-- Options are refused only if they are no table. -/
theorem eq_of_entryOptions_eq_error {name : String} {entry : Settings Value} {e : EntryError}
    (h : entryOptions name entry = .error e) : e = .optionsNotTable name := by
  unfold entryOptions at h
  split at h
  next => exact absurd h nofun
  next => exact absurd h nofun
  next => exact (Except.error.inj h).symm

/-- What an entry says besides its driver and its options. -/
def formEntries (entry : Settings Value) : Settings Value :=
  entry.filterKeys fun k => k != driverKey && k != optionsName

/-- The port is read from the entry as it is. -/
theorem get?_port_formEntries (entry : Settings Value) :
    (formEntries entry).get? "port" = entry.get? "port" :=
  Settings.get?_filterKeys_of_true entry (by decide)

/-- An infinite port is what a form fails with exactly if no option has too many
digits. -/
theorem entryForm_eq_infinitePort_iff {entry : Settings Value} :
    entryForm entry = .error .infinitePort ↔
      (∀ e ∈ entry.entries, e.1 ≠ driverKey → e.1 ≠ optionsName →
        Parameter.ofKey? e.1 = none → e.2.isWritable = true) ∧
      ∃ v, entry.get? "port" = some v ∧ v.infiniteSign?.isSome = true := by
  show Form.ofSettings (formEntries entry) = _ ↔ _
  rw [Form.ofSettings_eq_infinitePort_iff, Form.optionsOf_eq_ok_iff, get?_port_formEntries]
  refine and_congr_left' ⟨fun h e he hd ho => ?_, fun h e he => ?_⟩
  · exact h e (List.mem_filter.2 ⟨he, by simp [hd, ho]⟩)
  · obtain ⟨he, hkey⟩ := List.mem_filter.1 he
    rw [Bool.and_eq_true, bne_iff_ne, bne_iff_ne] at hkey
    exact h e he hkey.1 hkey.2

/-- **An entry is refused for its infinite port only if nothing else comes first.** -/
theorem ofEntry_eq_infinitePort_iff {name : String} {entry : Settings Value} :
    ofEntry name entry = .error (.form .infinitePort) ↔ HasInfinitePort entry := by
  constructor
  · intro h
    unfold ofEntry at h
    split at h
    next id hdriver =>
      obtain hoptions | ⟨options, hoptions, h⟩ := error_of_bind_eq_error h
      · exact absurd (eq_of_entryOptions_eq_error hoptions) nofun
      obtain hform | ⟨form, -, h⟩ := error_of_bind_eq_error h
      · have hform : entryForm entry = .error .infinitePort := by
          cases hr : entryForm entry with
          | error reason =>
              rw [hr] at hform
              rw [EntryError.form.inj (Except.error.inj hform)]
          | ok form =>
              rw [hr] at hform
              exact absurd hform nofun
        obtain ⟨hwritable, hport⟩ := entryForm_eq_infinitePort_iff.1 hform
        exact ⟨⟨id, hdriver⟩, entryOptions_eq_ok_iff.1 ⟨options, hoptions⟩, hwritable, hport⟩
      · -- options are refused for their digits only
        obtain htexts | ⟨texts, -, h⟩ := error_of_bind_eq_error h
        · unfold optionTexts at htexts
          split at htexts <;> exact absurd htexts nofun
        · exact absurd h nofun
    next => exact absurd h nofun
  · rintro ⟨⟨id, hdriver⟩, hoptions, hwritable, hport⟩
    obtain ⟨options, hoptions⟩ : ∃ options, entryOptions name entry = .ok options :=
      entryOptions_eq_ok_iff.2 hoptions
    have hform := entryForm_eq_infinitePort_iff.2 ⟨hwritable, hport⟩
    unfold ofEntry
    -- the options are looked at before the port, but not yet written
    rw [hdriver]
    dsimp only
    rw [hoptions, hform]
    rfl

/-- Only an infinite port overflows. -/
theorem isOverflow_iff {e : EntryError} : e.isOverflow = true ↔ e = .form .infinitePort := by
  unfold EntryError.isOverflow
  split
  next => exact iff_of_true rfl rfl
  next h => exact iff_of_false nofun h

end NamedConnection

namespace Store

/-! ## §2. What stands under a name. -/

/-- What an entry is looked up as. -/
def entryLookup (ids : List String) (name : String) (entry : Settings Value) :
    Except StoreError (Option NamedConnection) :=
  match NamedConnection.ofEntry name entry with
  | .ok c => .ok (if ids.contains c.driverId then some c else none)
  | .error e => if e.isOverflow then .error (.entry e) else .ok none

variable {s : Store} {ids : List String} {name : String} {doc : Settings Value}

/-- A lookup in a file that is not read fails as reading it does. -/
theorem get?_of_list_eq_error {e : StoreError} (h : s.list = .error e) :
    s.get? ids name = .error e := by
  unfold get?
  rw [h]
  rfl

/-- A name that is not in the file gives nothing. -/
theorem get?_of_missing (h : s.list = .ok doc) (hv : doc.get? name = none) :
    s.get? ids name = .ok none := by
  unfold get?
  rw [h, ok_bind, hv]
  rfl

/-- A name with a table gives what the table does. -/
theorem get?_of_map (h : s.list = .ok doc) {t : Table} (hv : doc.get? name = some (.map t)) :
    s.get? ids name = entryLookup ids name t.toSettings := by
  have htable : tableOf name (.map t) = .ok t.toSettings := rfl
  unfold get? entryLookup
  rw [h, ok_bind, hv]
  dsimp only
  rw [htable, ok_bind]
  cases NamedConnection.ofEntry name t.toSettings with
  | ok c => rfl
  | error e =>
      dsimp only
      split <;> rfl

/-- A name with anything but a table is refused. -/
theorem get?_of_notTable (h : s.list = .ok doc) {v : Value} (hv : doc.get? name = some v)
    (ht : ∀ t, v ≠ .map t) : s.get? ids name = .error (.notTable name) := by
  have htable : tableOf name v = .error (.notTable name) := by
    unfold tableOf
    split
    next t => exact absurd rfl (ht t)
    next => rfl
  unfold get?
  rw [h, ok_bind, hv]
  dsimp only
  rw [htable]
  rfl

/-- An entry that is read gives its connection if the driver is known. -/
theorem entryLookup_of_ok {entry : Settings Value} {c : NamedConnection}
    (h : NamedConnection.ofEntry name entry = .ok c) :
    entryLookup ids name entry = .ok (if ids.contains c.driverId then some c else none) := by
  rw [entryLookup, h]

/-- An entry that is not read gives nothing, an infinite port apart. -/
theorem entryLookup_of_error {entry : Settings Value} {e : EntryError}
    (h : NamedConnection.ofEntry name entry = .error e) (he : e ≠ .form .infinitePort) :
    entryLookup ids name entry = .ok none := by
  rw [entryLookup, h]
  exact if_neg fun hover => he (NamedConnection.isOverflow_iff.1 hover)

/-- An infinite port is not caught. -/
theorem entryLookup_of_infinitePort {entry : Settings Value}
    (h : NamedConnection.HasInfinitePort entry) :
    entryLookup ids name entry = .error (.entry (.form .infinitePort)) := by
  rw [entryLookup, NamedConnection.ofEntry_eq_infinitePort_iff.2 h]
  rfl

/-- Unless its port is infinite, an entry is looked up as the connection that
it describes for a known driver. -/
theorem entryLookup_eq {entry : Settings Value} (h : ¬ NamedConnection.HasInfinitePort entry) :
    entryLookup ids name entry = .ok ((NamedConnection.ofEntry name entry).toOption.filter
      fun c => ids.contains c.driverId) := by
  cases hc : NamedConnection.ofEntry name entry with
  | ok c =>
      rw [entryLookup_of_ok hc]
      rfl
  | error e =>
      refine entryLookup_of_error hc fun he => h ?_
      exact NamedConnection.ofEntry_eq_infinitePort_iff.1 (he ▸ hc)

/-! ## §3. The answers of a document. -/

/-- How a document answers for a name. -/
inductive Answers (ids : List String) (name : String) (doc : Settings Value) :
    Except StoreError (Option NamedConnection) → Prop
  | missing (hv : doc.get? name = none) : Answers ids name doc (.ok none)
  | found {t : Table} {c : NamedConnection} (hv : doc.get? name = some (.map t))
      (hc : NamedConnection.ofEntry name t.toSettings = .ok c) (hid : c.driverId ∈ ids) :
      Answers ids name doc (.ok (some c))
  | unknownDriver {t : Table} {c : NamedConnection} (hv : doc.get? name = some (.map t))
      (hc : NamedConnection.ofEntry name t.toSettings = .ok c) (hid : c.driverId ∉ ids) :
      Answers ids name doc (.ok none)
  | malformed {t : Table} {e : EntryError} (hv : doc.get? name = some (.map t))
      (he : NamedConnection.ofEntry name t.toSettings = .error e)
      (hp : ¬ NamedConnection.HasInfinitePort t.toSettings) : Answers ids name doc (.ok none)
  | infinitePort {t : Table} (hv : doc.get? name = some (.map t))
      (hp : NamedConnection.HasInfinitePort t.toSettings) :
      Answers ids name doc (.error (.entry (.form .infinitePort)))
  | notTable {v : Value} (hv : doc.get? name = some v) (ht : ∀ t, v ≠ .map t) :
      Answers ids name doc (.error (.notTable name))

/-- A lookup gives an answer of the document. -/
theorem answers_get? (h : s.list = .ok doc) : Answers ids name doc (s.get? ids name) := by
  cases hv : doc.get? name with
  | none =>
      rw [get?_of_missing h hv]
      exact .missing hv
  | some v =>
      by_cases ht : ∃ t, v = .map t
      · -- a table is looked up as its entry is
        obtain ⟨t, rfl⟩ := ht
        rw [get?_of_map h hv]
        -- an entry that is not read counts as missing, but for one error
        cases hc : NamedConnection.ofEntry name (Table.toSettings t) with
        | ok c =>
            rw [entryLookup_of_ok hc]
            by_cases hid : c.driverId ∈ ids
            · rw [if_pos (List.contains_iff_mem.2 hid)]
              exact .found hv hc hid
            · rw [if_neg fun hmem => hid (List.contains_iff_mem.1 hmem)]
              exact .unknownDriver hv hc hid
        | error e =>
            by_cases he : e = .form .infinitePort
            · have hp := NamedConnection.ofEntry_eq_infinitePort_iff.1 (he ▸ hc)
              rw [entryLookup_of_infinitePort hp]
              exact .infinitePort hv hp
            · rw [entryLookup_of_error hc he]
              refine .malformed hv hc fun hp => he ?_
              rw [NamedConnection.ofEntry_eq_infinitePort_iff.2 hp] at hc
              exact (Except.error.inj hc).symm
      · have ht : ∀ t, v ≠ .map t := fun t hvt => ht ⟨t, hvt⟩
        rw [get?_of_notTable h hv ht]
        exact .notTable hv ht

/-- A document has one answer for a name: that of its lookup. -/
theorem Answers.eq_get? {r : Except StoreError (Option NamedConnection)}
    (ha : Answers ids name doc r) (h : s.list = .ok doc) : s.get? ids name = r := by
  cases ha with
  | missing hv => exact get?_of_missing h hv
  | found hv hc hid =>
      rw [get?_of_map h hv, entryLookup_of_ok hc, if_pos (List.contains_iff_mem.2 hid)]
  | unknownDriver hv hc hid =>
      rw [get?_of_map h hv, entryLookup_of_ok hc,
        if_neg fun hmem => hid (List.contains_iff_mem.1 hmem)]
  | malformed hv he hp =>
      rw [get?_of_map h hv]
      refine entryLookup_of_error he fun hinf => hp ?_
      exact NamedConnection.ofEntry_eq_infinitePort_iff.1 (hinf ▸ he)
  | infinitePort hv hp => rw [get?_of_map h hv, entryLookup_of_infinitePort hp]
  | notTable hv ht => exact get?_of_notTable h hv ht

/-- **A lookup gives the one answer of the document**, and fails with the
document if that cannot be read.  Of the entries that are refused, exactly
those with an infinite port are refused by an overflow. -/
theorem lookup_gives_answer (s : Store) (ids : List String) (name : String) :
    (∀ r, s.get? ids name = r ↔
      (∃ e, s.list = .error e ∧ r = .error e) ∨
        ∃ doc, s.list = .ok doc ∧ Answers ids name doc r) ∧
    ∀ entry, (∃ e, NamedConnection.ofEntry name entry = .error e ∧ e.isOverflow = true) ↔
      NamedConnection.HasInfinitePort entry := by
  refine ⟨fun r => ⟨?_, ?_⟩, fun entry => ⟨?_, ?_⟩⟩
  · rintro rfl
    cases h : s.list with
    | error e => exact .inl ⟨e, rfl, get?_of_list_eq_error h⟩
    | ok doc => exact .inr ⟨doc, rfl, answers_get? h⟩
  · rintro (⟨e, h, rfl⟩ | ⟨doc, h, ha⟩)
    · exact get?_of_list_eq_error h
    · exact ha.eq_get? h
  · rintro ⟨e, he, hover⟩
    rw [NamedConnection.isOverflow_iff.1 hover] at he
    exact NamedConnection.ofEntry_eq_infinitePort_iff.1 he
  · intro hp
    exact ⟨_, NamedConnection.ofEntry_eq_infinitePort_iff.2 hp, rfl⟩

/-- An infinite port has no answer. -/
example : get? ⟨some ⟨"[a]\ndriver = \"sql\"\nport = inf\n", .owner⟩⟩ ["sql"] "a"
    = .error (.entry (.form .infinitePort)) := by
  cbv

end Store

end SqlDialect
