/-
  SqlDialect.Proofs.Registry.History
  ────────────────────────────────
  **THE REGISTRY IS A MAP.**

  Whatever is registered and looked up, an id gives the driver that was last
  registered under it, else the one instance of its built-in class:

      (·.entry) <$> (after c builtins history).lookup c id = given c builtins history id

  The instances are numbered by `madeFor`, the built-in ids in the order in
  which they were first asked for.  One call preserves the invariant `Follows`;
  the run is an induction over the calls.
-/
import SqlDialect.Proofs.Settings
import SqlDialect.Registry.Basic

namespace SqlDialect.Registry

/-! ## §1. Calls and the map that they describe. -/

/-- What is asked of a registry. -/
inductive Call where
  | register (id : String) (entry : Registered)
  | lookup (id : String)
  | ids

/-- The id that a call is about, if it is about one. -/
def Call.id? : Call → Option String
  | .register id _ | .lookup id => some id
  | .ids => none

/-- What a call leaves of the registry. -/
def Call.run (c : Catalogue) (r : Registry) : Call → Registry
  | .register id entry => (r.register id (some entry)).1
  | .lookup id => match r.lookup c id with
    | .ok found => found.registry
    | .error _ => r
  | .ids => r

/-- The registry after some calls, the latest first, from its built-in classes
on. -/
def after (c : Catalogue) (builtins : Settings ClassPath) : List Call → Registry
  | [] => { builtins }
  | call :: earlier => call.run c (after c builtins earlier)

/-- The driver last registered under the id. -/
def registeredLast? (id : String) : List Call → Option Registered
  | [] => none
  | .register i entry :: earlier => if i = id then some entry else registeredLast? id earlier
  | _ :: earlier => registeredLast? id earlier

/-- The ids whose built-in drivers have been made, in the order of the lookups
that made them. -/
def madeFor (builtins : Settings ClassPath) : List Call → List String
  | [] => []
  | .lookup id :: earlier =>
      if registeredLast? id earlier = none ∧ id ∈ builtins.keys ∧ id ∉ madeFor builtins earlier
      then madeFor builtins earlier ++ [id]
      else madeFor builtins earlier
  | _ :: earlier => madeFor builtins earlier

/-- What an id gives: the driver last registered, else the instance of the
built-in class, whose number is its place among those that are made. -/
def given (c : Catalogue) (builtins : Settings ClassPath) (history : List Call) (id : String) :
    Except LookupError Registered :=
  match registeredLast? id history, builtins.get? id with
  | some entry, _ => .ok entry
  | none, some path => match c.driverOf path with
    | .ok d => .ok ⟨.made ((madeFor builtins history).idxOf id), d⟩
    | .error e => .error (.notLoaded id e)
  | none, none => .error (.notRegistered id)

/-- Every built-in class makes a driver. -/
def AreLoadable (c : Catalogue) (builtins : Settings ClassPath) : Prop :=
  ∀ id path, builtins.get? id = some path → ∃ d, c.driverOf path = .ok d

variable {c : Catalogue} {builtins : Settings ClassPath} {history later : List Call} {call : Call}
  {id : String}

/-- A registered driver is what its id gives. -/
theorem given_of_registered {entry : Registered}
    (h : registeredLast? id history = some entry) : given c builtins history id = .ok entry := by
  rw [given, h]

/-- Without a registered driver an id gives its built-in one. -/
theorem given_of_builtin {path : ClassPath} {d : Driver} (h : registeredLast? id history = none)
    (hpath : builtins.get? id = some path) (hd : c.driverOf path = .ok d) :
    given c builtins history id = .ok ⟨.made ((madeFor builtins history).idxOf id), d⟩ := by
  simp only [given, h, hpath, hd]

/-- An id that is neither registered nor built in gives nothing. -/
theorem given_of_unknown (h : registeredLast? id history = none) (hid : id ∉ builtins.keys) :
    given c builtins history id = .error (.notRegistered id) := by
  rw [given, h, Settings.get?_eq_none_iff.2 hid]

/-- A call about another id registers nothing under this one. -/
theorem registeredLast?_of_ne (h : call.id? ≠ some id) :
    registeredLast? id (call :: history) = registeredLast? id history := by
  cases call with
  | register i entry => exact if_neg fun hi => h (congrArg some hi)
  | lookup i => rfl
  | ids => rfl

/-- Calls that do not register the id do not count. -/
theorem registeredLast?_append (h : ∀ entry, .register id entry ∉ later) :
    registeredLast? id (later ++ history) = registeredLast? id history := by
  induction later with
  | nil => rfl
  | cons call later ih =>
      rw [← ih fun entry hmem => h entry (List.mem_cons_of_mem call hmem)]
      cases call with
      | register i entry =>
          refine if_neg ?_
          rintro rfl
          exact h entry (List.mem_cons_self ..)
      | lookup i => rfl
      | ids => rfl

/-! ## §2. The drivers that have been made. -/

/-- Only a lookup makes a driver. -/
theorem madeFor_cons (builtins : Settings ClassPath) (history : List Call) (call : Call) :
    madeFor builtins (call :: history) = madeFor builtins history ∨
    ∃ id, call = .lookup id ∧ registeredLast? id history = none ∧ id ∈ builtins.keys ∧
      id ∉ madeFor builtins history ∧
      madeFor builtins (call :: history) = madeFor builtins history ++ [id] := by
  cases call with
  | register i entry => exact .inl rfl
  | ids => exact .inl rfl
  | lookup i =>
      by_cases h : registeredLast? i history = none ∧ i ∈ builtins.keys ∧
          i ∉ madeFor builtins history
      · exact .inr ⟨i, rfl, h.1, h.2.1, h.2.2, if_pos h⟩
      · exact .inl (if_neg h)

/-- What has been made stays in its place. -/
theorem madeFor_stays (builtins : Settings ClassPath) (history later : List Call) :
    madeFor builtins history <+: madeFor builtins (later ++ history) := by
  induction later with
  | nil => exact List.prefix_rfl
  | cons call later ih =>
      refine ih.trans ?_
      rw [List.cons_append]
      obtain h | ⟨i, -, -, -, -, h⟩ := madeFor_cons builtins (later ++ history) call
      · exact ⟨[], by rw [List.append_nil, h]⟩
      · exact ⟨[i], h.symm⟩

/-- Drivers are made for built-in ids only. -/
theorem mem_keys_of_mem_madeFor (h : id ∈ madeFor builtins history) : id ∈ builtins.keys := by
  induction history with
  | nil => exact absurd h List.not_mem_nil
  | cons call history ih =>
      obtain hsame | ⟨i, -, -, hi, -, hmade⟩ := madeFor_cons builtins history call
      · exact ih (hsame ▸ h)
      · rw [hmade, List.mem_append, List.mem_singleton] at h
        obtain hold | rfl := h
        · exact ih hold
        · exact hi

/-- A built-in driver that nothing is registered over has been made once it is
asked for. -/
theorem mem_madeFor_lookup (h : registeredLast? id history = none) (hid : id ∈ builtins.keys) :
    id ∈ madeFor builtins (.lookup id :: history) := by
  by_cases hmem : id ∈ madeFor builtins history
  · exact (madeFor_stays builtins history [.lookup id]).mem hmem
  · have hmade : madeFor builtins (.lookup id :: history) = madeFor builtins history ++ [id] :=
      if_pos ⟨h, hid, hmem⟩
    rw [hmade]
    exact List.mem_append_right _ (List.mem_singleton_self id)

/-- Asking for a driver does not change its number: a new one has the next. -/
theorem idxOf_madeFor_lookup (builtins : Settings ClassPath) (history : List Call) (id : String) :
    (madeFor builtins (.lookup id :: history)).idxOf id = (madeFor builtins history).idxOf id := by
  obtain hsame | ⟨i, hi, -, -, hnot, hmade⟩ := madeFor_cons builtins history (.lookup id)
  · rw [hsame]
  · obtain rfl := Call.lookup.inj hi
    rw [hmade, List.idxOf_append, if_neg hnot, List.idxOf_eq_length hnot]
    simp

/-- **A driver that has been given is given again**, until one is registered
under its id. -/
theorem given_append_lookup (c : Catalogue) (builtins : Settings ClassPath) (history : List Call)
    (h : ∀ entry, .register id entry ∉ later) :
    given c builtins (later ++ .lookup id :: history) id = given c builtins history id := by
  have hlast : registeredLast? id (later ++ .lookup id :: history)
      = registeredLast? id history := registeredLast?_append h
  cases hentry : registeredLast? id history with
  | some entry => rw [given_of_registered (hlast.trans hentry), given_of_registered hentry]
  | none =>
      by_cases hid : id ∈ builtins.keys
      · -- its number is kept as what is made later comes behind it
        obtain ⟨new, hnew⟩ := madeFor_stays builtins (.lookup id :: history) later
        have hplace : (madeFor builtins (later ++ .lookup id :: history)).idxOf id
            = (madeFor builtins history).idxOf id := by
          rw [← hnew, List.idxOf_append_of_mem (mem_madeFor_lookup hentry hid),
            idxOf_madeFor_lookup]
        rw [given, given, hlast, hplace]
      · rw [given_of_unknown (hlast.trans hentry) hid, given_of_unknown hentry hid]

/-- What an id gives is of the same class whatever is asked about others. -/
theorem driver_given_of_ne (c : Catalogue) (builtins : Settings ClassPath) (history : List Call)
    (h : call.id? ≠ some id) :
    (·.driver) <$> given c builtins (call :: history) id
      = (·.driver) <$> given c builtins history id := by
  rw [given, given, registeredLast?_of_ne h]
  cases registeredLast? id history with
  | some entry => rfl
  | none =>
      cases builtins.get? id with
      | none => rfl
      | some path =>
          show _ <$> (match c.driverOf path with | .ok d => _ | .error e => _)
            = _ <$> (match c.driverOf path with | .ok d => _ | .error e => _)
          cases c.driverOf path <;> rfl

/-! ## §3. The table. -/

/-- The driver that the table holds for an id: one that is registered or made. -/
def kept? (c : Catalogue) (builtins : Settings ClassPath) (history : List Call) (id : String) :
    Option Registered :=
  if registeredLast? id history ≠ none ∨ id ∈ madeFor builtins history then
    (given c builtins history id).toOption
  else none

/-- The registry is as the calls tell. -/
structure Follows (c : Catalogue) (builtins : Settings ClassPath) (history : List Call)
    (r : Registry) : Prop where
  classes : r.builtins = builtins
  made : r.made = (madeFor builtins history).length
  table : ∀ id, r.table.get? id = (kept? c builtins history id).map some

variable {r : Registry}

/-- What is registered or built in is given. -/
theorem exists_given (hload : AreLoadable c builtins)
    (h : registeredLast? id history ≠ none ∨ id ∈ builtins.keys) :
    ∃ entry, given c builtins history id = .ok entry := by
  cases hentry : registeredLast? id history with
  | some entry => exact ⟨entry, given_of_registered hentry⟩
  | none =>
      have hid : id ∈ builtins.keys := h.resolve_left fun hne => hne hentry
      obtain ⟨path, hpath⟩ := Option.isSome_iff_exists.1 (Settings.get?_isSome_iff.2 hid)
      obtain ⟨d, hd⟩ := hload id path hpath
      exact ⟨_, given_of_builtin hentry hpath hd⟩

/-- The table holds a driver exactly for the ids that are registered or made. -/
theorem isSome_kept?_iff (hload : AreLoadable c builtins) :
    (kept? c builtins history id).isSome = true ↔
      registeredLast? id history ≠ none ∨ id ∈ madeFor builtins history := by
  by_cases h : registeredLast? id history ≠ none ∨ id ∈ madeFor builtins history
  · obtain ⟨entry, hentry⟩ := exists_given hload (h.imp_right mem_keys_of_mem_madeFor)
    rw [kept?, if_pos h, hentry]
    exact iff_of_true rfl h
  · rw [kept?, if_neg h]
    exact iff_of_false nofun h

/-- A registry that follows the calls holds what they keep. -/
theorem registered?_of_follows (h : Follows c builtins history r) (id : String) :
    r.registered? id = kept? c builtins history id := by
  rw [registered?, h.table]
  cases kept? c builtins history id <;> rfl

/-- A call about another id leaves what the table holds for this one. -/
theorem kept?_of_ne (h : call.id? ≠ some id) :
    kept? c builtins (call :: history) id = kept? c builtins history id := by
  have hlast : registeredLast? id (call :: history) = registeredLast? id history :=
    registeredLast?_of_ne h
  obtain hsame | ⟨i, rfl, -, -, -, hmade⟩ := madeFor_cons builtins history call
  · rw [kept?, kept?, given, given, hlast, hsame]
  · have hne : id ≠ i := fun hi => h (congrArg some hi.symm)
    have hmem : id ∈ madeFor builtins (.lookup i :: history) ↔ id ∈ madeFor builtins history := by
      simp [hmade, hne]
    simp only [kept?, hlast, hmem]
    split
    next hkept =>
      -- a driver in the table is registered, or keeps its number
      cases hentry : registeredLast? id history with
      | some entry => rw [given_of_registered (hlast.trans hentry), given_of_registered hentry]
      | none =>
          have hin : id ∈ madeFor builtins history := hkept.resolve_left fun hne => hne hentry
          rw [given, given, hlast, hmade, List.idxOf_append_of_mem hin]
    next => rfl

/-! ## §4. One call. -/

/-- Registering a driver is followed. -/
theorem Follows.register (h : Follows c builtins history r) (id : String) (entry : Registered) :
    Follows c builtins (.register id entry :: history) (r.register id (some entry)).1 where
  classes := h.classes
  made := h.made
  table other := by
    show (r.table.insert id (some entry)).get? other = _
    rw [Settings.get?_insert]
    by_cases hother : id = other
    · subst hother
      have hlast : registeredLast? id (.register id entry :: history) = some entry := if_pos rfl
      rw [if_pos rfl, kept?, hlast, if_pos (.inl (Option.some_ne_none entry)),
        given_of_registered hlast]
      rfl
    · rw [if_neg hother, h.table, kept?_of_ne]
      exact fun hid => hother (Option.some.inj hid)

/-- A lookup that makes no driver leaves the registry as it is. -/
theorem Follows.lookup_same (h : Follows c builtins history r)
    (hsame : madeFor builtins (.lookup id :: history) = madeFor builtins history) :
    Follows c builtins (.lookup id :: history) r where
  classes := h.classes
  made := by rw [hsame, h.made]
  table other := by
    rw [h.table, kept?, kept?, given, given, hsame]
    rfl

/-- **A lookup gives what the calls tell**, and the registry goes on as they
tell. -/
theorem Follows.lookup (h : Follows c builtins history r) (hload : AreLoadable c builtins)
    (id : String) :
    (·.entry) <$> r.lookup c id = given c builtins history id ∧
      Follows c builtins (.lookup id :: history) (Call.run c r (.lookup id)) := by
  have hregistered := registered?_of_follows h id
  by_cases hkept : registeredLast? id history ≠ none ∨ id ∈ madeFor builtins history
  · -- the table has the driver
    obtain ⟨entry, hgiven⟩ := exists_given hload (hkept.imp_right mem_keys_of_mem_madeFor)
    rw [kept?, if_pos hkept, hgiven] at hregistered
    have hlookup := lookup_of_registered hregistered c
    refine ⟨by rw [hlookup, hgiven]; rfl, ?_⟩
    rw [Call.run, hlookup]
    refine h.lookup_same (if_neg ?_)
    rintro ⟨hnone, -, hnot⟩
    exact hkept.elim (· hnone) hnot
  · obtain ⟨hnone, hnot⟩ := not_or.1 hkept
    rw [not_not] at hnone
    rw [kept?, if_neg hkept] at hregistered
    by_cases hid : id ∈ builtins.keys
    · -- the driver is made and kept
      obtain ⟨path, hpath⟩ := Option.isSome_iff_exists.1 (Settings.get?_isSome_iff.2 hid)
      obtain ⟨d, hd⟩ := hload id path hpath
      have hlookup : r.lookup c id = .ok ⟨⟨.made r.made, d⟩,
          { r with table := r.table.insert id (some ⟨.made r.made, d⟩), made := r.made + 1 },
          [note "Loaded built-in" id]⟩ := by
        simp only [Registry.lookup, hregistered, h.classes, hpath, load, hd]
      have hnew : madeFor builtins (.lookup id :: history) = madeFor builtins history ++ [id] :=
        if_pos ⟨hnone, hid, hnot⟩
      have hgiven := given_of_builtin hnone hpath hd
      have hnumber : (madeFor builtins history).idxOf id = r.made := by
        rw [h.made, List.idxOf_eq_length hnot]
      refine ⟨by rw [hlookup, hgiven, hnumber]; rfl, ?_⟩
      rw [Call.run, hlookup]
      refine ⟨h.classes, ?_, fun other => ?_⟩
      · rw [hnew, List.length_append, ← h.made]
        rfl
      · show (r.table.insert id _).get? other = _
        rw [Settings.get?_insert]
        by_cases hother : id = other
        · subst hother
          have hagain : given c builtins (.lookup id :: history) id = given c builtins history id :=
            given_append_lookup c builtins history (fun _ => List.not_mem_nil : ∀ entry,
              Call.register id entry ∉ [])
          rw [if_pos rfl, kept?, if_pos (.inr (mem_madeFor_lookup hnone hid)), hagain, hgiven,
            hnumber]
          rfl
        · rw [if_neg hother, h.table, kept?_of_ne]
          exact fun hi => hother (Option.some.inj hi)
    · -- nobody knows the id
      have hlookup : r.lookup c id = .error (.notRegistered id) := by
        simp only [Registry.lookup, hregistered, h.classes, Settings.get?_eq_none_iff.2 hid]
      refine ⟨by rw [hlookup, given_of_unknown hnone hid]; rfl, ?_⟩
      rw [Call.run, hlookup]
      exact h.lookup_same (if_neg fun hmade => hid hmade.2.1)

/-- **Every history leaves a registry that follows it.** -/
theorem follows_after (hload : AreLoadable c builtins) :
    ∀ history : List Call, Follows c builtins history (after c builtins history)
  | [] => ⟨rfl, rfl, fun _ => rfl⟩
  | .register id entry :: earlier => (follows_after hload earlier).register id entry
  | .lookup id :: earlier => ((follows_after hload earlier).lookup hload id).2
  | .ids :: earlier => by
      have h := follows_after hload earlier
      exact ⟨h.classes, h.made, h.table⟩

/-! ## §5. Ids. -/

/-- Without duplicates nothing is listed twice. -/
theorem nodup_eraseDups {α : Type} [BEq α] [LawfulBEq α] :
    ∀ xs : List α, xs.eraseDups.Nodup
  | [] => List.nodup_nil
  | x :: xs => by
      rw [List.eraseDups_cons, List.nodup_cons, List.mem_eraseDups]
      exact ⟨by simp, nodup_eraseDups _⟩
termination_by xs => xs.length
decreasing_by exact Nat.lt_succ_of_le (List.length_filter_le ..)

/-- An id is listed if it is in the table or built in. -/
theorem mem_ids (r : Registry) (id : String) :
    id ∈ r.ids ↔ id ∈ r.table.keys ∨ id ∈ r.builtins.keys := by
  rw [ids, List.mem_mergeSort, List.mem_eraseDups, List.mem_append]

/-- The ids are in order, and none is there twice. -/
theorem pairwise_lt_ids (r : Registry) : r.ids.Pairwise (· < ·) := by
  have htrans : ∀ a b c : String, decide (a ≤ b) = true → decide (b ≤ c) = true →
      decide (a ≤ c) = true := fun a b c hab hbc =>
    decide_eq_true (String.le_trans (of_decide_eq_true hab) (of_decide_eq_true hbc))
  have htotal : ∀ a b : String, (decide (a ≤ b) || decide (b ≤ a)) = true := fun a b => by
    simpa only [Bool.or_eq_true, decide_eq_true_eq] using String.le_total a b
  have hle : r.ids.Pairwise fun a b => decide (a ≤ b) = true :=
    List.pairwise_mergeSort htrans htotal _
  have hne : r.ids.Nodup := (List.mergeSort_perm _ _).nodup_iff.2 (nodup_eraseDups _)
  refine (hle.and hne).imp fun {a b} h => ?_
  rw [← String.not_le]
  exact fun hba => h.2 (String.le_antisymm (of_decide_eq_true h.1) hba)

/-- Registries with the same ids list them alike. -/
theorem ids_eq_of_mem_iff {r r' : Registry} (h : ∀ id, id ∈ r.ids ↔ id ∈ r'.ids) :
    r.ids = r'.ids := by
  have hnodup : ∀ r : Registry, r.ids.Nodup := fun r => by
    refine List.Pairwise.imp ?_ (pairwise_lt_ids r)
    rintro a _ hlt rfl
    exact String.lt_irrefl a hlt
  refine List.Perm.eq_of_pairwise (fun a b _ _ hab hba => ?_) (pairwise_lt_ids r)
    (pairwise_lt_ids r') ((List.perm_ext_iff_of_nodup (hnodup r) (hnodup r')).2 h)
  exact absurd (String.lt_trans hab hba) (String.lt_irrefl a)

/-- The ids that are listed are those that the calls registered and the built-in
ones. -/
theorem mem_ids_of_follows (hload : AreLoadable c builtins) (h : Follows c builtins history r) :
    id ∈ r.ids ↔ registeredLast? id history ≠ none ∨ id ∈ builtins.keys := by
  rw [mem_ids, h.classes, ← Settings.get?_isSome_iff, h.table, Option.isSome_map,
    isSome_kept?_iff hload, or_assoc]
  exact or_congr_right (or_iff_right_of_imp mem_keys_of_mem_madeFor)

/-! ## §6. The map. -/

/-- What a lookup answers after some calls. -/
def answer (c : Catalogue) (builtins : Settings ClassPath) (history : List Call) (id : String) :
    Except LookupError Registered :=
  (·.entry) <$> (after c builtins history).lookup c id

/-- What a lookup answers is what the calls give. -/
theorem answer_eq_given (hload : AreLoadable c builtins) (history : List Call) (id : String) :
    answer c builtins history id = given c builtins history id :=
  ((follows_after hload history).lookup hload id).1

/-- Only an id that is neither registered nor built in is unknown. -/
theorem given_eq_notRegistered_iff (hload : AreLoadable c builtins) :
    given c builtins history id = .error (.notRegistered id) ↔
      ¬ (registeredLast? id history ≠ none ∨ id ∈ builtins.keys) := by
  constructor
  · intro hunknown hknown
    obtain ⟨entry, hentry⟩ := exists_given hload hknown
    exact absurd (hentry.symm.trans hunknown) nofun
  · intro hunknown
    obtain ⟨hnone, hid⟩ := not_or.1 hunknown
    exact given_of_unknown (not_not.1 hnone) hid

/-- Two built-in drivers are never one, even of one class. -/
theorem origin_ne_of_ne {other : String} {entry entry' : Registered} (hne : id ≠ other)
    (hid : registeredLast? id history = none) (hother : registeredLast? other history = none)
    (hentry : given c builtins history id = .ok entry)
    (hentry' : given c builtins (.lookup id :: history) other = .ok entry') :
    entry.origin ≠ entry'.origin := by
  -- the number of a built-in driver is its place among those that are made
  have hnumber : ∀ {calls name e}, registeredLast? name calls = none →
      given c builtins calls name = .ok e →
      name ∈ builtins.keys ∧ e.origin = .made ((madeFor builtins calls).idxOf name) := by
    intro calls name e hnone hgiven
    cases hpath : builtins.get? name with
    | none =>
        rw [given_of_unknown hnone (Settings.get?_eq_none_iff.1 hpath)] at hgiven
        exact absurd hgiven nofun
    | some path =>
        refine ⟨Settings.get?_isSome_iff.1 (by rw [hpath]; rfl), ?_⟩
        simp only [given, hnone, hpath] at hgiven
        cases hd : c.driverOf path with
        | error reason =>
            rw [hd] at hgiven
            exact absurd hgiven nofun
        | ok d =>
            rw [hd] at hgiven
            rw [← Except.ok.inj hgiven]
  obtain ⟨hkey, horigin⟩ := hnumber hid hentry
  have hother' : registeredLast? other (.lookup id :: history) = none := hother
  obtain ⟨-, horigin'⟩ := hnumber hother' hentry'
  rw [horigin, horigin', ← idxOf_madeFor_lookup]
  intro hsame
  exact hne ((List.idxOf_inj (mem_madeFor_lookup hid hkey)).1 (Origin.made.inj hsame))

/-- **The registry is a map.**  After any calls a lookup answers with the driver
last registered under the id, else with the one instance of its built-in class,
else that the id is not registered.  An answer stays until a driver is
registered under the id, and the instances of two ids are two.  The ids are
those that are registered or built in, each once and in order; lookups leave
them alone, and just the other ids are answered with not registered.  A lookup
replaces no registered driver, and a call about another id changes neither what
is kept under this one nor the class that it answers with. -/
theorem registry_is_map (hload : AreLoadable c builtins) (history : List Call) :
    (∀ id, answer c builtins history id = given c builtins history id) ∧
    (∀ id later, (∀ entry, .register id entry ∉ later) →
      answer c builtins (later ++ .lookup id :: history) id = answer c builtins history id) ∧
    (∀ id other entry entry', id ≠ other → registeredLast? id history = none →
      registeredLast? other history = none → answer c builtins history id = .ok entry →
      answer c builtins (.lookup id :: history) other = .ok entry' →
        entry.origin ≠ entry'.origin) ∧
    (after c builtins history).ids.Pairwise (· < ·) ∧
    (∀ id, id ∈ (after c builtins history).ids ↔
      registeredLast? id history ≠ none ∨ id ∈ builtins.keys) ∧
    (∀ id, (after c builtins (.lookup id :: history)).ids = (after c builtins history).ids) ∧
    (∀ id, id ∈ (after c builtins history).ids ↔
      answer c builtins history id ≠ .error (.notRegistered id)) ∧
    (∀ id other entry, registeredLast? id history = some entry →
      answer c builtins (.lookup other :: history) id = .ok entry) ∧
    ∀ call id, call.id? ≠ some id →
      (after c builtins (call :: history)).registered? id
          = (after c builtins history).registered? id ∧
        (·.driver) <$> answer c builtins (call :: history) id
          = (·.driver) <$> answer c builtins history id := by
  -- by induction on the calls the table is the one that they tell
  have hfollows := follows_after hload
  have hids : ∀ calls id, id ∈ (after c builtins calls).ids ↔
      registeredLast? id calls ≠ none ∨ id ∈ builtins.keys := fun calls id =>
    mem_ids_of_follows hload (hfollows calls)
  refine ⟨answer_eq_given hload history, fun id later hlater => ?_,
    fun id other entry entry' hne hid hother hentry hentry' => ?_, pairwise_lt_ids _,
    hids history, fun id => ?_, fun id => ?_, fun id other entry hentry => ?_,
    fun call id hother => ⟨?_, ?_⟩⟩
  · rw [answer_eq_given hload, answer_eq_given hload, given_append_lookup _ _ _ hlater]
  · rw [answer_eq_given hload] at hentry hentry'
    exact origin_ne_of_ne hne hid hother hentry hentry'
  · exact ids_eq_of_mem_iff fun name => by rw [hids, hids]; rfl
  · rw [hids, answer_eq_given hload, ← not_iff_not, not_not]
    exact (given_eq_notRegistered_iff hload).symm
  · rw [answer_eq_given hload]
    exact given_of_registered hentry
  · rw [registered?_of_follows (hfollows _), registered?_of_follows (hfollows _),
      kept?_of_ne hother]
  · rw [answer_eq_given hload, answer_eq_given hload, driver_given_of_ne _ _ _ hother]

/-- The class of the generic driver loads. -/
theorem driverOf_standard :
    Catalogue.standard.driverOf ⟨"dbdialects.drivers.generic", "GenericSQLDriver"⟩
      = .ok .standard := by
  have hdot : "dbdialects.drivers.generic".startsWith "." = false := by simp
  simp only [Catalogue.driverOf, Catalogue.standard, hdot]
  rfl

/-- The class of the HANA driver loads. -/
theorem driverOf_hana :
    Catalogue.standard.driverOf ⟨"dbdialects.drivers.hana", "HanaDriver"⟩ = .ok .hana := by
  have hdot : "dbdialects.drivers.hana".startsWith "." = false := by simp
  simp only [Catalogue.driverOf, Catalogue.standard, hdot]
  rfl

/-- The class of the DuckDB driver loads. -/
theorem driverOf_duckdb :
    Catalogue.standard.driverOf ⟨"dbdialects.drivers.duckdb", "DuckDBDriver"⟩ = .ok .duckdb := by
  have hdot : "dbdialects.drivers.duckdb".startsWith "." = false := by simp
  simp only [Catalogue.driverOf, Catalogue.standard, hdot]
  rfl

/-- Every built-in class loads. -/
theorem areLoadable_standard : AreLoadable .standard standard.builtins := by
  intro id path h
  have hmem := Settings.get?_eq_some_iff.1 h
  rcases hmem with _ | ⟨_, _ | ⟨_, _ | ⟨_, ⟨⟩⟩⟩⟩
  · exact ⟨.standard, driverOf_standard⟩
  · exact ⟨.hana, driverOf_hana⟩
  · exact ⟨.duckdb, driverOf_duckdb⟩

/-- A driver registered over a built-in one counts, and those made are numbered
in the order in which they were first asked for. -/
theorem registry_is_map_standard :
    let entry : Registered := ⟨.supplied "mine", .duckdb⟩
    let history : List Call :=
      [.lookup "sql", .register "sql" entry, .lookup "hana", .lookup "sql"]
    AreLoadable .standard standard.builtins ∧
    answer .standard standard.builtins history "sql" = .ok entry ∧
    answer .standard standard.builtins history "hana" = .ok ⟨.made 1, .hana⟩ ∧
    answer .standard standard.builtins history "oracle" = .error (.notRegistered "oracle") ∧
    "hana" ∈ (after .standard standard.builtins history).ids := by
  intro entry history
  obtain ⟨hanswer, -, -, -, hids, -⟩ := registry_is_map areLoadable_standard history
  refine ⟨areLoadable_standard, (hanswer "sql").trans rfl, ?_, (hanswer "oracle").trans rfl,
    (hids "hana").2 (.inr (by decide))⟩
  rw [hanswer]
  exact given_of_builtin rfl rfl driverOf_hana

end SqlDialect.Registry
