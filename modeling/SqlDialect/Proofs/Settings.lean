/-
  SqlDialect.Proofs.Settings
  ────────────────────────────────
  **THEORY OF SETTINGS.**

  Settings are their entries: a key has the value that stands beside it, a
  new key goes to the end, and pairs under distinct keys are the entries of
  the settings that they make:

      (pairs.map (·.1)).Nodup → (ofList pairs).entries = pairs
-/
import Mathlib.Data.List.Induction
import Mathlib.Data.List.Nodup
import SqlDialect.Settings

namespace SqlDialect

/-! ## §1. Entries under a key test. -/

namespace Entries

variable {κ α : Type} {same : κ → κ → Bool}

/-- The first of two lists answers, and the second one where it has no such key. -/
theorem get?_append (k : κ) (es es' : List (κ × α)) :
    get? same k (es ++ es') = (get? same k es).or (get? same k es') := by
  induction es with
  | nil => rfl
  | cons e es ih =>
      rw [List.cons_append, get?, get?, ih]
      split <;> rfl

/-- A new key goes to the end. -/
theorem insert_of_get?_eq_none {k : κ} (v : α) {es : List (κ × α)}
    (h : get? same k es = none) : insert same k v es = es ++ [(k, v)] := by
  induction es with
  | nil => rfl
  | cons e es ih =>
      rw [get?] at h
      split at h
      next => exact absurd h (Option.some_ne_none _)
      next hne => rw [insert, if_neg hne, ih h, List.cons_append]

/-- The value of the last key is replaced. -/
theorem insert_append_self {k : κ} (hk : same k k = true) (v w : α) {es : List (κ × α)}
    (h : get? same k es = none) :
    insert same k v (es ++ [(k, w)]) = es ++ [(k, v)] := by
  induction es with
  | nil => exact if_pos hk
  | cons e es ih =>
      rw [get?] at h
      split at h
      next => exact absurd h (Option.some_ne_none _)
      next hne => rw [List.cons_append, insert, if_neg hne, ih h, List.cons_append]

/-- A key is not found exactly if no entry has it. -/
theorem get?_sameKey_eq_none_iff {k : String} {es : List (String × α)} :
    get? sameKey k es = none ↔ k ∉ es.map (·.1) := by
  induction es with
  | nil => simp [get?]
  | cons e es ih =>
      by_cases he : e.1 = k
      · simp [get?, sameKey, he]
      · simp [get?, sameKey, he, ih, Ne.symm he]

/-- A present key keeps its place and takes its value. -/
theorem insert_of_mem {k : String} (v : α) {es : List (String × α)}
    (hnd : (es.map (·.1)).Nodup) (h : k ∈ es.map (·.1)) :
    insert sameKey k v es = es.map fun e => if e.1 = k then (k, v) else e := by
  induction es with
  | nil => exact absurd h (by simp)
  | cons e es ih =>
      rw [List.map_cons, List.nodup_cons] at hnd
      by_cases he : e.1 = k
      · subst he
        have hrest : es.map (fun x => if x.1 = e.1 then (e.1, v) else x) = es := by
          refine (List.map_congr_left fun x hx => if_neg ?_).trans (List.map_id es)
          intro hxe
          exact hnd.1 (hxe ▸ List.mem_map_of_mem hx)
        simp [insert, sameKey, hrest]
      · have hmem : k ∈ es.map (·.1) := by simpa [Ne.symm he] using h
        simp [insert, sameKey, he, ih hnd.2 hmem]

variable {κ' β : Type} (same) (same' : κ' → κ' → Bool) {g : κ → κ'} {f : κ → α → β}

/-- Where keys are respelled, the same keys have the respelled entries. -/
theorem get?_map (hg : ∀ a b, same' (g a) (g b) = same a b)
    (hf : ∀ a b, same a b = true → f a = f b) (k : κ) (es : List (κ × α)) :
    get? same' (g k) (es.map fun e => (g e.1, f e.1 e.2)) = (get? same k es).map (f k) := by
  induction es with
  | nil => rfl
  | cons e es ih =>
      rw [List.map_cons, get?, get?, ih, hg]
      split
      next he => rw [hf e.1 k he, Option.map_some]
      next => rfl

/-- Renaming the keys and changing the values commutes with setting an entry. -/
theorem map_insert (hg : ∀ a b, same' (g a) (g b) = same a b)
    (hf : ∀ a b, same a b = true → f a = f b) (k : κ) (v : α) (es : List (κ × α)) :
    (insert same k v es).map (fun e => (g e.1, f e.1 e.2))
      = insert same' (g k) (f k v) (es.map fun e => (g e.1, f e.1 e.2)) := by
  induction es with
  | nil => rfl
  | cons e es ih =>
      rw [List.map_cons, insert, insert, hg]
      split
      next he => rw [List.map_cons, hf e.1 k he]
      next => rw [List.map_cons, ih]

end Entries

/-! ## §2. Settings. -/

namespace Settings

variable {α β : Type}

/-- A name without a value is no key. -/
theorem get?_eq_none_iff {s : Settings α} {k : String} : s.get? k = none ↔ k ∉ s.keys :=
  Entries.get?_sameKey_eq_none_iff

/-- A name with a value is a key. -/
theorem get?_isSome_iff {s : Settings α} {k : String} :
    (s.get? k).isSome = true ↔ k ∈ s.keys := by
  rw [Option.isSome_iff_ne_none, ne_eq, get?_eq_none_iff, not_not]

/-- A name is contained exactly if it has a value. -/
theorem contains_eq_isSome (s : Settings α) (k : String) :
    s.contains k = (s.get? k).isSome := by
  rw [Bool.eq_iff_iff, get?_isSome_iff, contains, List.contains_iff_mem]

/-- A key has the value that stands beside it. -/
theorem get?_eq_some_iff {s : Settings α} {k : String} {v : α} :
    s.get? k = some v ↔ (k, v) ∈ s.entries := by
  obtain ⟨es, hnd⟩ := s
  show Entries.get? sameKey k es = some v ↔ (k, v) ∈ es
  induction es with
  | nil => simp [Entries.get?]
  | cons e es ih =>
      obtain ⟨k', v'⟩ := e
      rw [List.map_cons, List.nodup_cons] at hnd
      by_cases hk : k' = k
      · subst hk
        have hnot : (k', v) ∉ es := fun hmem =>
          hnd.1 (List.mem_map.2 ⟨_, hmem, rfl⟩)
        simp [Entries.get?, sameKey, hnot, eq_comm]
      · have hne : ¬ k = k' := fun h => hk h.symm
        simp [Entries.get?, sameKey, hk, hne, ih hnd.2]

/-- **Settings in another order have the same values**, and only they do. -/
theorem perm_iff {s t : Settings α} :
    s.entries.Perm t.entries ↔ ∀ k, s.get? k = t.get? k := by
  rw [List.perm_ext_iff_of_nodup (List.Nodup.of_map _ s.nodup) (List.Nodup.of_map _ t.nodup)]
  constructor
  · intro h k
    refine Option.ext fun v => ?_
    rw [get?_eq_some_iff, get?_eq_some_iff]
    exact h (k, v)
  · rintro h ⟨k, v⟩
    rw [← get?_eq_some_iff, ← get?_eq_some_iff, h]

/-- New keys go to the end in their order. -/
theorem overlay_of_disjoint : ∀ (pairs : List (String × α)) (s : Settings α),
    (pairs.map (·.1)).Nodup → (∀ k ∈ pairs.map (·.1), k ∉ s.keys) →
      (s.overlay pairs).entries = s.entries ++ pairs
  | [], s, _, _ => (List.append_nil s.entries).symm
  | p :: pairs, s, hnd, hdis => by
      rw [List.map_cons, List.nodup_cons] at hnd
      have hp : p.1 ∉ s.keys := hdis p.1 (by simp)
      have hins : (s.insert p.1 p.2).entries = s.entries ++ [p] :=
        Entries.insert_of_get?_eq_none p.2 (get?_eq_none_iff.2 hp)
      rw [overlay_cons, overlay_of_disjoint pairs (s.insert p.1 p.2) hnd.2, hins,
        List.append_assoc, List.singleton_append]
      intro k hk
      rw [keys_insert, if_neg hp, List.mem_append, List.mem_singleton, not_or]
      exact ⟨hdis k (by simp [List.mem_map.1 hk]), fun h => hnd.1 (h ▸ hk)⟩

/-- **Pairs under distinct keys are the entries of their settings.** -/
theorem entries_ofList {pairs : List (String × α)} (h : (pairs.map (·.1)).Nodup) :
    (ofList pairs).entries = pairs :=
  overlay_of_disjoint pairs empty h fun _ _ => by simp

/-- Settings are the list of their entries. -/
theorem ofList_entries (s : Settings α) : ofList s.entries = s :=
  Settings.ext (entries_ofList s.nodup)

/-- Laying two lists over settings is laying one after the other. -/
theorem overlay_append (s : Settings α) (ps qs : List (String × α)) :
    s.overlay (ps ++ qs) = (s.overlay ps).overlay qs :=
  List.foldl_append

/-- The keys of an overlay are those of both. -/
theorem mem_keys_overlay {k : String} : ∀ (pairs : List (String × α)) (s : Settings α),
    k ∈ (s.overlay pairs).keys ↔ k ∈ s.keys ∨ k ∈ pairs.map (·.1)
  | [], s => by simp
  | p :: pairs, s => by
      have hinsert : k ∈ (s.insert p.1 p.2).keys ↔ k ∈ s.keys ∨ k = p.1 := by
        rw [keys_insert]
        split
        next hp => exact ⟨.inl, fun h => h.elim id fun hk => hk ▸ hp⟩
        next => rw [List.mem_append, List.mem_singleton]
      rw [overlay_cons, mem_keys_overlay pairs, hinsert, List.map_cons, List.mem_cons, or_assoc]

/-- A pair at the end is the last one under its key. -/
theorem last_append_singleton_iff {pairs : List (String × α)} {p : String × α} {k : String}
    {v : α} :
    (∃ front back, pairs ++ [p] = front ++ (k, v) :: back ∧ k ∉ back.map (·.1)) ↔
      p = (k, v) ∨ p.1 ≠ k ∧
        ∃ front back, pairs = front ++ (k, v) :: back ∧ k ∉ back.map (·.1) := by
  constructor
  · rintro ⟨front, back, hpairs, hback⟩
    -- the added pair is the one, or the last of those behind it
    obtain rfl | ⟨back, q, rfl⟩ := List.eq_nil_or_concat back
    · obtain ⟨-, hp⟩ := List.append_inj' hpairs rfl
      exact .inl (List.singleton_inj.1 hp)
    · rw [List.concat_eq_append, ← List.cons_append, ← List.append_assoc] at hpairs
      obtain ⟨rfl, hp⟩ := List.append_inj' hpairs rfl
      obtain rfl := List.singleton_inj.1 hp
      rw [List.concat_eq_append, List.map_append, List.mem_append, not_or] at hback
      exact .inr ⟨fun hk => hback.2 (by simp [hk]), front, back, rfl, hback.1⟩
  · rintro (rfl | ⟨hk, front, back, rfl, hback⟩)
    · exact ⟨pairs, [], rfl, List.not_mem_nil⟩
    · refine ⟨front, back ++ [p], by simp, ?_⟩
      rw [List.map_append, List.mem_append, not_or]
      exact ⟨hback, by simpa using hk.symm⟩

/-- **Of the pairs under a key the last one counts.** -/
theorem get?_ofList_eq_some_iff {pairs : List (String × α)} {k : String} {v : α} :
    (ofList pairs).get? k = some v ↔
      ∃ front back, pairs = front ++ (k, v) :: back ∧ k ∉ back.map (·.1) := by
  induction pairs using List.reverseRecOn with
  | nil =>
      refine iff_of_false nofun ?_
      rintro ⟨front, back, hnil, -⟩
      exact absurd hnil (by simp)
  | append_singleton pairs p ih =>
      have hlast : ofList (pairs ++ [p]) = (ofList pairs).insert p.1 p.2 :=
        overlay_append empty pairs [p]
      rw [hlast, get?_insert, last_append_singleton_iff, ← ih]
      by_cases hk : p.1 = k
      · rw [if_pos hk, Option.some_inj, Prod.ext_iff]
        exact ⟨fun hv => .inl ⟨hk, hv⟩, fun h => h.elim (·.2) fun h => absurd hk h.1⟩
      · rw [if_neg hk]
        exact ⟨fun h => .inr ⟨hk, h⟩, fun h => h.elim (fun h => absurd (h ▸ rfl) hk) (·.2)⟩

/-- What is laid over settings counts first. -/
theorem get?_overlay (s t : Settings α) (k : String) :
    (s.overlay t.entries).get? k = (t.get? k).or (s.get? k) := by
  obtain ⟨es, hnd⟩ := t
  show (s.overlay es).get? k = (Entries.get? sameKey k es).or (s.get? k)
  induction es generalizing s with
  | nil => rfl
  | cons e es ih =>
      rw [List.map_cons, List.nodup_cons] at hnd
      rw [overlay_cons, ih _ hnd.2, get?_insert]
      by_cases he : e.1 = k
      · -- the key stands once among the entries
        have hnone : Entries.get? sameKey k es = none :=
          Entries.get?_sameKey_eq_none_iff.2 (he ▸ hnd.1)
        simp [hnone, Entries.get?, sameKey, he]
      · simp [Entries.get?, sameKey, he]

/-- Keys keep their places and take the values that are given; new keys come
behind them in their order. -/
theorem entries_overlay_pairs : ∀ (pairs : List (String × α)) (s : Settings α),
    (pairs.map (·.1)).Nodup → (s.overlay pairs).entries
      = s.entries.map (fun e => (e.1, (Entries.get? sameKey e.1 pairs).getD e.2))
        ++ pairs.filter fun p => !s.contains p.1
  | [], s, _ => by simp [Entries.get?]
  | p :: pairs, s, h => by
      rw [List.map_cons, List.nodup_cons] at h
      obtain ⟨hp, hpairs⟩ := h
      have hnone : Entries.get? sameKey p.1 pairs = none := Entries.get?_sameKey_eq_none_iff.2 hp
      rw [overlay_cons, entries_overlay_pairs pairs _ hpairs]
      -- a known key keeps its place, and a new one goes to the end
      by_cases hmem : p.1 ∈ s.keys
      · have hentries : (s.insert p.1 p.2).entries
            = s.entries.map fun e => if e.1 = p.1 then (p.1, p.2) else e :=
          Entries.insert_of_mem p.2 s.nodup hmem
        have hkeys : (s.insert p.1 p.2).keys = s.keys := by rw [keys_insert, if_pos hmem]
        have hdrop : ((p :: pairs).filter fun q => !s.contains q.1)
            = pairs.filter fun q => !s.contains q.1 :=
          List.filter_cons_of_neg (by simp [contains, hmem])
        rw [hentries, List.map_map, hdrop]
        refine congrArg₂ (· ++ ·) (List.map_congr_left fun e _ => ?_)
          (List.filter_congr fun q _ => by rw [contains, contains, hkeys])
        by_cases he : e.1 = p.1
        · simp [he, hnone, Entries.get?, sameKey]
        · simp [he, Ne.symm he, Entries.get?, sameKey]
      · have hentries : (s.insert p.1 p.2).entries = s.entries ++ [p] :=
          Entries.insert_of_get?_eq_none p.2 (Entries.get?_sameKey_eq_none_iff.2 hmem)
        have hkeys : (s.insert p.1 p.2).keys = s.keys ++ [p.1] := by rw [keys_insert, if_neg hmem]
        have hkeep : ((p :: pairs).filter fun q => !s.contains q.1)
            = p :: pairs.filter fun q => !s.contains q.1 :=
          List.filter_cons_of_pos (by simp [contains, hmem])
        rw [hentries, List.map_append, hkeep, List.append_assoc]
        refine congrArg₂ (· ++ ·) (List.map_congr_left fun e he => ?_)
          (congrArg₂ List.cons (by simp [hnone]) (List.filter_congr fun q hq => ?_))
        · -- an old key is another one
          have hne : p.1 ≠ e.1 := fun h => hmem (h ▸ List.mem_map_of_mem he)
          simp [hne, Entries.get?, sameKey]
        · have hne : q.1 ≠ p.1 := fun h => hp (h ▸ List.mem_map_of_mem hq)
          simp [contains, hkeys, hne]

/-- The same for settings that are given. -/
theorem entries_overlay (s t : Settings α) : (s.overlay t.entries).entries
    = s.entries.map (fun e => (e.1, (t.get? e.1).getD e.2))
      ++ t.entries.filter fun e => !s.contains e.1 :=
  entries_overlay_pairs t.entries s t.nodup

/-- Settings keep the values of the keys that pass. -/
theorem get?_filterKeys_of_true (s : Settings α) {p : String → Bool} {k : String}
    (h : p k = true) : (s.filterKeys p).get? k = s.get? k := by
  refine Option.ext fun v => ?_
  show (s.filterKeys p).get? k = some v ↔ s.get? k = some v
  rw [get?_eq_some_iff, get?_eq_some_iff]
  exact List.mem_filter.trans (and_iff_left h)

/-- Removing a name leaves every other one. -/
theorem get?_erase_of_ne (s : Settings α) {k k' : String} (h : k' ≠ k) :
    (s.erase k).get? k' = s.get? k' :=
  get?_filterKeys_of_true s (bne_iff_ne.2 h)

/-- A name that was removed has no value. -/
theorem get?_erase_self (s : Settings α) (k : String) : (s.erase k).get? k = none := by
  rw [get?_eq_none_iff]
  intro hmem
  obtain ⟨e, he, hname⟩ := List.mem_map.1 hmem
  exact absurd hname (bne_iff_ne.1 (List.mem_filter.1 he).2)

/-- A key that does not pass may be written before. -/
theorem filterKeys_insert_of_false (s : Settings α) {p : String → Bool} {k : String} (v : α)
    (h : p k = false) : (s.insert k v).filterKeys p = s.filterKeys p := by
  obtain ⟨es, hnd⟩ := s
  refine Settings.ext ?_
  show (Entries.insert sameKey k v es).filter (fun e => p e.1) = es.filter fun e => p e.1
  clear hnd
  induction es with
  | nil => exact List.filter_cons_of_neg (by simp [h])
  | cons e es ih =>
      rw [Entries.insert]
      split
      next hk =>
        obtain rfl : e.1 = k := beq_iff_eq.1 hk
        rw [List.filter_cons_of_neg (by simp [h]), List.filter_cons_of_neg (by simp [h])]
      next => rw [List.filter_cons, List.filter_cons, ih]

/-- Writing the value that a key has changes nothing. -/
theorem insert_of_get?_eq_some {s : Settings α} {k : String} {v : α} (h : s.get? k = some v) :
    s.insert k v = s := by
  obtain ⟨es, hnd⟩ := s
  have hmem := get?_eq_some_iff.1 h
  refine Settings.ext ?_
  show Entries.insert sameKey k v es = es
  rw [Entries.insert_of_mem v hnd (List.mem_map_of_mem hmem)]
  refine (List.map_congr_left fun e he => ?_).trans (List.map_id es)
  by_cases hk : e.1 = k
  · obtain ⟨a, b⟩ := e
    obtain rfl : a = k := hk
    have hb : v = b := Option.some.inj (h.symm.trans (get?_eq_some_iff.2 he))
    rw [if_pos rfl, hb]
    rfl
  · rw [if_neg hk]
    rfl

/-! ## §3. Settings with other values. -/

/-- Changing the values changes what each name gives. -/
theorem get?_mapValues (f : α → β) (s : Settings α) (k : String) :
    (s.mapValues f).get? k = (s.get? k).map f :=
  Entries.get?_map sameKey sameKey (g := id) (f := fun _ => f) (fun _ _ => rfl) (fun _ _ _ => rfl)
    k s.entries

/-- Which names are kept does not depend on their values. -/
theorem filterKeys_mapValues (f : α → β) (s : Settings α) (p : String → Bool) :
    (s.mapValues f).filterKeys p = (s.filterKeys p).mapValues f := by
  refine Settings.ext ?_
  show (s.entries.map _).filter _ = (s.entries.filter _).map _
  rw [List.filter_map]
  rfl

/-- Which name is removed does not depend on its value. -/
theorem erase_mapValues (f : α → β) (s : Settings α) (k : String) :
    (s.mapValues f).erase k = (s.erase k).mapValues f :=
  filterKeys_mapValues f s (· != k)

theorem mapValues_mapValues {γ : Type} (g : β → γ) (f : α → β) (s : Settings α) :
    (s.mapValues f).mapValues g = s.mapValues fun a => g (f a) :=
  Settings.ext (List.map_map ..)

/-- A change that no value notices changes nothing. -/
theorem mapValues_eq_self {s : Settings α} {f : α → α} (h : ∀ e ∈ s.entries, f e.2 = e.2) :
    s.mapValues f = s := by
  refine Settings.ext ((List.map_congr_left fun e he => ?_).trans (List.map_id s.entries))
  exact Prod.ext rfl (h e he)

/-- A value may be changed before it is set. -/
theorem mapValues_insert (f : α → β) (s : Settings α) (k : String) (v : α) :
    (s.insert k v).mapValues f = (s.mapValues f).insert k (f v) :=
  Settings.ext (Entries.map_insert sameKey sameKey (g := id) (f := fun _ => f) (fun _ _ => rfl)
    (fun _ _ _ => rfl) k v s.entries)

/-- What goes along with writing one entry goes along with writing many. -/
theorem overlay_of_insert {φ : Settings α → Settings β} {f : String → α → β}
    (h : ∀ s k v, φ (s.insert k v) = (φ s).insert k (f k v)) :
    ∀ (pairs : List (String × α)) (s : Settings α),
      φ (s.overlay pairs) = (φ s).overlay (pairs.map fun e => (e.1, f e.1 e.2))
  | [], _ => rfl
  | p :: pairs, s => by
      rw [overlay_cons, overlay_of_insert h pairs, h, List.map_cons, overlay_cons]

/-- The values of an overlay may be changed before they are laid over. -/
theorem mapValues_overlay (f : α → β) (pairs : List (String × α)) (s : Settings α) :
    (s.overlay pairs).mapValues f
      = (s.mapValues f).overlay (pairs.map fun e => (e.1, f e.2)) :=
  overlay_of_insert (mapValues_insert f) pairs s

end Settings

end SqlDialect
