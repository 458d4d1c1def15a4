/-
  SqlDialect.Settings
  ────────────────────────────────
  **NAMED SETTINGS IN ORDER OF ARRIVAL.**

  A table of settings keeps its keys in the order in which they first
  arrived.  Writing to a key that is present changes its value and moves
  nothing; a new key goes to the end:

      (s.insert k v).keys = if k ∈ s.keys then s.keys else s.keys ++ [k]

  No key occurs twice.
-/

namespace SqlDialect

/-! ## §1. Entries under a key test. -/

namespace Entries

variable {κ α β : Type}

/-- Give the key the value: in the place of the first key that is the same,
else at the end. -/
def insert (same : κ → κ → Bool) (k : κ) (v : α) : List (κ × α) → List (κ × α)
  | [] => [(k, v)]
  | (k', v') :: rest => if same k' k then (k', v) :: rest else (k', v') :: insert same k v rest

/-- The entries written one after another. -/
def ofList (same : κ → κ → Bool) (pairs : List (κ × α)) : List (κ × α) :=
  pairs.foldl (fun es p => insert same p.1 p.2 es) []

/-- The value under the first key that is the same. -/
def get? (same : κ → κ → Bool) (k : κ) : List (κ × α) → Option α
  | [] => none
  | (k', v) :: rest => if same k' k then some v else get? same k rest

end Entries

/-- The keys are the same text. -/
def sameKey (a b : String) : Bool := a == b

/-- What inserting does to the keys. -/
theorem Entries.map_fst_insert {α : Type} (k : String) (v : α) (es : List (String × α)) :
    (Entries.insert sameKey k v es).map (·.1)
      = if k ∈ es.map (·.1) then es.map (·.1) else es.map (·.1) ++ [k] := by
  induction es with
  | nil => simp [Entries.insert]
  | cons e rest ih =>
    obtain ⟨k', v'⟩ := e
    by_cases h : k' = k
    · subst h; simp [Entries.insert, sameKey]
    · have h' : ¬ k = k' := fun e => h e.symm
      simp only [Entries.insert, sameKey, beq_iff_eq, h, if_false, List.map_cons, ih,
        List.mem_cons, h', false_or]
      split <;> simp

/-- Inserting keeps the keys apart. -/
theorem Entries.nodup_insert {α : Type} (k : String) (v : α) (es : List (String × α))
    (h : (es.map (·.1)).Nodup) : ((Entries.insert sameKey k v es).map (·.1)).Nodup := by
  rw [Entries.map_fst_insert]
  split
  · exact h
  · next hk =>
    rw [List.nodup_append]
    refine ⟨h, by simp, ?_⟩
    intro a ha b hb
    simp only [List.mem_singleton] at hb
    subst hb
    exact fun e => hk (e ▸ ha)

/-! ## §2. Settings. -/

/-- Values under distinct keys, in order of arrival. -/
structure Settings (α : Type) where
  entries : List (String × α)
  nodup : (entries.map (·.1)).Nodup
  deriving Repr

namespace Settings

variable {α β : Type}

/-- No settings. -/
def empty : Settings α := ⟨[], by simp⟩

instance : Inhabited (Settings α) := ⟨empty⟩

/-- The keys in order of arrival. -/
def keys (s : Settings α) : List String := s.entries.map (·.1)

/-- There are no settings. -/
def isEmpty (s : Settings α) : Bool := s.entries.isEmpty

/-- The value of a key. -/
def get? (s : Settings α) (k : String) : Option α := Entries.get? sameKey k s.entries

/-- The key has a value. -/
def contains (s : Settings α) (k : String) : Bool := s.keys.contains k

/-- Give a key a value. -/
def insert (s : Settings α) (k : String) (v : α) : Settings α :=
  ⟨Entries.insert sameKey k v s.entries, Entries.nodup_insert k v s.entries s.nodup⟩

/-- Give each key in turn its value. -/
def overlay (s : Settings α) (pairs : List (String × α)) : Settings α :=
  pairs.foldl (fun s p => s.insert p.1 p.2) s

/-- The settings written in the given order. -/
def ofList (pairs : List (String × α)) : Settings α := empty.overlay pairs

/-- The settings whose key passes the test. -/
def filterKeys (s : Settings α) (p : String → Bool) : Settings α :=
  ⟨s.entries.filter (p ·.1), by
    have h := s.nodup.filter p
    rwa [List.filter_map] at h⟩

/-- The settings without one key. -/
def erase (s : Settings α) (k : String) : Settings α :=
  s.filterKeys (· != k)

/-- The same keys with other values. -/
def mapValues (f : α → β) (s : Settings α) : Settings β :=
  ⟨s.entries.map fun e => (e.1, f e.2), by
    have h := s.nodup
    rw [List.map_map]
    exact h⟩

/-! ## §3. What the operations do to the keys and values. -/

@[ext] theorem ext {s t : Settings α} (h : s.entries = t.entries) : s = t := by
  cases s; cases t; cases h; rfl

@[simp] theorem keys_empty : (empty : Settings α).keys = [] := rfl

@[simp] theorem keys_insert (s : Settings α) (k : String) (v : α) :
    (s.insert k v).keys = if k ∈ s.keys then s.keys else s.keys ++ [k] :=
  Entries.map_fst_insert k v s.entries

@[simp] theorem overlay_nil (s : Settings α) : s.overlay [] = s := rfl

@[simp] theorem overlay_cons (s : Settings α) (p : String × α) (ps : List (String × α)) :
    s.overlay (p :: ps) = (s.insert p.1 p.2).overlay ps := rfl

/-- The value written is there, and other keys keep theirs. -/
@[simp] theorem get?_insert (s : Settings α) (k k' : String) (v : α) :
    (s.insert k v).get? k' = if k = k' then some v else s.get? k' := by
  obtain ⟨es, hes⟩ := s
  simp only [insert, get?]
  clear hes
  induction es with
  | nil => by_cases h : k = k' <;> simp [Entries.insert, Entries.get?, sameKey, h]
  | cons e rest ih =>
    obtain ⟨a, b⟩ := e
    by_cases h : a = k
    · subst h
      by_cases h' : a = k' <;> simp [Entries.insert, Entries.get?, sameKey, h']
    · by_cases h' : a = k'
      · subst h'
        have h'' : ¬ k = a := fun e => h e.symm
        simp [Entries.insert, Entries.get?, sameKey, h, h'']
      · simp [Entries.insert, Entries.get?, sameKey, h, h']
        simpa [sameKey] using ih

end Settings

end SqlDialect
