/-
  SqlDialect.Proofs.Text.Delimited
  ────────────────────────────────
  **DELIMITED TEXTS ARE READ BACK.**

  A closing delimiter that stands alone ends the text, so a written text is
  read back before anything but another delimiter:

      scan q (encode q s ++ q :: rest) = some (s, rest)

  What has been read does not change when more text follows, so a text between
its delimiters is never left too early or too late.
-/
import SqlDialect.Text.Quote

namespace SqlDialect.Text.Delimited

variable {q : Char}

/-- The text does not start with the delimiter. -/
def NotAt (q : Char) (rest : List Char) : Prop := ∀ c ∈ rest.head?, c ≠ q

/-- A quote that no other follows closes the text. -/
theorem scan_close {rest : List Char} (h : NotAt q rest) :
    scan q (q :: rest) = some ([], rest) := by
  cases rest with
  | nil => exact if_pos rfl
  | cons d rest => rw [scan, if_pos rfl, if_neg (h d rfl)]

/-- A doubled quote stands for one. -/
theorem scan_twice (rest : List Char) :
    scan q (q :: q :: rest) = (scan q rest).map fun r => (q :: r.1, r.2) := by
  rw [scan, if_pos rfl, if_pos rfl]

/-- Any other character stands for itself. -/
theorem scan_cons {c : Char} (h : c ≠ q) {rest : List Char} (hne : rest ≠ []) :
    scan q (c :: rest) = (scan q rest).map fun r => (c :: r.1, r.2) := by
  cases rest with
  | nil => exact absurd rfl hne
  | cons d rest => rw [scan, if_neg h]

/-- **A written text is read back.** -/
theorem scan_encode (s : List Char) {rest : List Char} (h : NotAt q rest) :
    scan q (encode q s ++ q :: rest) = some (s, rest) := by
  induction s with
  | nil => exact scan_close h
  | cons c s ih =>
      rw [encode]
      split
      next hc =>
        subst hc
        rw [List.cons_append, List.cons_append, scan_twice, ih]
        rfl
      next hc =>
        rw [List.cons_append, scan_cons hc (by simp), ih]
        rfl

/-- What has been read stays, whatever follows; at the end of the text no
delimiter may. -/
theorem scan_append {more : List Char} (hmore : NotAt q more) :
    ∀ {s w rest : List Char}, scan q s = some (w, rest) →
      scan q (s ++ more) = some (w, rest ++ more) ∧ rest.length < s.length
  | [], _, _, h => absurd h nofun
  | [c], w, rest, h => by
      rw [scan] at h
      split at h
      next hc =>
        cases h
        rw [hc]
        exact ⟨scan_close hmore, Nat.zero_lt_one⟩
      next => exact absurd h nofun
  | c :: d :: s, w, rest, h => by
      rw [scan] at h
      split at h
      next hc =>
        rw [hc] at h ⊢
        split at h
        -- a doubled quote goes on behind both
        next hd =>
          rw [hd]
          obtain ⟨⟨w', rest'⟩, hs, heq⟩ := Option.map_eq_some_iff.1 h
          obtain ⟨rfl, rfl⟩ := Prod.mk.inj heq
          obtain ⟨hscan, hlen⟩ := scan_append hmore hs
          rw [List.cons_append, List.cons_append, scan_twice, hscan]
          exact ⟨rfl, Nat.lt_succ_of_lt (Nat.lt_succ_of_lt hlen)⟩
        -- a single one closes, whatever is appended
        next hd =>
          cases h
          refine ⟨scan_close fun x hx => ?_, Nat.lt_succ_self _⟩
          obtain rfl : d = x := by simpa using hx
          exact hd
      next hc =>
        obtain ⟨⟨w', rest'⟩, hs, heq⟩ := Option.map_eq_some_iff.1 h
        obtain ⟨rfl, rfl⟩ := Prod.mk.inj heq
        obtain ⟨hscan, hlen⟩ := scan_append hmore hs
        rw [List.cons_append, scan_cons hc (by simp), hscan]
        exact ⟨rfl, Nat.lt_succ_of_lt hlen⟩

/-- Without the closing delimiter a text does not end. -/
theorem scan_eq_none : ∀ {s : List Char}, q ∉ s → scan q s = none
  | [], _ => rfl
  | [c], h => by
      have hc : c ≠ q := fun heq => h (heq ▸ List.mem_singleton_self c)
      rw [scan, if_neg hc]
  | c :: d :: s, h => by
      obtain ⟨hc, hrest⟩ := not_or.1 (mt List.mem_cons.2 h)
      rw [scan, if_neg (Ne.symm hc), scan_eq_none hrest]
      rfl

/-! ## Enclosed texts. -/

variable {first : Char} {text s s' : List Char}

/-- From its opening delimiter on the text is read as `s` to its end, whatever
follows but another closing delimiter. -/
def Encloses (first close : Char) (text s : List Char) : Prop :=
  ∃ body, text = first :: body ∧
    ∀ rest, NotAt close rest → scan close (body ++ rest) = some (s, rest)

/-- A text between its delimiters ends where it was meant to. -/
theorem encloses_enclose (first q : Char) (s : List Char) :
    Encloses first q (enclose first q s) s := by
  refine ⟨encode q s ++ [q], rfl, fun rest hrest => ?_⟩
  rw [List.append_assoc, List.singleton_append]
  exact scan_encode s hrest

/-- **An enclosed text stands for one text only.** -/
theorem Encloses.unique (h : Encloses first q text s) (h' : Encloses first q text s') :
    s = s' := by
  obtain ⟨body, rfl, hscan⟩ := h
  obtain ⟨body', hbody, hscan'⟩ := h'
  obtain ⟨-, rfl⟩ := List.cons.inj hbody
  have hend : NotAt q [] := fun c hc => nomatch hc
  obtain ⟨rfl, -⟩ := Prod.mk.inj (Option.some.inj ((hscan [] hend).symm.trans (hscan' [] hend)))
  rfl

/-- No two texts are enclosed alike. -/
theorem enclose_inj (h : enclose first q s = enclose first q s') : s = s' :=
  (encloses_enclose first q s).unique (h ▸ encloses_enclose first q s')

end SqlDialect.Text.Delimited
