/-
  SqlDialect.Proofs.Diagnosis.Language
  ────────────────────────────────
  **THE TEXTS THAT A PATTERN DESCRIBES.**

  Matching tries every way in which a pattern can take from the front of a
  text.  What it takes is a text that the pattern describes, said without any
  order of trying, and every such text is tried:

      run i p s k ↔ ∃ t rest, s.rest = t ++ rest ∧ Describes i p t ∧ k rest

  So a whole text matches exactly if the pattern describes it.  The marks for
  the start and the end of a text say nothing at the ends of a pattern, since
  the whole text has to match anyway.
-/
import SqlDialect.Diagnosis.Pattern
import SqlDialect.Proofs.Text.Folding

namespace SqlDialect.Pattern

open SqlDialect.Text

/-! ## §1. Description. -/

/-- The pattern holds no mark for the start or the end of a text. -/
def isPlain : Pattern → Bool
  | .atStart | .atEnd => false
  | .seq a b | .alt a b => isPlain a && isPlain b
  | _ => true

/-- The pattern describes the text; a mark for a place describes none. -/
def Describes (ignoreCase : Bool) : Pattern → List Char → Prop
  | .empty, t => t = []
  | .one c, t => ∃ a, t = [a] ∧ c.test ignoreCase a = true
  | .many c, t => ∀ a ∈ t, c.test ignoreCase a = true
  | .atLeastOne c, t => t ≠ [] ∧ ∀ a ∈ t, c.test ignoreCase a = true
  | .atStart, _ | .atEnd, _ => False
  | .seq p q, t => ∃ u v, t = u ++ v ∧ Describes ignoreCase p u ∧ Describes ignoreCase q v
  | .alt p q, t => Describes ignoreCase p t ∨ Describes ignoreCase q t

variable {i : Bool} {test : Char → Bool} {k : Position → Bool}

/-! ## §2. One character and many. -/

/-- One character is matched if it passes the test and the rest goes on. -/
theorem runOne_iff {s : Position} :
    runOne test k s = true ↔
      ∃ a rest, s.rest = a :: rest ∧ test a = true ∧ k ⟨rest, false⟩ = true := by
  obtain ⟨t, b⟩ := s
  cases t with
  | nil =>
      refine iff_of_false nofun ?_
      rintro ⟨a, rest, hs, -⟩
      exact absurd hs nofun
  | cons c rest =>
      rw [runOne, Bool.and_eq_true]
      constructor
      · intro h
        exact ⟨c, rest, rfl, h⟩
      · rintro ⟨a, rest', hs, h⟩
        obtain ⟨rfl, rfl⟩ := List.cons.inj hs
        exact h

/-- Any number of characters that pass leaves some end of the text, which is
still at the start if nothing has been taken. -/
theorem runMany_iff {s : List Char} {b : Bool} :
    runMany test k s b = true ↔ ∃ taken rest, s = taken ++ rest ∧
      (∀ a ∈ taken, test a = true) ∧ k ⟨rest, b && taken.isEmpty⟩ = true := by
  induction s generalizing b with
  | nil =>
      -- the repetition stops here, or takes the character and goes on
      constructor
      · intro h
        exact ⟨[], [], rfl, by simp, by rw [List.isEmpty_nil, Bool.and_true]; exact h⟩
      · rintro ⟨taken, rest, hs, -, h⟩
        obtain ⟨rfl, rfl⟩ := List.append_eq_nil_iff.1 hs.symm
        rw [List.isEmpty_nil, Bool.and_true] at h
        exact h
  | cons c s ih =>
      rw [runMany, Bool.or_eq_true, Bool.and_eq_true, ih]
      constructor
      · rintro (h | ⟨hc, taken, rest, rfl, htest, h⟩)
        · exact ⟨[], c :: s, rfl, by simp, by rw [List.isEmpty_nil, Bool.and_true]; exact h⟩
        · refine ⟨c :: taken, rest, rfl, List.forall_mem_cons.2 ⟨hc, htest⟩, ?_⟩
          rw [List.isEmpty_cons, Bool.and_false]
          exact h
      · rintro ⟨taken, rest, hs, htest, h⟩
        cases taken with
        | nil =>
            obtain rfl : c :: s = rest := hs
            rw [List.isEmpty_nil, Bool.and_true] at h
            exact .inl h
        | cons a taken =>
            obtain ⟨rfl, rfl⟩ := List.cons.inj hs
            obtain ⟨hc, htest⟩ := List.forall_mem_cons.1 htest
            rw [List.isEmpty_cons, Bool.and_false] at h
            exact .inr ⟨hc, taken, rest, rfl, htest, h⟩

/-! ## §3. Matching. -/

/-- **A pattern takes from the front what it describes**, each such text in
some try. -/
theorem run_iff {p : Pattern} (hp : p.isPlain = true) {s : Position} {k : Position → Bool} :
    p.run i s k = true ↔ ∃ t rest, s.rest = t ++ rest ∧ Describes i p t ∧
      k ⟨rest, s.isStart && t.isEmpty⟩ = true := by
  induction p generalizing s k with
  | empty =>
      constructor
      · intro h
        exact ⟨[], s.rest, rfl, rfl, by rw [List.isEmpty_nil, Bool.and_true]; exact h⟩
      · rintro ⟨t, rest, hs, rfl, h⟩
        obtain ⟨-, rfl⟩ : s.isStart = s.isStart ∧ s.rest = rest := ⟨rfl, hs⟩
        rw [List.isEmpty_nil, Bool.and_true] at h
        exact h
  | one c =>
      rw [run, runOne_iff]
      constructor
      · rintro ⟨a, rest, hs, ha, h⟩
        exact ⟨[a], rest, hs, ⟨a, rfl, ha⟩, by rw [List.isEmpty_cons, Bool.and_false]; exact h⟩
      · rintro ⟨t, rest, hs, ⟨a, rfl, ha⟩, h⟩
        rw [List.isEmpty_cons, Bool.and_false] at h
        exact ⟨a, rest, hs, ha, h⟩
  | many c =>
      rw [run, runMany_iff]
      rfl
  | atLeastOne c =>
      rw [run, runOne_iff]
      constructor
      · rintro ⟨a, rest, hs, ha, h⟩
        obtain ⟨taken, rest, rfl, htest, h⟩ := runMany_iff.1 h
        refine ⟨a :: taken, rest, hs, ⟨List.cons_ne_nil a taken,
          List.forall_mem_cons.2 ⟨ha, htest⟩⟩, ?_⟩
        rw [List.isEmpty_cons, Bool.and_false]
        exact h
      · rintro ⟨t, rest, hs, ⟨hne, htest⟩, h⟩
        obtain ⟨a, taken, rfl⟩ := List.exists_cons_of_ne_nil hne
        obtain ⟨ha, htest⟩ := List.forall_mem_cons.1 htest
        rw [List.isEmpty_cons, Bool.and_false] at h
        exact ⟨a, taken ++ rest, hs, ha, runMany_iff.2 ⟨taken, rest, rfl, htest, h⟩⟩
  | atStart => exact absurd hp nofun
  | atEnd => exact absurd hp nofun
  | seq p q ihp ihq =>
      obtain ⟨hp, hq⟩ := Bool.and_eq_true_iff.1 hp
      have hempty : ∀ u v : List Char, (u ++ v).isEmpty = (u.isEmpty && v.isEmpty) := by
        intro u v
        cases u <;> rfl
      rw [run, ihp hp]
      -- the second part goes on where the first one has stopped
      constructor
      · rintro ⟨u, rest, hs, hu, h⟩
        obtain ⟨v, rest', hrest, hv, h⟩ := (ihq hq).1 h
        refine ⟨u ++ v, rest', ?_, ⟨u, v, rfl, hu, hv⟩, ?_⟩
        · rw [hs, List.append_assoc]
          exact congrArg (u ++ ·) hrest
        · rw [hempty, ← Bool.and_assoc]
          exact h
      · rintro ⟨t, rest, hs, ⟨u, v, rfl, hu, hv⟩, h⟩
        refine ⟨u, v ++ rest, ?_, hu, (ihq hq).2 ⟨v, rest, rfl, hv, ?_⟩⟩
        · rw [hs, List.append_assoc]
        · rw [hempty, ← Bool.and_assoc] at h
          exact h
  | alt p q ihp ihq =>
      obtain ⟨hp, hq⟩ := Bool.and_eq_true_iff.1 hp
      rw [run, Bool.or_eq_true, ihp hp, ihq hq]
      constructor
      · rintro (⟨t, rest, hs, ht, h⟩ | ⟨t, rest, hs, ht, h⟩)
        · exact ⟨t, rest, hs, .inl ht, h⟩
        · exact ⟨t, rest, hs, .inr ht, h⟩
      · rintro ⟨t, rest, hs, ht | ht, h⟩
        · exact .inl ⟨t, rest, hs, ht, h⟩
        · exact .inr ⟨t, rest, hs, ht, h⟩

/-- **A text matches exactly if the pattern describes it.** -/
theorem matchesAll_iff {p : Pattern} (hp : p.isPlain = true) {s : List Char} :
    p.matchesAll i s = true ↔ Describes i p s := by
  rw [matchesAll, run_iff hp]
  constructor
  · rintro ⟨t, rest, hs, ht, h⟩
    obtain rfl := List.isEmpty_iff.1 h
    rw [List.append_nil] at hs
    obtain rfl : s = t := hs
    exact ht
  · intro h
    exact ⟨s, [], (List.append_nil s).symm, h, rfl⟩

/-! ## §4. Marks at the ends. -/

/-- A match starts at the start. -/
theorem matchesAll_atStart (ps : List Pattern) (s : List Char) :
    (sequence (.atStart :: ps)).matchesAll i s = (sequence ps).matchesAll i s := rfl

/-- A pattern that must reach the end may say so in itself. -/
theorem run_sequence_atEnd (ps : List Pattern) (s : Position) :
    (sequence (ps ++ [.atEnd])).run i s (·.rest.isEmpty)
      = (sequence ps).run i s (·.rest.isEmpty) := by
  induction ps generalizing s with
  | nil =>
      -- a last line break may follow the mark, but nothing is left of it
      show ((s.rest == [] || s.rest == ['\n']) && s.rest.isEmpty) = s.rest.isEmpty
      cases s.rest with
      | nil => rfl
      | cons c rest => rw [List.isEmpty_cons, Bool.and_false]
  | cons p ps ih =>
      show (p.run i s fun t => (sequence (ps ++ [.atEnd])).run i t (·.rest.isEmpty))
        = p.run i s fun t => (sequence ps).run i t (·.rest.isEmpty)
      exact congrArg (p.run i s) (funext ih)

/-- A match ends at the end. -/
theorem matchesAll_atEnd (ps : List Pattern) (s : List Char) :
    (sequence (ps ++ [.atEnd])).matchesAll i s = (sequence ps).matchesAll i s :=
  run_sequence_atEnd ps ⟨s, true⟩

/-! ## §5. Words. -/

/-- Letters one after another are a plain pattern. -/
theorem isPlain_literal (w : List Char) : (literal w).isPlain = true := by
  induction w with
  | nil => rfl
  | cons a w ih => exact ih

/-- Any text will do. -/
theorem describes_anything (t : List Char) : Describes i anything t := by
  intro a _
  rfl

/-- A word describes the texts that match it letter by letter. -/
theorem describes_literal_cons {a : Char} {w t : List Char} :
    Describes i (literal (a :: w)) t ↔
      ∃ c t', t = c :: t' ∧ (CharClass.letter a).test i c = true ∧ Describes i (literal w) t' := by
  constructor
  · rintro ⟨u, v, rfl, ⟨c, rfl, hc⟩, hv⟩
    exact ⟨c, v, rfl, hc, hv⟩
  · rintro ⟨c, t', rfl, hc, ht⟩
    exact ⟨[c], t', rfl, ⟨c, rfl, hc⟩, ht⟩

/-- With regard to case a word describes itself. -/
theorem describes_literal {w t : List Char} : Describes false (literal w) t ↔ t = w := by
  induction w generalizing t with
  | nil => rfl
  | cons a w ih =>
      rw [describes_literal_cons]
      constructor
      · rintro ⟨c, t', rfl, hc, ht⟩
        obtain rfl : a = c := eq_of_beq hc
        rw [ih.1 ht]
      · rintro rfl
        exact ⟨a, w, rfl, beq_self_eq_true a, ih.2 rfl⟩

/-- Without regard to case a word describes the texts that fold to it. -/
theorem describes_literal_folded {w t : List Char} (hw : ∀ a ∈ w, isFolded a = true) :
    Describes true (literal w) t ↔ t.map patternFold = w := by
  induction w generalizing t with
  | nil => exact List.map_eq_nil_iff.symm
  | cons a w ih =>
      obtain ⟨ha, hw⟩ := List.forall_mem_cons.1 hw
      rw [describes_literal_cons, List.map_eq_cons_iff]
      constructor
      · rintro ⟨c, t', rfl, hc, ht⟩
        exact ⟨c, t', rfl, (sameLetter_iff ha).1 hc, (ih hw).1 ht⟩
      · rintro ⟨c, t', rfl, hc, ht⟩
        exact ⟨c, t', rfl, (sameLetter_iff ha).2 hc, (ih hw).2 ht⟩

end SqlDialect.Pattern
