/-
  SqlDialect.Proofs.Text.Segment
  ────────────────────────────────
  **TRIMMED AND JOINED TEXTS.**

  A text is what is left of it with the dropped characters behind.  Further
  characters of the kind change nothing, and any other character stops the
  dropping.  So what is left at both ends is told by where it stands:

      TrimsTo p s t ↔ t = trimWhile p s

  Cutting takes one piece without separators off at a time, so what has been
  joined from such pieces is cut into them:

      splitOn sep (join [sep] (pieces ++ [t])) = pieces ++ splitOn sep t
-/
import Mathlib.Data.List.TakeWhile
import SqlDialect.Text.Segment

namespace SqlDialect.Text

variable {p : Char → Bool}

/-! ## §1. What is dropped at the ends. -/

/-- What is dropped at the end is all of the kind. -/
theorem exists_eq_dropEndWhile_append (p : Char → Bool) (s : List Char) :
    ∃ gap, s = dropEndWhile p s ++ gap ∧ ∀ c ∈ gap, p c = true := by
  refine ⟨(s.reverse.takeWhile p).reverse, ?_, ?_⟩
  · rw [dropEndWhile, ← List.reverse_append, List.takeWhile_append_dropWhile, List.reverse_reverse]
  · intro c hc
    exact List.all_eq_true.1 List.all_takeWhile c (List.mem_reverse.1 hc)

/-- What is of the kind is dropped at the end. -/
theorem dropEndWhile_append {gap : List Char} (h : ∀ c ∈ gap, p c = true) (s : List Char) :
    dropEndWhile p (s ++ gap) = dropEndWhile p s := by
  rw [dropEndWhile, List.reverse_append, List.dropWhile_append_of_pos]
  · rfl
  · intro c hc
    exact h c (List.mem_reverse.1 hc)

/-- Nothing is dropped behind a character of another kind. -/
theorem dropEndWhile_concat {c : Char} (h : p c = false) (s : List Char) :
    dropEndWhile p (s ++ [c]) = s ++ [c] := by
  rw [dropEndWhile, List.reverse_append, List.reverse_singleton, List.singleton_append,
    List.dropWhile_cons_of_neg (by simp [h]), List.reverse_cons, List.reverse_reverse]

/-- The text neither starts nor ends with a character in `p`. -/
def IsTightFor (p : Char → Bool) (s : List Char) : Prop :=
  (∀ c ∈ s.head?, p c = false) ∧ ∀ c ∈ s.getLast?, p c = false

/-- `t` is what is left of `s` without the characters in `p` at its ends. -/
def TrimsTo (p : Char → Bool) (s t : List Char) : Prop :=
  ∃ front back, s = front ++ t ++ back ∧ (∀ c ∈ front, p c = true) ∧
    (∀ c ∈ back, p c = true) ∧ IsTightFor p t

/-- A trimmed text is tight. -/
theorem TrimsTo.tight {s t : List Char} (h : TrimsTo p s t) : IsTightFor p t := by
  obtain ⟨-, -, -, -, -, htight⟩ := h
  exact htight

/-- What is left starts with a character of another kind. -/
theorem eq_false_of_mem_head?_dropWhile {c : Char} {s : List Char}
    (h : c ∈ (s.dropWhile p).head?) : p c = false := by
  have hnot := List.head?_dropWhile_not p s
  rw [Option.mem_def.1 h] at hnot
  exact hnot

/-- **Trimming leaves what it says.** -/
theorem trimsTo_trimWhile (p : Char → Bool) (s : List Char) : TrimsTo p s (trimWhile p s) := by
  obtain ⟨back, hback, hp⟩ := exists_eq_dropEndWhile_append p (s.dropWhile p)
  refine ⟨s.takeWhile p, back, ?_, fun c hc => List.all_eq_true.1 List.all_takeWhile c hc, hp,
    fun c hc => ?_, fun c hc => ?_⟩
  · rw [trimWhile, List.append_assoc, ← hback, List.takeWhile_append_dropWhile]
  · -- what is left starts as the text does behind its front
    rw [trimWhile] at hc
    refine eq_false_of_mem_head?_dropWhile (s := s) ?_
    rw [hback, List.head?_append, Option.mem_def.1 hc]
    rfl
  · rw [trimWhile, dropEndWhile, List.getLast?_reverse] at hc
    exact eq_false_of_mem_head?_dropWhile hc

/-- Nothing else is left. -/
theorem TrimsTo.eq_trimWhile {s t : List Char} (h : TrimsTo p s t) : t = trimWhile p s := by
  obtain ⟨front, back, rfl, hfront, hback, hhead, hlast⟩ := h
  rw [trimWhile, List.append_assoc, List.dropWhile_append_of_pos hfront]
  cases t with
  | nil =>
      rw [List.nil_append, List.dropWhile_eq_nil_iff.2 hback]
      rfl
  | cons c t =>
      have hc : p c = false := hhead c rfl
      rw [List.cons_append, List.dropWhile_cons_of_neg (by simp [hc]), ← List.cons_append,
        dropEndWhile_append hback]
      -- the last character stops the dropping
      obtain ⟨u, x, hu⟩ := List.eq_nil_or_concat (c :: t) |>.resolve_left (List.cons_ne_nil c t)
      rw [List.concat_eq_append] at hu
      rw [hu] at hlast ⊢
      exact (dropEndWhile_concat (hlast x (by simp)) u).symm

/-- A text without the kind is tight. -/
theorem isTightFor_of_forall {s : List Char} (h : ∀ c ∈ s, p c = false) : IsTightFor p s :=
  ⟨fun c hc => h c (List.mem_of_mem_head? hc), fun c hc => h c (List.mem_of_getLast? hc)⟩

/-- **A word is left of what has only blanks around it.** -/
theorem trim_append {a s b : List Char} (ha : ∀ c ∈ a, isBlank c = true)
    (hs : ∀ c ∈ s, isBlank c = false) (hb : ∀ c ∈ b, isBlank c = true) :
    trim (a ++ s ++ b) = s :=
  (TrimsTo.eq_trimWhile ⟨a, b, rfl, ha, hb, isTightFor_of_forall hs⟩).symm

variable {sep : Char}

/-! ## §2. What is cut apart again. -/

/-- The first part ends at the first separator. -/
theorem splitOn_append {s : List Char} (h : sep ∉ s) (t : List Char) :
    splitOn sep (s ++ sep :: t) = s :: splitOn sep t := by
  induction s with
  | nil => exact if_pos rfl
  | cons c s ih =>
      rw [List.mem_cons, not_or] at h
      rw [List.cons_append, splitOn, if_neg (Ne.symm h.1), ih h.2]

/-- Without a separator there is one part. -/
theorem splitOn_of_notMem {s : List Char} (h : sep ∉ s) : splitOn sep s = [s] := by
  induction s with
  | nil => rfl
  | cons c s ih =>
      rw [List.mem_cons, not_or] at h
      rw [splitOn, if_neg (Ne.symm h.1), ih h.2]

/-- **The last piece may hold separators**, the others may not. -/
theorem splitOn_join (t : List Char) : ∀ {pieces : List (List Char)},
    (∀ s ∈ pieces, sep ∉ s) →
      splitOn sep (join [sep] (pieces ++ [t])) = pieces ++ splitOn sep t
  | [], _ => rfl
  | s :: pieces, h => by
      have ih := splitOn_join t fun s' (hs' : s' ∈ pieces) => h s' (by simp [hs'])
      have hjoin : join [sep] (s :: pieces ++ [t]) = s ++ sep :: join [sep] (pieces ++ [t]) := by
        cases pieces <;> simp [join]
      rw [hjoin, splitOn_append (h s (by simp)), ih]
      rfl

/-- A text is cut at its first separator. -/
theorem cut?_append {a : List Char} (h : sep ∉ a) (b : List Char) :
    cut? sep (a ++ sep :: b) = some (a, b) := by
  induction a with
  | nil => exact if_pos rfl
  | cons c a ih =>
      rw [List.mem_cons, not_or] at h
      rw [List.cons_append, cut?, if_neg (Ne.symm h.1), ih h.2]
      rfl

/-- What is taken off the front stood there. -/
theorem dropFront?_eq_some_iff {s t rest : List Char} :
    dropFront? s t = some rest ↔ t = s ++ rest := by
  induction s generalizing t with
  | nil => exact Option.some_inj
  | cons a s ih =>
      cases t with
      | nil => exact iff_of_false nofun nofun
      | cons b t =>
          rw [dropFront?, List.cons_append, List.cons.injEq]
          split
          next h => rw [ih, eq_comm (a := b), h, eq_self_iff_true, true_and]
          next h => exact iff_of_false nofun fun hb => h hb.1.symm

end SqlDialect.Text
