/-
  SqlDialect.Proofs.Toml.Text
  ────────────────────────────────
  **WRITTEN TEXTS ARE READ BACK.**

  A written text holds no control character, so it stays on its line, and
  reading it returns the text and what stands behind it:

      takeBasic? (s.flatMap writtenChar ++ '"' :: rest) = some (s, rest)

  One escape is read at a time; the text is an induction over its
  characters.
-/
import Mathlib.Tactic.IntervalCases
import SqlDialect.Proofs.Text.Ascii
import SqlDialect.Toml.Reader

namespace SqlDialect.Toml

open SqlDialect.Text

/-! ## §1. One character. -/

/-- A plain character is read as itself. -/
theorem takeBasic?_plain {c : Char} (hq : c ≠ '"') (hb : c ≠ '\\')
    (hc : isControl c = false) (t : List Char) :
    takeBasic? (c :: t) = (takeBasic? t).map fun r => (c :: r.1, r.2) := by
  rw [takeBasic?.eq_def]
  split <;> simp_all

/-- A short escape is read as the character it stands for. -/
theorem takeBasic?_escape {l c : Char} (h : escape? l = some c) (t : List Char) :
    takeBasic? ('\\' :: l :: t) = (takeBasic? t).map fun r => (c :: r.1, r.2) := by
  rw [takeBasic?]
  · rw [h]
    cases takeBasic? t <;> rfl
  -- a code point starts with a letter that is no escape by itself
  · rintro _ _ _ _ _ ⟨⟩
    exact absurd h nofun
  · rintro _ _ _ _ _ _ _ _ _ ⟨⟩
    exact absurd h nofun

/-- The code of a character is read as the character. -/
theorem takeBasic?_code {a b c d x : Char} (h : codePoint? [a, b, c, d] = some x)
    (t : List Char) :
    takeBasic? ('\\' :: 'u' :: a :: b :: c :: d :: t)
      = (takeBasic? t).map fun r => (x :: r.1, r.2) := by
  rw [takeBasic?, h]
  cases takeBasic? t <;> rfl

/-- The control characters are below 128. -/
theorem toNat_lt_of_isControl {c : Char} (h : isControl c = true) : c.toNat < 128 := by
  simp only [isControl, Bool.or_eq_true, Bool.and_eq_true, decide_eq_true_eq,
    beq_iff_eq] at h
  omega

/-- A control character is written by four digits that stand for it. -/
theorem controlEscape_eq {c : Char} (h : isControl c = true) :
    ∃ u v w x, controlEscape c = ['\\', 'u', u, v, w, x]
      ∧ codePoint? [u, v, w, x] = some c := by
  obtain ⟨n, hn, rfl⟩ := exists_ofNat_of_toNat_lt (toNat_lt_of_isControl h)
  interval_cases n <;>
    first
      | exact absurd h (by decide)
      | exact ⟨_, _, _, _, rfl, rfl⟩

/-- A written character is read as the character that it stands for. -/
theorem takeBasic?_writtenChar (c : Char) (t : List Char) :
    takeBasic? (writtenChar c ++ t) = (takeBasic? t).map fun r => (c :: r.1, r.2) := by
  unfold writtenChar
  split
  -- the seven characters with an escape of their own
  iterate 7 exact takeBasic?_escape rfl t
  · split
    next hc =>
      obtain ⟨u, v, w, x, hw, hx⟩ := controlEscape_eq hc
      rw [hw]
      exact takeBasic?_code hx t
    next hc => exact takeBasic?_plain ‹_› ‹_› (by simpa using hc) t

/-! ## §2. Texts. -/

/-- A text is read back from its written characters. -/
theorem takeBasic?_written (s rest : List Char) :
    takeBasic? (s.flatMap writtenChar ++ '"' :: rest) = some (s, rest) := by
  induction s with
  | nil => rw [List.flatMap_nil, List.nil_append, takeBasic?]
  | cons c s ih =>
      rw [List.flatMap_cons, List.append_assoc, takeBasic?_writtenChar, ih]
      rfl

/-- A written text is its written characters between quotes. -/
theorem writtenText_append (s rest : List Char) :
    writtenText s ++ rest = '"' :: (s.flatMap writtenChar ++ '"' :: rest) := by
  simp [writtenText]

/-- A written name is read as the name. -/
theorem takeName?_writtenText (s rest : List Char) :
    takeName? (writtenText s ++ rest) = some (String.ofList s, rest) := by
  rw [writtenText_append, takeName?, takeBasic?_written]
  rfl

/-- Nothing more stands on the line. -/
def AtLineEnd (rest : List Char) : Prop := rest = [] ∨ ∃ t, rest = '\n' :: t

/-- A written character does not start with a quote. -/
theorem writtenChar_head (c : Char) : ∃ x t, writtenChar c = x :: t ∧ x ≠ '"' := by
  unfold writtenChar
  split
  iterate 7 exact ⟨_, _, rfl, by decide⟩
  · split
    · exact ⟨_, _, rfl, by decide⟩
    · exact ⟨c, [], rfl, ‹_›⟩

/-- A written text at the end of its line is read as the text. -/
theorem takeText?_writtenText (s : List Char) {rest : List Char} (h : AtLineEnd rest) :
    takeText? (writtenText s ++ rest) = some (s, rest) := by
  have hread := takeBasic?_written s rest
  -- three quotes would start a text over lines
  have hq : ∀ t, s.flatMap writtenChar ++ '"' :: rest ≠ '"' :: '"' :: t := by
    intro t ht
    cases s with
    | nil =>
        obtain rfl | ⟨t', rfl⟩ := h
        · simp at ht
        · simp at ht
    | cons c s =>
        obtain ⟨x, t', hx, hne⟩ := writtenChar_head c
        rw [List.flatMap_cons, hx, List.cons_append, List.cons_append] at ht
        exact hne (List.cons.inj ht).1
  rw [writtenText_append, takeText?]
  · exact hread
  · intro t ht
    exact hq t ht

/-! ## §3. What a written text is made of. -/

/-- Control characters are written as escapes. -/
theorem isControl_of_mem_writtenChar {c x : Char} (h : x ∈ writtenChar c) :
    isControl x = false := by
  unfold writtenChar at h
  split at h
  iterate 7
    · simp only [List.mem_cons, List.not_mem_nil, or_false] at h
      obtain rfl | rfl := h <;> rfl
  · split at h
    next hc =>
      have key : ∀ n < 128, (controlEscape (Char.ofNat n)).all (!isControl ·) = true := by
        decide +kernel
      obtain ⟨n, hn, rfl⟩ := exists_ofNat_of_toNat_lt (toNat_lt_of_isControl hc)
      simpa using List.all_eq_true.1 (key n hn) x h
    next hc =>
      obtain rfl := List.mem_singleton.1 h
      simpa using hc

/-- No control character stands in a written text. -/
theorem isControl_of_mem_writtenText {s : List Char} {x : Char} (h : x ∈ writtenText s) :
    isControl x = false := by
  simp only [writtenText, List.mem_cons, List.mem_append, List.mem_flatMap,
    List.not_mem_nil, or_false] at h
  rcases h with (rfl | ⟨c, -, hx⟩) | rfl
  · rfl
  · exact isControl_of_mem_writtenChar hx
  · rfl

end SqlDialect.Toml
