/-
  SqlDialect.Proofs.Text.Ascii
  ────────────────────────────────
  **CHARACTERS OF SMALL CODE.**

  A character whose code is below a bound is one of finitely many, so that
  what is asked of it can be tried code by code.
-/
import SqlDialect.Text.Segment
import SqlDialect.Text.Casing

namespace SqlDialect.Text

/-- The digits stand side by side. -/
theorem toNat_of_isDigit {c : Char} (h : c.isDigit = true) : 48 ≤ c.toNat ∧ c.toNat ≤ 57 := by
  simp only [Char.isDigit, Bool.and_eq_true, decide_eq_true_eq] at h
  exact h

/-- A character below a bound is one of finitely many. -/
theorem exists_ofNat_of_toNat_lt {c : Char} {b : Nat} (h : c.toNat < b) :
    ∃ n < b, c = Char.ofNat n :=
  ⟨c.toNat, h, (Char.ofNat_toNat c).symm⟩

/-- Only a character of ASCII has a lower case there, letter by letter. -/
theorem toNat_lt_of_toLower {c : Char} (h : c.toLower.toNat < 128) : c.toNat < 128 := by
  unfold Char.toLower at h
  split at h
  next hc =>
    have hle : c.toNat ≤ 'Z'.toNat := hc.2
    have hZ : 'Z'.toNat = 90 := rfl
    omega
  next => exact h

/-- Below 128 the lower case is that of single letters. -/
theorem lower_of_ascii {s : List Char} (h : ∀ c ∈ s, c.toNat < 128) :
    lower s = s.map Char.toLower := by
  induction s with
  | nil => rfl
  | cons c s ih =>
      have hc := h c (by simp)
      have hdot : c ≠ 'İ' := by
        rintro rfl
        exact absurd hc (by decide)
      have hrest : lower s = s.map Char.toLower := ih fun x hx => h x (by simp [hx])
      show (if c = 'İ' then _ else [lowerChar c]) ++ lower s = _
      rw [if_neg hdot, lowerChar, if_pos hc, hrest]
      rfl

/-- A blank character has no other case. -/
theorem toLower_of_isBlank {c : Char} (h : isBlank c = true) : c.toLower = c := by
  unfold Char.toLower
  refine dif_neg ?_
  rintro ⟨hA, hZ⟩
  replace hA : 'A'.toNat ≤ c.toNat := hA
  replace hZ : c.toNat ≤ 'Z'.toNat := hZ
  have hcodes : 'A'.toNat = 65 ∧ 'Z'.toNat = 90 := ⟨rfl, rfl⟩
  simp only [isBlank, isSpace, Bool.or_eq_true, Bool.and_eq_true, decide_eq_true_eq,
    beq_iff_eq] at h
  omega

section AnyCase

variable {word w : List Char}

/-- A word in any case has one lower case. -/
theorem lower_of_map_toLower (h : word.map Char.toLower = w) (hw : ∀ c ∈ w, c.toNat < 128) :
    lower word = w := by
  rw [lower_of_ascii, h]
  intro c hc
  refine toNat_lt_of_toLower (hw c.toLower ?_)
  rw [← h]
  exact List.mem_map_of_mem hc

/-- A word without blanks has none in any case. -/
theorem isBlank_of_map_toLower (h : word.map Char.toLower = w)
    (hw : ∀ c ∈ w, isBlank c = false) : ∀ c ∈ word, isBlank c = false := by
  intro c hc
  have hlower : isBlank c.toLower = false := by
    refine hw c.toLower ?_
    rw [← h]
    exact List.mem_map_of_mem hc
  refine Bool.eq_false_iff.2 fun hblank => ?_
  rw [toLower_of_isBlank hblank, hblank] at hlower
  exact absurd hlower nofun

end AnyCase

end SqlDialect.Text
