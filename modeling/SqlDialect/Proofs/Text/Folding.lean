/-
  SqlDialect.Proofs.Text.Folding
  ────────────────────────────────
  **LETTERS WITHOUT THEIR CASE.**

  Words of small ASCII letters and spaces are compared without regard to case
  by folding the other text:

      isFolded a → (sameLetter a c = true ↔ patternFold c = a)

  Patterns fold a little further than Unicode's simple case folding does: for
  them the dotted capital i and the dotless i are an i as well.
-/
import SqlDialect.Proofs.Text.Ascii
import SqlDialect.Text.Casing

namespace SqlDialect.Text

/-! ## §1. Folding. -/

/-- Unicode's simple case folding, as far as it leads to ASCII: the capital
letters, the long s and the Kelvin sign.  Other letters fold among themselves,
which a comparison with ASCII does not see, and are left as they are. -/
def simpleFold (c : Char) : Char :=
  if c = 'ſ' then 's' else if c = '\u212a' then 'k' else c.toLower

/-- The folding of patterns: the simple one, with an i for the dotted capital i
and for the dotless i. -/
def patternFold (c : Char) : Char :=
  if c = 'İ' ∨ c = 'ı' then 'i' else simpleFold c

/-- The letter is in folded form: a small ASCII letter or a space. -/
def isFolded (a : Char) : Bool := a.isLower || a == ' '

/-! ## §2. The tables of letters. -/

/-- What is so of each character of ASCII: it is folded by its lower case, and
a letter in folded form has kin only beyond ASCII, the i the dotless i and the
s the long s. -/
theorem ascii_folding : ∀ n < 128,
    patternFold (Char.ofNat n) = lowerChar (Char.ofNat n) ∧
    (lowerChar (Char.ofNat n)).toNat < 128 ∧
    (isFolded (Char.ofNat n) = true → lowerChar (Char.ofNat n) = Char.ofNat n ∧
      (caseKin.lookup n).getD []
        = if n = 0x69 then [0x131] else if n = 0x73 then [0x17f] else []) := by
  decide +kernel

/-- Beyond ASCII only the dotted capital i and the Kelvin sign have an ASCII
letter for their lower case.  The dotless i and the long s are in lower case and
the lower case of no other letter. -/
theorem lowerShifts_beyond : ∀ s ∈ lowerShifts,
    (s = ⟨0x130, 0x130, 1, -199⟩ ∨ s = ⟨0x212a, 0x212a, 1, -8383⟩ ∨
      128 ≤ (s.first : Int) + s.move) ∧
    ∀ t ∈ [0x131, 0x17f], (t < s.first ∨ s.last < t) ∧
      ((t : Int) < s.first + s.move ∨ s.last + s.move < (t : Int)) := by
  decide +kernel

/-- The character of a code point has that code point, or is the null character. -/
theorem toNat_ofNat_or (n : Nat) : (Char.ofNat n).toNat = n ∨ (Char.ofNat n).toNat = 0 := by
  by_cases hv : n.isValidChar
  · left
    rw [Char.ofNat, dif_pos hv]
    rfl
  · right
    rw [Char.ofNat, dif_neg hv]
    rfl

/-- A letter beyond ASCII is its own lower case, or is shifted by a row of the table. -/
theorem lowerChar_cases {c : Char} (h : 128 ≤ c.toNat) :
    lowerChar c = c ∨ ∃ s ∈ lowerShifts, s.first ≤ c.toNat ∧ c.toNat ≤ s.last ∧
      lowerChar c = Char.ofNat (c.toNat + s.move).toNat := by
  have hlower : lowerChar c
      = Char.ofNat ((lowerShifts.findSome? (·.shift? c.toNat)).getD c.toNat) :=
    if_neg (Nat.not_lt.2 h)
  -- a letter is shifted by the first row it stands in, if there is one
  cases hfind : lowerShifts.findSome? (·.shift? c.toNat) with
  | none =>
      rw [hfind, Option.getD_none, Char.ofNat_toNat] at hlower
      exact .inl hlower
  | some m =>
      rw [hfind, Option.getD_some] at hlower
      obtain ⟨s, hs, hshift⟩ := List.exists_of_findSome?_eq_some hfind
      unfold CaseShift.shift? at hshift
      split at hshift
      next hn =>
        obtain rfl := Option.some.inj hshift
        exact .inr ⟨s, hs, hn.1, hn.2.1, hlower⟩
      next => exact absurd hshift nofun

/-- The lower case of any other letter beyond ASCII stays beyond, and is a
dotless i or a long s for these two only. -/
theorem lowerChar_beyond {c : Char} (h : 128 ≤ c.toNat) (hdotted : c ≠ 'İ')
    (hkelvin : c ≠ '\u212a') :
    ((lowerChar c).toNat = 0 ∨ 128 ≤ (lowerChar c).toNat) ∧
      ∀ t ∈ [0x131, 0x17f], (lowerChar c).toNat = t ↔ c.toNat = t := by
  obtain hself | ⟨s, hs, hfirst, hlast, hlower⟩ := lowerChar_cases h
  · rw [hself]
    exact ⟨.inr h, fun t _ => Iff.rfl⟩
  · obtain ⟨hlow, hfixed⟩ := lowerShifts_beyond s hs
    have hcode := toNat_ofNat_or (c.toNat + s.move).toNat
    rw [← hlower] at hcode
    rcases hlow with rfl | rfl | hwide
    · -- a row of one letter, the dotted capital i
      refine absurd ?_ hdotted
      rw [← Char.ofNat_toNat c, Nat.le_antisymm hlast hfirst]
    · refine absurd ?_ hkelvin
      rw [← Char.ofNat_toNat c, Nat.le_antisymm hlast hfirst]
    · constructor
      · omega
      · intro t ht
        -- neither the letter nor its lower case is one of the two
        obtain ⟨hsource, htarget⟩ := hfixed t ht
        have hpos : t ≠ 0 := by
          intro h0
          rw [h0] at ht
          exact absurd ht (by decide)
        omega

/-! ## §3. Comparing. -/

/-- A letter beyond ASCII folds to i or s as its kin does, and otherwise to no
letter of ASCII. -/
theorem patternFold_beyond {c : Char} (h : 128 ≤ c.toNat) (hdotted : c ≠ 'İ')
    (hkelvin : c ≠ '\u212a') :
    (c.toNat = 0x131 ∧ patternFold c = 'i') ∨ (c.toNat = 0x17f ∧ patternFold c = 's') ∨
      (c.toNat ≠ 0x131 ∧ c.toNat ≠ 0x17f ∧ patternFold c = c) := by
  by_cases hdotless : c = 'ı'
  · subst hdotless
    exact .inl ⟨rfl, rfl⟩
  by_cases hlong : c = 'ſ'
  · subst hlong
    exact .inr (.inl ⟨rfl, rfl⟩)
  have hself : patternFold c = c := by
    -- a capital of ASCII it is not either
    have hupper : ¬ (c.val ≥ 'A'.val ∧ c.val ≤ 'Z'.val) := by
      intro hc
      have hle : c.toNat ≤ 90 := hc.2
      omega
    rw [patternFold, if_neg (not_or.2 ⟨hdotted, hdotless⟩), simpleFold, if_neg hlong,
      if_neg hkelvin]
    exact dif_neg hupper
  refine .inr (.inr ⟨?_, ?_, hself⟩)
  · intro hc
    exact hdotless (Char.toNat_inj.1 hc)
  · intro hc
    exact hlong (Char.toNat_inj.1 hc)

/-- **A letter counts as a folded one exactly if it folds to it.** -/
theorem sameLetter_iff {a c : Char} (ha : isFolded a = true) :
    sameLetter a c = true ↔ patternFold c = a := by
  have hcode : a.toNat < 128 ∧ a.toNat ≠ 0 := by
    rw [isFolded, Bool.or_eq_true, beq_iff_eq] at ha
    obtain hlower | rfl := ha
    · obtain ⟨hge, hle⟩ := Bool.and_eq_true_iff.1 hlower
      have hge' : 97 ≤ a.toNat := of_decide_eq_true hge
      have hle' : a.toNat ≤ 122 := of_decide_eq_true hle
      omega
    · decide
  have hfolded := (ascii_folding a.toNat hcode.1).2.2
  rw [Char.ofNat_toNat] at hfolded
  obtain ⟨hlower, hkin⟩ := hfolded ha
  have hsame : sameLetter a c = true ↔ lowerChar c = a ∨
      (a.toNat = 0x69 ∧ (lowerChar c).toNat = 0x131) ∨
      (a.toNat = 0x73 ∧ (lowerChar c).toNat = 0x17f) := by
    unfold sameLetter
    dsimp only
    rw [hlower, hkin, Bool.or_eq_true, beq_iff_eq, List.contains_iff_mem]
    refine or_congr_right ?_
    split
    · simp_all
    · split <;> simp_all
  rw [hsame, ← Char.toNat_inj, ← Char.toNat_inj]
  by_cases hwide : c.toNat < 128
  · -- a character of ASCII is no kin
    obtain ⟨hfold, hlow, -⟩ := ascii_folding c.toNat hwide
    rw [Char.ofNat_toNat] at hfold hlow
    rw [hfold]
    omega
  replace hwide := Nat.le_of_not_lt hwide
  -- two letters beyond ASCII have an ASCII letter for their lower case
  by_cases hdotted : c = 'İ'
  · subst hdotted
    have hcodes : (lowerChar 'İ').toNat = 0x69 ∧ (patternFold 'İ').toNat = 0x69 := by
      decide +kernel
    omega
  by_cases hkelvin : c = '\u212a'
  · subst hkelvin
    have hcodes : (lowerChar '\u212a').toNat = 0x6b ∧ (patternFold '\u212a').toNat = 0x6b := by
      decide +kernel
    omega
  -- of the others only the dotless i and the long s are kin of a folded letter
  obtain ⟨hlow, hkin⟩ := lowerChar_beyond hwide hdotted hkelvin
  have hdotless := hkin 0x131 (by simp)
  have hlong := hkin 0x17f (by simp)
  have hi : 'i'.toNat = 0x69 := rfl
  have hs : 's'.toNat = 0x73 := rfl
  obtain ⟨hc, hfold⟩ | ⟨hc, hfold⟩ | ⟨hne, hne', hfold⟩ :=
    patternFold_beyond hwide hdotted hkelvin
  all_goals
    rw [hfold]
    omega

/-! ## §4. Marks. -/

/-- Only the capital letters of ASCII have another lower case, which is a letter. -/
theorem toLower_ascii : ∀ n < 128,
    (Char.ofNat n).toLower = Char.ofNat n ∨
      ((Char.ofNat n).isAlpha = true ∧ (Char.ofNat n).toLower.isAlpha = true) := by
  decide +kernel

/-- Only letters have kin among the characters of ASCII. -/
theorem caseKin_ascii : ∀ n < 128,
    (Char.ofNat n).isAlpha = false → caseKin.lookup n = none := by
  decide +kernel

/-- **A mark counts as no other character.** -/
theorem sameLetter_mark_iff {a c : Char} (hcode : 0 < a.toNat ∧ a.toNat < 128)
    (ha : a.isAlpha = false) : sameLetter a c = true ↔ c = a := by
  have hself : lowerChar a = a := by
    rw [lowerChar, if_pos hcode.2]
    have hlower := toLower_ascii a.toNat hcode.2
    rw [Char.ofNat_toNat] at hlower
    exact hlower.resolve_right fun halpha => Bool.false_ne_true (ha.symm.trans halpha.1)
  have hkin : caseKin.lookup a.toNat = none :=
    caseKin_ascii a.toNat hcode.2 (by rwa [Char.ofNat_toNat])
  have hsame : sameLetter a c = true ↔ lowerChar c = a := by
    unfold sameLetter
    simp only [hself, hkin, Option.getD_none, List.contains_nil, Bool.or_false, beq_iff_eq]
  rw [hsame]
  refine ⟨fun h => ?_, fun h => h ▸ hself⟩
  by_cases hc : c.toNat < 128
  · have hlower := toLower_ascii c.toNat hc
    rw [Char.ofNat_toNat] at hlower
    rw [lowerChar, if_pos hc] at h
    obtain hlower | hlower := hlower
    · exact hlower.symm.trans h
    · exact absurd (ha.symm.trans (h ▸ hlower.2)) Bool.false_ne_true
  · -- beyond ASCII two letters have an ASCII letter for their lower case
    have hbeyond : 128 ≤ c.toNat := Nat.le_of_not_lt hc
    by_cases hdotted : c = 'İ'
    · obtain rfl : a = 'i' := by
        rw [← h, hdotted]
        decide +kernel
      exact absurd ha (by decide)
    by_cases hkelvin : c = 'K'
    · obtain rfl : a = 'k' := by
        rw [← h, hkelvin]
        decide +kernel
      exact absurd ha (by decide)
    have hlower := (lowerChar_beyond hbeyond hdotted hkelvin).1
    rw [h] at hlower
    omega

end SqlDialect.Text
