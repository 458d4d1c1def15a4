/-
  SqlDialect.Proofs.Sql.Word
  ────────────────────────────────
  **WORDS AND LETTER CASE.**

  Word characters stand in bare words, so a plain name is one.  A bare word
  stays one in upper case: no letter has an upper case that is a digit or
  ends a word, which the tables of letters show range by range.
-/
import SqlDialect.Proofs.Text.Ascii
import SqlDialect.Sql.Lexeme

namespace SqlDialect.Sql

open SqlDialect.Text

/-! ## §1. Bare words. -/

/-- A text that is scanned as one word. -/
structure IsBareWord (s : List Char) : Prop where
  inWord : ∀ c ∈ s, isInWord c = true
  first : ∃ c t, s = c :: t ∧ c.isDigit = false

/-! ## §2. What is in no word. -/

/-- The code points of the characters that end a word and of the digits, in
ranges. -/
def outerRanges : List (Nat × Nat) := [
  (0x09, 0x0d), (0x1c, 0x23), (0x25, 0x3f), (0x40, 0x40), (0x5b, 0x5e), (0x60, 0x60),
  (0x7b, 0x7e), (0x85, 0x85), (0xa0, 0xa0), (0x1680, 0x1680), (0x2000, 0x200a),
  (0x2028, 0x2029), (0x202f, 0x202f), (0x205f, 0x205f), (0x3000, 0x3000)]

/-- The code point is in one of the ranges. -/
def isOuter (n : Nat) : Bool := outerRanges.any fun r => r.1 ≤ n && n ≤ r.2

/-- White space is in the ranges. -/
theorem isOuter_of_isBlank {c : Char} (h : isBlank c = true) : isOuter c.toNat = true := by
  simp only [isBlank, isSpace, Bool.or_eq_true, Bool.and_eq_true, decide_eq_true_eq,
    beq_iff_eq] at h
  simp only [isOuter, outerRanges, List.any_cons, List.any_nil, Bool.or_eq_true,
    Bool.and_eq_true, decide_eq_true_eq]
  omega

/-- The characters that end a word are in the ranges. -/
theorem isOuter_of_mem_wordEnds : ∀ c ∈ wordEnds, isOuter c.toNat = true :=
  List.all_eq_true.1 (by decide)

/-- The digits are in the ranges. -/
theorem isOuter_of_isDigit {c : Char} (h : c.isDigit = true) : isOuter c.toNat = true := by
  have hcode := toNat_of_isDigit h
  simp only [isOuter, outerRanges, List.any_cons, List.any_nil, Bool.or_eq_true,
    Bool.and_eq_true, decide_eq_true_eq]
  omega

/-- A character outside the ranges stands in words and is no digit. -/
theorem isInWord_of_not_isOuter {c : Char} (h : isOuter c.toNat = false) :
    isInWord c = true ∧ c.isDigit = false := by
  have hblank : isBlank c = false := by
    rw [Bool.eq_false_iff]
    intro hb
    rw [isOuter_of_isBlank hb] at h
    exact absurd h nofun
  have hend : wordEnds.contains c = false := by
    rw [Bool.eq_false_iff, ne_eq, List.contains_iff_mem]
    intro hmem
    rw [isOuter_of_mem_wordEnds c hmem] at h
    exact absurd h nofun
  refine ⟨by rw [isInWord, hblank, hend]; rfl, ?_⟩
  rw [Bool.eq_false_iff]
  intro hd
  rw [isOuter_of_isDigit hd] at h
  exact absurd h nofun

/-! ## §3. Upper case. -/

/-- No letter beyond ASCII has its upper case in the ranges, and every letter has one. -/
theorem upper_outside : (∀ s ∈ upperShifts, 0 ≤ (s.first : Int) + s.move ∧
      ∀ r ∈ outerRanges, (r.2 : Int) < s.first + s.move ∨ s.last + s.move < (r.1 : Int)) ∧
    ∀ e ∈ upperSequences, e.2 ≠ [] ∧ ∀ n ∈ e.2, isOuter n = false := by
  decide +kernel

/-- What is so of each character of ASCII: its upper case stands in words if it
does, digits are in upper case, word characters stand in words, and letters
and underscores are word characters. -/
theorem ascii_inWord : ∀ n < 128,
    (isInWord (Char.ofNat n) = true → isInWord (Char.ofNat n).toUpper = true ∧
      ((Char.ofNat n).isDigit = false → (Char.ofNat n).toUpper.isDigit = false)) ∧
    ((Char.ofNat n).isDigit = true → upperChar (Char.ofNat n) = [Char.ofNat n]) ∧
    (isWord (Char.ofNat n) = true → isInWord (Char.ofNat n) = true) ∧
    (((Char.ofNat n).isAlpha || Char.ofNat n == '_') = true →
      isWord (Char.ofNat n) = true ∧ (Char.ofNat n).isDigit = false) := by
  decide +kernel

/-- No letter is shifted into the ranges. -/
theorem isOuter_shift? {s : CaseShift} (hs : s ∈ upperShifts) {n m : Nat}
    (h : s.shift? n = some m) : isOuter m = false := by
  unfold CaseShift.shift? at h
  split at h
  next hn =>
    obtain rfl := Option.some.inj h
    rw [isOuter, List.any_eq_false]
    intro r hr hin
    simp only [Bool.and_eq_true, decide_eq_true_eq] at hin
    have hout := (upper_outside.1 s hs).2 r hr
    have hpos := (upper_outside.1 s hs).1
    omega
  next => exact absurd h nofun

/-- The character of a code point outside the ranges is outside too. -/
theorem isOuter_ofNat {n : Nat} (h : isOuter n = false) : isOuter (Char.ofNat n).toNat = false := by
  by_cases hv : n.isValidChar
  · have hn : (Char.ofNat n).toNat = n := by
      rw [Char.ofNat, dif_pos hv]
      rfl
    rw [hn]
    exact h
  · have hn : Char.ofNat n = Char.ofNat 0 := by
      rw [Char.ofNat, dif_neg hv]
      rfl
    rw [hn]
    rfl

/-- What is looked up is in the list. -/
theorem lookup_mem {k : Nat} {ns : List Nat} : ∀ {es : List (Nat × List Nat)},
    es.lookup k = some ns → (k, ns) ∈ es
  | [], h => absurd h nofun
  | (k', ns') :: es, h => by
      rw [List.lookup_cons] at h
      split at h
      next heq =>
        cases h
        rw [beq_iff_eq.1 heq]
        exact List.mem_cons_self
      next => exact List.mem_cons_of_mem _ (lookup_mem h)

/-- A word character has word characters for its upper case. -/
theorem isInWord_of_mem_upperChar {c x : Char} (h : isInWord c = true)
    (hx : x ∈ upperChar c) :
    isInWord x = true ∧ (c.isDigit = false → x.isDigit = false) := by
  unfold upperChar at hx
  split at hx
  next hlt =>
    obtain ⟨n, hn, rfl⟩ := exists_ofNat_of_toNat_lt hlt
    obtain rfl := List.mem_singleton.1 hx
    exact (ascii_inWord n hn).1 h
  next =>
    split at hx
    -- a letter with several capitals, as the sharp s
    next ns hlookup =>
      obtain ⟨n, hn, rfl⟩ := List.mem_map.1 hx
      have hout := isInWord_of_not_isOuter
        (isOuter_ofNat ((upper_outside.2 _ (lookup_mem hlookup)).2 n hn))
      exact ⟨hout.1, fun _ => hout.2⟩
    next =>
      obtain rfl := List.mem_singleton.1 hx
      cases hfind : upperShifts.findSome? (·.shift? c.toNat) with
      | none =>
          rw [Option.getD_none, Char.ofNat_toNat]
          exact ⟨h, id⟩
      | some m =>
          obtain ⟨s, hs, hshift⟩ := List.exists_of_findSome?_eq_some hfind
          have hout := isInWord_of_not_isOuter (isOuter_ofNat (isOuter_shift? hs hshift))
          exact ⟨hout.1, fun _ => hout.2⟩

/-- Digits are in upper case. -/
theorem upper_of_isDigit : ∀ {s : List Char}, (∀ c ∈ s, c.isDigit = true) → upper s = s
  | [], _ => rfl
  | c :: s, h => by
      have hc : c.isDigit = true := h c (by simp)
      have hlt : c.toNat < 128 := by
        have hcode := toNat_of_isDigit hc
        omega
      obtain ⟨n, hn, rfl⟩ := exists_ofNat_of_toNat_lt hlt
      show upperChar _ ++ upper s = _
      rw [(ascii_inWord n hn).2.1 hc, upper_of_isDigit fun x hx => h x (by simp [hx])]
      rfl

/-- A character never vanishes when it is written in capitals. -/
theorem upperChar_ne_nil (c : Char) : upperChar c ≠ [] := by
  unfold upperChar
  split
  · simp
  · split
    next ns hlookup => simpa using (upper_outside.2 _ (lookup_mem hlookup)).1
    next => simp

/-- **A bare word stays one in upper case.** -/
theorem IsBareWord.upper {s : List Char} (h : IsBareWord s) : IsBareWord (upper s) where
  inWord x hx := by
    obtain ⟨c, hc, hx⟩ := List.mem_flatMap.1 hx
    exact (isInWord_of_mem_upperChar (h.inWord c hc) hx).1
  first := by
    obtain ⟨c, t, rfl, hdigit⟩ := h.first
    obtain ⟨x, u, hupper⟩ := List.exists_cons_of_ne_nil (upperChar_ne_nil c)
    refine ⟨x, u ++ Text.upper t, ?_, ?_⟩
    · show upperChar c ++ Text.upper t = _
      rw [hupper, List.cons_append]
    · exact (isInWord_of_mem_upperChar (h.inWord c (by simp)) (by rw [hupper]; simp)).2 hdigit

/-! ## §4. Plain names. -/

/-- The blank characters beyond ASCII. -/
def wideBlanks : List Nat := [
  0x85, 0xa0, 0x1680, 0x2000, 0x2001, 0x2002, 0x2003, 0x2004, 0x2005, 0x2006, 0x2007, 0x2008,
  0x2009, 0x200a, 0x2028, 0x2029, 0x202f, 0x205f, 0x3000]

/-- The white space beyond the basic characters is in no word. -/
theorem isWord_wideBlanks : ∀ n ∈ wideBlanks, isWord (Char.ofNat n) = false := by
  decide +kernel

/-- A character of a plain name never ends a word. -/
theorem isInWord_of_isWord {c : Char} (h : isWord c = true) : isInWord c = true := by
  by_cases hlt : c.toNat < 128
  · obtain ⟨n, hn, rfl⟩ := exists_ofNat_of_toNat_lt hlt
    exact (ascii_inWord n hn).2.2.1 h
  · have hend : wordEnds.contains c = false := by
      rw [Bool.eq_false_iff, ne_eq, List.contains_iff_mem]
      intro hmem
      have hlow : wordEnds.all (fun c => c.toNat < 128) = true := by decide
      exact hlt (of_decide_eq_true (List.all_eq_true.1 hlow c hmem))
    have hblank : isBlank c = false := by
      rw [Bool.eq_false_iff]
      intro hb
      have hmem : c.toNat ∈ wideBlanks := by
        simp only [isBlank, isSpace, Bool.or_eq_true, Bool.and_eq_true, decide_eq_true_eq,
          beq_iff_eq] at hb
        simp only [wideBlanks, List.mem_cons, List.not_mem_nil, or_false]
        omega
      have hword := isWord_wideBlanks _ hmem
      rw [Char.ofNat_toNat, h] at hword
      exact absurd hword.symm Bool.false_ne_true
    rw [isInWord, hblank, hend]
    rfl

/-- A plain name that ends with no newline holds word characters only. -/
theorem isWord_of_areWords : ∀ {s : List Char}, areWords s = true → s.getLast? ≠ some '\n' →
    ∀ c ∈ s, isWord c = true
  | [], _, _ => fun _ hc => absurd hc (by simp)
  | c :: s, h, hlast => by
      have hs : isWord c = true ∧ areWords s = true := by
        unfold areWords at h
        split at h
        next heq => exact absurd heq nofun
        next heq => exact absurd (congrArg List.getLast? heq) hlast
        next heq =>
          obtain ⟨rfl, rfl⟩ := List.cons.inj heq
          exact Bool.and_eq_true_iff.1 h
      have hrest : s.getLast? ≠ some '\n' := by
        intro hend
        rw [List.getLast?_cons, hend] at hlast
        exact hlast rfl
      rintro x (_ | ⟨_, hx⟩)
      · exact hs.1
      · exact isWord_of_areWords hs.2 hrest x hx

/-- **A plain name is a bare word**, unless a newline ends it. -/
theorem isBareWord_of_isPlainName {s : List Char} (h : isPlainName s = true)
    (hlast : s.getLast? ≠ some '\n') : IsBareWord s := by
  cases s with
  | nil => exact absurd h nofun
  | cons c t =>
      obtain ⟨hc, ht⟩ := Bool.and_eq_true_iff.1 h
      have hword : isWord c = true ∧ c.isDigit = false := by
        -- the first character is an ASCII letter or an underscore
        have hlt : c.toNat < 128 := by
          change (decide (65 ≤ c.val ∧ c.val ≤ 90)
            || (decide (97 ≤ c.val) && decide (c.val ≤ 122)) || c == '_') = true at hc
          simp only [Bool.or_eq_true, Bool.and_eq_true, decide_eq_true_eq, beq_iff_eq] at hc
          rcases hc with (⟨_, hle⟩ | ⟨_, hle⟩) | rfl
          · have hle' : c.toNat ≤ 90 := hle
            omega
          · have hle' : c.toNat ≤ 122 := hle
            omega
          · decide
        obtain ⟨n, hn, rfl⟩ := exists_ofNat_of_toNat_lt hlt
        exact (ascii_inWord n hn).2.2.2 hc
      have hrest : ∀ x ∈ t, isWord x = true := by
        refine isWord_of_areWords ht fun hend => ?_
        rw [List.getLast?_cons, hend] at hlast
        exact hlast rfl
      refine ⟨?_, c, t, rfl, hword.2⟩
      rintro x (_ | ⟨_, hx⟩)
      · exact isInWord_of_isWord hword.1
      · exact isInWord_of_isWord (hrest x hx)

/-- A plain name that no newline ends. -/
def isBareName (s : String) : Bool :=
  isPlainName s.toList && s.toList.getLast? != some '\n'

/-- A name that passes the check is a bare word. -/
theorem isBareWord_of_isBareName {s : String} (h : isBareName s = true) :
    IsBareWord s.toList := by
  rw [isBareName, Bool.and_eq_true, bne_iff_ne] at h
  exact isBareWord_of_isPlainName h.1 h.2

end SqlDialect.Sql
