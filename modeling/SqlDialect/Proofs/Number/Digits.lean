/-
  SqlDialect.Proofs.Number.Digits
  ────────────────────────────────
  **DIGITS OF WRITTEN NUMBERS.**

  A written number consists of ASCII digits, the first of which is a zero
  for zero only, and its digits have its value.  How many there are is told
  by the next power of ten:

      (natText n).length ≤ k ↔ n < power 10 k
-/
import SqlDialect.Number.Integer
import SqlDialect.Proofs.Text.Ascii

namespace SqlDialect.Number

open SqlDialect.Text

/-! ## §1. Digits. -/

/-- A number is written in digits only. -/
theorem isDigit_of_mem_natText {n : Nat} {c : Char} (h : c ∈ natText n) :
    c.isDigit = true :=
  Nat.isDigit_of_mem_toDigits (by decide) (by decide) h

theorem natText_ne_nil (n : Nat) : natText n ≠ [] :=
  Nat.toDigits_ne_nil

theorem natText_zero : natText 0 = ['0'] :=
  Nat.toDigits_zero 10

/-- Only zero is written with a zero in front. -/
theorem natText_eq_cons {n : Nat} (h : 0 < n) :
    ∃ d ds, natText n = d :: ds ∧ d ≠ '0' := by
  induction n using Nat.strongRecOn with
  | _ n ih =>
      by_cases hn : n < 10
      · have key : ∀ k < 10, 0 < k → Nat.digitChar k ≠ '0' := by decide
        exact ⟨_, [], Nat.toDigits_of_lt_base hn, key n hn h⟩
      · obtain ⟨d, ds, hd, hne⟩ := ih (n / 10) (by omega) (by omega)
        refine ⟨d, ds ++ [Nat.digitChar (n % 10)], ?_, hne⟩
        show Nat.toDigits 10 n = _
        rw [Nat.toDigits_of_base_le (by decide) (by omega)]
        show natText (n / 10) ++ _ = _
        rw [hd, List.cons_append]

/-- The digits of a number have its value. -/
theorem foldl_natText (n : Nat) :
    (natText n).foldl (fun v c => 10 * v + (c.toNat - '0'.toNat)) 0 = n := by
  have h := Nat.ofDigitChars_ten_toDigits (n := n)
  rwa [Nat.ofDigitChars_eq_foldl] at h

/-- Different numbers are written differently. -/
theorem natText_inj {n m : Nat} (h : natText n = natText m) : n = m := by
  rw [← foldl_natText n, ← foldl_natText m, h]

/-- A digit at the end. -/
theorem natText_mul_ten_add {n k : Nat} (hn : 0 < n) (hk : k < 10) :
    natText (10 * n + k) = natText n ++ [Nat.digitChar k] := by
  have hquotient : (10 * n + k) / 10 = n := by omega
  have hrest : (10 * n + k) % 10 = k := by omega
  have hstep : natText (10 * n + k)
      = natText ((10 * n + k) / 10) ++ [Nat.digitChar ((10 * n + k) % 10)] :=
    Nat.toDigits_of_base_le (by decide) (by omega)
  rw [hstep, hquotient, hrest]

/-- A number below ten is one digit. -/
theorem natText_of_lt_ten {n : Nat} (h : n < 10) : natText n = [Nat.digitChar n] :=
  Nat.toDigits_of_lt_base h

/-- Numbers of two digits. -/
theorem paddedText_two {n : Nat} (h : n < 100) :
    paddedText 2 n = [Nat.digitChar (n / 10), Nat.digitChar (n % 10)] := by
  by_cases hn : n < 10
  · have hzero : n / 10 = 0 := by omega
    have hrest : n % 10 = n := by omega
    rw [paddedText, natText_of_lt_ten hn, hzero, hrest]
    rfl
  · have hdigits : 10 * (n / 10) + n % 10 = n := Nat.div_add_mod n 10
    have htext : natText n = natText (n / 10) ++ [Nat.digitChar (n % 10)] := by
      rw [← natText_mul_ten_add (by omega) (Nat.mod_lt n (by decide)), hdigits]
    rw [paddedText, htext, natText_of_lt_ten (by omega)]
    rfl

/-- A number with two digits behind it. -/
theorem natText_append_two {n k : Nat} (hn : 0 < n) (hk : k < 100) :
    natText n ++ paddedText 2 k = natText (100 * n + k) := by
  have hdigits : 100 * n + k = 10 * (10 * n + k / 10) + k % 10 := by omega
  rw [hdigits, natText_mul_ten_add (by omega) (by omega), natText_mul_ten_add hn (by omega),
    paddedText_two hk, List.append_assoc]
  rfl

/-! ## §2. The limit. -/

/-- A number has no more digits than the power of ten above it tells. -/
theorem length_natText_le_iff (n : Nat) {k : Nat} (hk : 0 < k) :
    (natText n).length ≤ k ↔ n < power 10 k :=
  Nat.length_toDigits_le_iff (by decide) hk

/-- The length of a number between two powers of ten. -/
theorem length_natText_eq {n k : Nat} (h : power 10 k ≤ n) (h' : n < power 10 (k + 1)) :
    (natText n).length = k + 1 := by
  have hle : (natText n).length ≤ k + 1 := (length_natText_le_iff n (Nat.succ_pos k)).2 h'
  refine Nat.le_antisymm hle (Nat.le_of_not_lt fun hlt => ?_)
  by_cases hk : k = 0
  · -- there is at least one digit
    exact natText_ne_nil n (List.length_eq_zero_iff.1 (by omega))
  · have hshort := (length_natText_le_iff n (Nat.pos_of_ne_zero hk)).1 (Nat.le_of_lt_succ hlt)
    exact absurd hshort (Nat.not_lt.2 h)

/-- A number that can be written has at most as many digits as are allowed. -/
theorem length_natText_le {n : Int} (h : isWritable n = true) :
    (natText n.natAbs).length ≤ maxDigits :=
  (length_natText_le_iff n.natAbs (by decide)).2 (of_decide_eq_true h)

/-- A number with no more digits than are allowed can be written. -/
theorem isWritable_of_length_le {n : Int} (h : (natText n.natAbs).length ≤ maxDigits) :
    isWritable n = true :=
  decide_eq_true ((length_natText_le_iff n.natAbs (by decide)).1 h)

/-! ## §3. The order of texts. -/

/-- Texts of one length are ordered by their fronts first. -/
theorem append_lt_append {s t : List Char} (hlength : s.length = t.length) (h : s < t)
    (s' t' : List Char) : s ++ s' < t ++ t' := by
  induction s generalizing t with
  | nil =>
      obtain rfl := List.length_eq_zero_iff.1 hlength.symm
      exact absurd h (List.lt_irrefl [])
  | cons c s ih =>
      obtain _ | ⟨c', t⟩ := t
      · exact absurd hlength (by simp)
      · rw [List.cons_append, List.cons_append, List.cons_lt_cons_iff]
        obtain hc | ⟨rfl, htail⟩ := List.cons_lt_cons_iff.1 h
        · exact .inl hc
        · exact .inr ⟨rfl, ih (Nat.succ.inj hlength) htail⟩

/-- **Numbers of one length are ordered as their texts.**  The induction takes
the last digit off: the digits before it decide, unless they are the same. -/
theorem natText_lt_natText {n m : Nat} (hlength : (natText n).length = (natText m).length)
    (h : n < m) : natText n < natText m := by
  induction n using Nat.strongRecOn generalizing m with
  | _ n ih =>
      have hdigit : ∀ i < 10, ∀ j < 10, i < j → Nat.digitChar i < Nat.digitChar j := by decide
      -- one digit decides, or the front does, or the last digit behind equal fronts
      by_cases hn : n < 10
      · have hm : m < 10 := by
          have hone : (natText n).length ≤ 1 := (length_natText_le_iff n (by decide)).2 hn
          exact (length_natText_le_iff m (by decide)).1 (hlength ▸ hone)
        rw [natText_of_lt_ten hn, natText_of_lt_ten hm]
        exact List.cons_lt_cons_iff.2 (.inl (hdigit n hn m hm h))
      · have htext : ∀ k, 10 ≤ k → natText k = natText (k / 10) ++ [Nat.digitChar (k % 10)] :=
          fun k hk => Nat.toDigits_of_base_le (by decide) hk
        rw [htext n (by omega), htext m (by omega), List.length_append,
          List.length_append] at hlength
        rw [htext n (by omega), htext m (by omega)]
        by_cases hfront : n / 10 < m / 10
        · exact append_lt_append (Nat.add_right_cancel hlength)
            (ih (n / 10) (by omega) (Nat.add_right_cancel hlength) hfront) _ _
        · have hsame : n / 10 = m / 10 := by omega
          rw [hsame]
          refine List.append_left_lt (List.cons_lt_cons_iff.2 (.inl ?_))
          exact hdigit _ (Nat.mod_lt n (by decide)) _ (Nat.mod_lt m (by decide)) (by omega)

/-! ## §4. Padded numbers. -/

/-- A number is padded with digits. -/
theorem isDigit_of_mem_paddedText {width n : Nat} {c : Char} (h : c ∈ paddedText width n) :
    c.isDigit = true := by
  obtain h | h := List.mem_append.1 h
  · rw [List.eq_of_mem_replicate h]
    rfl
  · exact isDigit_of_mem_natText h

/-- Zeros in front change no value. -/
theorem foldl_paddedText (width n : Nat) :
    (paddedText width n).foldl (fun v c => 10 * v + (c.toNat - '0'.toNat)) 0 = n := by
  have hzeros : ∀ k, (List.replicate k '0').foldl
      (fun v c => 10 * v + (c.toNat - '0'.toNat)) 0 = 0 := by
    intro k
    induction k with
    | zero => rfl
    | succ k ih => exact ih
  rw [paddedText, List.foldl_append, hzeros]
  exact foldl_natText n

/-- A number that fits is as wide as it is padded to. -/
theorem length_paddedText {width n : Nat} (hwidth : 0 < width) (h : n < power 10 width) :
    (paddedText width n).length = width := by
  have hle := (length_natText_le_iff n hwidth).2 h
  rw [paddedText, List.length_append, List.length_replicate]
  omega

/-- **Padded numbers are ordered as their texts.**  A shorter number has a zero
where the longer one begins. -/
theorem paddedText_lt_paddedText {width n m : Nat} (hwidth : 0 < width) (h : n < m)
    (hm : m < power 10 width) : paddedText width n < paddedText width m := by
  have hpos : 0 < (natText m).length := List.length_pos_iff.2 (natText_ne_nil m)
  have hlong : m < power 10 (natText m).length := (length_natText_le_iff m hpos).1 (Nat.le_refl _)
  have hle : (natText n).length ≤ (natText m).length :=
    (length_natText_le_iff n hpos).2 (Nat.lt_trans h hlong)
  have hmwidth := (length_natText_le_iff m hwidth).2 hm
  unfold paddedText
  -- with as many digits the digits decide, with fewer a zero stands before a digit
  obtain heq | hlt := Nat.eq_or_lt_of_le hle
  · rw [heq]
    exact List.append_left_lt (natText_lt_natText heq h)
  · obtain ⟨k, hk⟩ : ∃ k, width - (natText n).length = width - (natText m).length + (k + 1) :=
      ⟨(natText m).length - (natText n).length - 1, by omega⟩
    obtain ⟨d, ds, hd, hne⟩ := natText_eq_cons (Nat.lt_of_le_of_lt (Nat.zero_le n) h)
    have hdigit : d.isDigit = true := isDigit_of_mem_natText (n := m) (by rw [hd]; simp)
    have hzero : '0' < d := by
      have hcode := toNat_of_isDigit hdigit
      have hcode' : d.toNat ≠ 48 := fun hcode' => hne (Char.toNat_inj.1 hcode')
      show 48 < d.toNat
      omega
    rw [hk, ← List.replicate_append_replicate, List.append_assoc, hd, List.replicate_succ,
      List.cons_append]
    exact List.append_left_lt (List.cons_lt_cons_iff.2 (.inl hzero))

/-! ## §5. Signs. -/

/-- A number is written as its magnitude behind its sign. -/
theorem intText_eq (n : Int) :
    intText n = (if n < 0 then ['-'] else []) ++ natText n.natAbs := by
  cases n with
  | ofNat n =>
      rw [if_neg (by simp)]
      rfl
  | negSucc n =>
      rw [if_pos (Int.negSucc_lt_zero n)]
      rfl

theorem intText_ne_nil (n : Int) : intText n ≠ [] := by
  rw [intText_eq]
  exact List.append_ne_nil_of_right_ne_nil _ (natText_ne_nil n.natAbs)

/-- A number is its size with its sign. -/
theorem signed_natAbs (n : Int) : signed (decide (n < 0)) n.natAbs = n := by
  unfold signed
  split
  · next h => have := of_decide_eq_true h; omega
  · next h => have := of_decide_eq_false (Bool.eq_false_iff.2 h); omega

/-- The sign of a written number is split off. -/
theorem splitSign_intText (n : Int) (rest : List Char) :
    splitSign (intText n ++ rest) = (decide (n < 0), natText n.natAbs ++ rest) := by
  rw [intText_eq]
  by_cases h : n < 0
  · simp [h, splitSign]
  · simp only [h, if_false, List.nil_append, decide_false]
    -- the first digit is no sign
    obtain ⟨d, ds, hd⟩ := List.exists_cons_of_ne_nil (natText_ne_nil n.natAbs)
    have hdig : d.isDigit = true := isDigit_of_mem_natText (by rw [hd]; simp)
    rw [hd, List.cons_append, splitSign]
    · rintro _ ⟨⟩
      exact absurd hdig (by decide)
    · rintro _ ⟨⟩
      exact absurd hdig (by decide)

/-! ## §6. Reading. -/

/-- Each decimal digit has its value. -/
theorem digit?_of_isDigit {c : Char} (h : c.isDigit = true) :
    digit? c = some (c.toNat - '0'.toNat) := by
  simp only [Char.isDigit, Bool.and_eq_true, decide_eq_true_eq] at h
  exact digit?_of_asciiDigit? (if_pos h)

/-- A run of digits is read digit by digit. -/
theorem digitRun?_of_isDigit : ∀ {s : List Char}, s ≠ [] → (∀ c ∈ s, c.isDigit = true) →
    digitRun? s = some (s.map fun c => c.toNat - '0'.toNat)
  | [], h, _ => absurd rfl h
  | [c], _, h => by
      rw [digitRun?, digit?_of_isDigit (h c (by simp))]
      rfl
  | c :: x :: s, _, h => by
      have hx : x ≠ '_' := by
        rintro rfl
        exact absurd (h '_' (by simp)) (by decide)
      have hrest := digitRun?_of_isDigit (s := x :: s) nofun fun y hy =>
        h y (by simp [List.mem_cons.1 hy])
      rw [digitRun?, digit?_of_isDigit (h c (by simp)), hrest]
      · rfl
      · exact nofun
      · rintro y ⟨⟩
        exact hx rfl

/-- No digit is white space. -/
theorem isSpace_of_isDigit {c : Char} (h : c.isDigit = true) : isSpace c = false := by
  have hcode := toNat_of_isDigit h
  simp only [isSpace, Bool.or_eq_false_iff, Bool.and_eq_false_iff, decide_eq_false_iff_not,
    beq_eq_false_iff_ne]
  omega

/-- The text of a number is refused for its length only. -/
theorem readInt_intText_eq (n : Int) :
    readInt (intText n) = if maxDigits < (natText n.natAbs).length
      then .error (.tooManyDigits (natText n.natAbs).length) else .ok n := by
  have hdigits : ∀ c ∈ natText n.natAbs, c.isDigit = true := fun c => isDigit_of_mem_natText
  -- nothing is skipped in front, and nothing is left behind the digits
  have hspace : (intText n).dropWhile isSpace = intText n := by
    rw [intText_eq]
    split
    · exact List.dropWhile_cons_of_neg (by decide)
    · obtain ⟨d, ds, hd⟩ := List.exists_cons_of_ne_nil (natText_ne_nil n.natAbs)
      have hdig : d.isDigit = true := hdigits d (by rw [hd]; simp)
      have hnot : isSpace d = false := isSpace_of_isDigit hdig
      rw [List.nil_append, hd]
      exact List.dropWhile_cons_of_neg (by simp [hnot])
  have hsign := splitSign_intText n []
  rw [List.append_nil, List.append_nil] at hsign
  have htake : (natText n.natAbs).takeWhile (fun c => c == '_' || (digit? c).isSome)
      = natText n.natAbs := by
    have hall : (natText n.natAbs ++ []).takeWhile (fun c => c == '_' || (digit? c).isSome)
        = natText n.natAbs ++ [] := by
      refine List.takeWhile_append_of_pos fun c hc => ?_
      rw [digit?_of_isDigit (hdigits c hc)]
      simp
    rw [List.append_nil] at hall
    exact hall
  have hvalue : ofDigits ((natText n.natAbs).map fun c => c.toNat - '0'.toNat) = n.natAbs := by
    rw [ofDigits, List.foldl_map]
    exact foldl_natText n.natAbs
  unfold readInt
  simp only [hspace, hsign, htake, digitRun?_of_isDigit (natText_ne_nil _) hdigits,
    List.length_map, List.drop_length, List.all_nil, if_true, hvalue, signed_natAbs]

/-- **A written number is read back.** -/
theorem readInt_intText {n : Int} (h : isWritable n = true) : readInt (intText n) = .ok n := by
  rw [readInt_intText_eq, if_neg (Nat.not_lt.2 (length_natText_le h))]

/-- The text of a number with too many digits is not read. -/
theorem readInt_intText_of_long {n : Int} (h : isWritable n = false) :
    readInt (intText n) = .error (.tooManyDigits (natText n.natAbs).length) := by
  refine (readInt_intText_eq n).trans (if_pos (Nat.lt_of_not_le fun hle => ?_))
  exact absurd (h.symm.trans (isWritable_of_length_le hle)) nofun

/-! ## §7. Numbers that have been read. -/

/-- No digit counts more than nine. -/
theorem digit?_lt_ten {c : Char} {d : Nat} (h : digit? c = some d) : d < 10 := by
  unfold digit? at h
  split at h
  next k hk =>
    unfold asciiDigit? at hk
    split at hk
    next hc =>
      have hle : c.toNat ≤ '9'.toNat := hc.2
      have hvalue : c.toNat - '0'.toNat = d := Option.some.inj (hk.trans h)
      have hbounds : '9'.toNat - '0'.toNat = 9 := rfl
      omega
    next => exact absurd hk nofun
  next =>
    split at h
    next => exact absurd h nofun
    next =>
      -- the digits of a script stand in a row from its zero on
      obtain ⟨z, hz, rfl⟩ := Option.map_eq_some_iff.1 h
      have hrange := List.find?_some hz
      rw [Bool.and_eq_true, decide_eq_true_eq, decide_eq_true_eq] at hrange
      omega

/-- No digit of a run counts more than nine. -/
theorem digitRun?_lt_ten : ∀ {s : List Char} {ds : List Nat}, digitRun? s = some ds →
    ∀ d ∈ ds, d < 10
  | [], _, h => absurd h nofun
  | [c], ds, h => by
      obtain ⟨d, hd, rfl⟩ := Option.map_eq_some_iff.1 h
      exact List.forall_mem_singleton.2 (digit?_lt_ten hd)
  | c :: x :: s, ds, h => by
      -- an underscore is passed over, a digit is read
      by_cases hx : x = '_'
      · subst hx
        rw [digitRun?] at h
        obtain ⟨d, hd, h⟩ := Option.bind_eq_some_iff.1 h
        obtain ⟨rest, hrest, h⟩ := Option.bind_eq_some_iff.1 h
        obtain rfl := Option.some.inj h
        exact List.forall_mem_cons.2 ⟨digit?_lt_ten hd, digitRun?_lt_ten hrest⟩
      · rw [digitRun?] at h
        · obtain ⟨d, hd, h⟩ := Option.bind_eq_some_iff.1 h
          obtain ⟨rest, hrest, h⟩ := Option.bind_eq_some_iff.1 h
          obtain rfl := Option.some.inj h
          exact List.forall_mem_cons.2 ⟨digit?_lt_ten hd, digitRun?_lt_ten hrest⟩
        · exact nofun
        · rintro y ⟨⟩
          exact hx rfl

/-- Digits behind a number keep it below the next number with as many zeros
behind it. -/
theorem foldl_digits_lt : ∀ (ds : List Nat) (n : Nat), (∀ d ∈ ds, d < 10) →
    ds.foldl (fun n d => 10 * n + d) n < (n + 1) * power 10 ds.length
  | [], n, _ => by
      show n < (n + 1) * 1
      omega
  | d :: ds, n, h => by
      have hd := h d (by simp)
      have ih := foldl_digits_lt ds (10 * n + d) fun x hx => h x (by simp [hx])
      have hle : (10 * n + d + 1) * power 10 ds.length ≤ (n + 1) * 10 * power 10 ds.length :=
        Nat.mul_le_mul_right _ (by omega)
      rw [List.foldl_cons, List.length_cons, power_succ, Nat.mul_comm _ 10, ← Nat.mul_assoc]
      omega

/-- Digits are worth less than the power of ten of their number. -/
theorem ofDigits_lt_power {ds : List Nat} (h : ∀ d ∈ ds, d < 10) :
    ofDigits ds < power 10 ds.length := by
  have hlt := foldl_digits_lt ds 0 h
  rwa [Nat.zero_add, Nat.one_mul] at hlt

theorem power_ten_le {i j : Nat} (h : i ≤ j) : power 10 i ≤ power 10 j :=
  Nat.pow_le_pow_right (by decide) h

/-- The power of ten behind the last allowed digit has too many. -/
theorem isWritable_power_eq_false {k : Nat} (h : maxDigits ≤ k) :
    isWritable (power 10 k : Nat) = false := by
  rw [isWritable, decide_eq_false_iff_not, Nat.not_lt, Int.natAbs_natCast]
  exact power_ten_le h

/-- A number of 5001 digits cannot be written.  It is named by its power, for
no proof should count it out. -/
theorem exists_long_number : ∃ n : Nat, n = power 10 5000 ∧ isWritable n = false :=
  ⟨_, rfl, isWritable_power_eq_false (by decide)⟩

/-- **A number that has been read can be written.** -/
theorem isWritable_of_readInt? {s : List Char} {n : Int} (h : readInt? s = some n) :
    isWritable n = true := by
  unfold readInt? readInt at h
  dsimp only at h
  split at h
  next => exact absurd h nofun
  next ds hds =>
    split at h
    next => exact absurd h nofun
    next hlength =>
      split at h
      next =>
        obtain rfl := Option.some.inj h
        -- below the power of ten with as many zeros as there are digits
        have hlt := ofDigits_lt_power (digitRun?_lt_ten hds)
        have hle := power_ten_le (Nat.le_of_not_lt hlength)
        have habs : ∀ negative, (signed negative (ofDigits ds)).natAbs = ofDigits ds := by
          rintro (_ | _) <;> simp [signed]
        unfold isWritable
        rw [habs]
        exact decide_eq_true (Nat.lt_of_lt_of_le hlt hle)
      next => exact absurd h nofun

/-! ## §8. Texts that are no numbers. -/

/-- At most one sign is split off. -/
theorem exists_sign_splitSign (s : List Char) :
    ∃ sign, s = sign ++ (splitSign s).2 ∧ (sign = [] ∨ sign = ['-'] ∨ sign = ['+']) := by
  unfold splitSign
  split
  next => exact ⟨['-'], rfl, .inr (.inl rfl)⟩
  next => exact ⟨['+'], rfl, .inr (.inr rfl)⟩
  next => exact ⟨[], rfl, .inl rfl⟩

/-- The parts of the text of a whole number. -/
theorem shape_of_readInt?_eq_some {s : List Char} {n : Int} (h : readInt? s = some n) :
    ∃ front sign run back, s = front ++ (sign ++ (run ++ back)) ∧
      (∀ c ∈ front, isSpace c = true) ∧ (sign = [] ∨ sign = ['-'] ∨ sign = ['+']) ∧
      (∀ c ∈ run, c = '_' ∨ (digit? c).isSome = true) ∧ ∀ c ∈ back, isSpace c = true := by
  obtain ⟨sign, hsign, hkind⟩ := exists_sign_splitSign (s.dropWhile isSpace)
  unfold readInt? readInt at h
  dsimp only at h
  -- white space, a sign and a run of digits are taken off in turn
  generalize (splitSign (s.dropWhile isSpace)).2 = body at h hsign
  -- behind the run only white space is allowed
  generalize hrun : body.takeWhile (fun c => c == '_' || (digit? c).isSome) = run at h
  have hbody : body = run ++ body.drop run.length := by
    obtain ⟨tail, htail⟩ := hrun ▸ List.takeWhile_prefix (l := body) fun c =>
      c == '_' || (digit? c).isSome
    rw [← htail, List.drop_left]
  refine ⟨s.takeWhile isSpace, sign, run, body.drop run.length, ?_, ?_, hkind, ?_, ?_⟩
  · rw [← hbody, ← hsign, List.takeWhile_append_dropWhile]
  · exact List.all_eq_true.1 List.all_takeWhile
  · intro c hc
    rw [← hrun] at hc
    have htest := List.all_eq_true.1 List.all_takeWhile c hc
    rw [Bool.or_eq_true, beq_iff_eq] at htest
    exact htest
  · cases hds : digitRun? run with
    | none => rw [hds] at h; exact absurd h nofun
    | some ds =>
        rw [hds] at h
        dsimp only at h
        split at h
        · exact absurd h nofun
        · split at h
          next hback => exact List.all_eq_true.1 hback
          next => exact absurd h nofun

/-- A character of the text of a whole number. -/
def isNumeral (c : Char) : Bool :=
  isSpace c || c == '-' || c == '+' || c == '_' || (digit? c).isSome

/-- **A text with any other character is no whole number.** -/
theorem readInt?_eq_none_of_mem {s : List Char} {c : Char} (hc : c ∈ s)
    (hn : isNumeral c = false) : readInt? s = none := by
  refine Option.eq_none_iff_forall_ne_some.2 fun n h => ?_
  obtain ⟨front, sign, run, back, rfl, hfront, hsign, hrun, hback⟩ := shape_of_readInt?_eq_some h
  simp only [isNumeral, Bool.or_eq_false_iff, beq_eq_false_iff_ne] at hn
  obtain ⟨⟨⟨⟨hspace, hminus⟩, hplus⟩, hunder⟩, hdigit⟩ := hn
  rw [List.mem_append, List.mem_append, List.mem_append] at hc
  rcases hc with hc | hc | hc | hc
  · exact absurd (hfront c hc) (by rw [hspace]; nofun)
  · rcases hsign with rfl | rfl | rfl
    · exact absurd hc List.not_mem_nil
    · exact hminus (List.mem_singleton.1 hc)
    · exact hplus (List.mem_singleton.1 hc)
  · rcases hrun c hc with hu | hd
    · exact hunder hu
    · exact absurd hd (by rw [hdigit]; nofun)
  · exact absurd (hback c hc) (by rw [hspace]; nofun)

/-- A text with a minus behind its first digit is no whole number. -/
theorem readInt?_eq_none_of_minus {d : Char} {s : List Char} (hd : d.isDigit = true)
    (hs : '-' ∈ s) : readInt? (d :: s) = none := by
  refine Option.eq_none_iff_forall_ne_some.2 fun n h => ?_
  obtain ⟨front, sign, run, back, heq, hfront, hsign, hrun, hback⟩ := shape_of_readInt?_eq_some h
  have hnotSpace : isSpace d = false := isSpace_of_isDigit hd
  -- nothing stands before the first digit
  obtain rfl : front = [] := by
    cases front with
    | nil => rfl
    | cons c front =>
        obtain ⟨rfl, -⟩ := List.cons.inj heq
        exact absurd (hfront d (by simp)) (by rw [hnotSpace]; nofun)
  obtain rfl : sign = [] := by
    rcases hsign with rfl | rfl | rfl
    · rfl
    · obtain ⟨rfl, -⟩ := List.cons.inj heq
      exact absurd hd (by decide)
    · obtain ⟨rfl, -⟩ := List.cons.inj heq
      exact absurd hd (by decide)
  have hmem : '-' ∈ run ++ back := by
    rw [List.nil_append, List.nil_append] at heq
    exact heq ▸ List.mem_cons_of_mem d hs
  obtain hmem | hmem := List.mem_append.1 hmem
  · exact absurd (hrun _ hmem) (by decide)
  · exact absurd (hback _ hmem) (by decide)

end SqlDialect.Number
