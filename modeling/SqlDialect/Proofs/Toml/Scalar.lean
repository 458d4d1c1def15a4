/-
  SqlDialect.Proofs.Toml.Scalar
  ────────────────────────────────
  **WRITTEN VALUES ARE READ BACK.**

  A whole number is written in decimal digits.  Dates, times and numbers in
  other bases are tried before it, but each of them asks for a mark behind
  its first digits, and behind the digits of a written number the line ends.
  So a written value at the end of its line is read as

      storedValue v

  which is the value itself for truth values and whole numbers, and the text
  that it shows for everything else.
-/
import Mathlib.Data.List.Basic
import SqlDialect.Proofs.Number.Digits
import SqlDialect.Proofs.Steps
import SqlDialect.Proofs.Toml.Text
import SqlDialect.Toml.Writer

namespace SqlDialect.Toml

open SqlDialect.Text SqlDialect.Number SqlDialect.Calendar

/-! ## §1. What stands behind digits. -/

/-- What ends a value is a newline, if anything follows. -/
theorem AtLineEnd.head_eq {rest : List Char} (h : AtLineEnd rest) {c : Char}
    (hc : c ∈ rest.head?) : c = '\n' := by
  obtain rfl | ⟨t, rfl⟩ := h
  · simp at hc
  · simpa using hc.symm

/-- A run of digits ends with its line. -/
theorem takeRun_eq {p : Char → Bool} (hnl : p '\n' = false) (hu : p '_' = false)
    {rest : List Char} (h : AtLineEnd rest) :
    ∀ ds : List Char, (∀ c ∈ ds, p c = true) → takeRun p (ds ++ rest) = (ds, rest)
  | [], _ => by
      obtain rfl | ⟨t, rfl⟩ := h
      · rfl
      · simp [takeRun, hnl]
  | c :: ds, hp => by
      have hc : p c = true := hp c (by simp)
      have ih := takeRun_eq hnl hu h ds fun x hx => hp x (by simp [hx])
      rw [List.cons_append, takeRun.eq_2, if_pos hc, ih]
      rintro c' rest' rfl
      exact absurd hc (by simp [hu])

/-- No mark stands behind the digits of a field: they are followed by more
digits or by the line end. -/
theorem takeMark?_takeField? {mark : Char} (hd : mark.isDigit = false) (hm : mark ≠ '\n')
    {ds rest : List Char} (hds : ∀ c ∈ ds, c.isDigit = true) (h : AtLineEnd rest)
    {n v : Nat} {s : List Char} (hf : takeField? n (ds ++ rest) = some (v, s)) :
    takeMark? mark s = none := by
  unfold takeField? at hf
  split at hf
  next hlen =>
    obtain ⟨vs, hvs, heq⟩ := Option.map_eq_some_iff.1 hf
    obtain ⟨-, rfl⟩ := Prod.mk.inj heq
    -- the line end is no digit, so the field ends before it
    have hle : n ≤ ds.length := by
      by_contra hgt
      have hnl : '\n' ∈ (ds ++ rest).take n := by
        obtain rfl | ⟨t, rfl⟩ := h
        · simp only [List.append_nil, List.length_take] at hlen
          omega
        · rw [List.take_append, List.take_of_length_le (by omega)]
          obtain ⟨k, hk⟩ : ∃ k, n - ds.length = k + 1 := ⟨n - ds.length - 1, by omega⟩
          simp [hk]
      rw [mapM_eq_none (f := asciiDigit?) rfl hnl] at hvs
      exact absurd hvs nofun
    rw [List.drop_append_of_le_length hle]
    cases hdrop : ds.drop n with
    | nil =>
        cases hr : rest with
        | nil => rfl
        | cons c t =>
            obtain rfl := h.head_eq (c := c) (by simp [hr])
            exact if_neg hm.symm
    | cons c t =>
        refine if_neg ?_
        rintro rfl
        have hc := hds c (List.mem_of_mem_drop (hdrop ▸ List.mem_cons_self))
        rw [hd] at hc
        exact absurd hc nofun
  next => exact absurd hf nofun

/-- A field starts with no sign. -/
theorem takeField?_minus (n : Nat) (s : List Char) : takeField? (n + 1) ('-' :: s) = none := by
  unfold takeField?
  split
  · rw [mapM_eq_none (a := '-') rfl (by simp)]
    rfl
  · rfl

/-! ## §2. Whole numbers. -/

/-- A written number is followed by neither of the marks of dates and times. -/
theorem takeMark?_intText (mark : Char) (hd : mark.isDigit = false) (hm : mark ≠ '\n')
    (k : Int) {rest : List Char} (h : AtLineEnd rest) {n v : Nat} {s : List Char}
    (hf : takeField? (n + 1) (intText k ++ rest) = some (v, s)) :
    takeMark? mark s = none := by
  rw [intText_eq, List.append_assoc] at hf
  split at hf
  · rw [List.singleton_append, takeField?_minus] at hf
    exact absurd hf nofun
  · rw [List.nil_append] at hf
    exact takeMark?_takeField? hd hm (fun c => isDigit_of_mem_natText) h hf

/-- No number is taken for a time. -/
theorem takeTime?_intText (k : Int) {rest : List Char} (h : AtLineEnd rest) :
    takeTime? (intText k ++ rest) = none := by
  -- a date would have a dash behind four digits, a time a colon behind two
  have hdate : takeDate? (intText k ++ rest) = none := by
    unfold takeDate?
    cases hf : takeField? 4 (intText k ++ rest) with
    | none => rfl
    | some r =>
        have hmark := takeMark?_intText '-' rfl (by decide) k h hf
        simp only [Option.bind_eq_bind, Option.bind_some, hmark, Option.bind_none]
  have hclock : takeClock? (intText k ++ rest) = none := by
    unfold takeClock?
    cases hf : takeField? 2 (intText k ++ rest) with
    | none => rfl
    | some r =>
        have hmark := takeMark?_intText ':' rfl (by decide) k h hf
        simp only [Option.bind_eq_bind, Option.bind_some, hmark, Option.bind_none]
  rw [takeTime?, hdate, hclock]
  rfl

/-- A written number starts with a digit or with a minus sign. -/
theorem intText_eq_cons (k : Int) :
    ∃ c t, intText k = c :: t ∧ (c.isDigit = true ∨ c = '-') := by
  rw [intText_eq]
  split
  · exact ⟨_, _, rfl, .inr rfl⟩
  · obtain ⟨d, ds, hd⟩ := List.exists_cons_of_ne_nil (natText_ne_nil k.natAbs)
    exact ⟨d, ds, by rw [hd]; rfl, .inl (isDigit_of_mem_natText (by rw [hd]; simp))⟩

/-- No other base: a zero is followed by the line end. -/
theorem takeBased?_intText (k : Int) {rest : List Char} (h : AtLineEnd rest) :
    takeBased? (intText k ++ rest) = none := by
  rw [takeBased?.eq_def]
  split
  next letter t heq =>
    -- a number that starts with a zero is zero
    have hk : k = 0 := by
      rw [intText_eq] at heq
      split at heq
      · exact absurd (List.cons.inj heq).1 (by decide)
      · by_contra hne
        obtain ⟨d, ds, hd, hd0⟩ := natText_eq_cons (n := k.natAbs) (by omega)
        rw [hd] at heq
        exact hd0 (List.cons.inj heq).1
    subst hk
    have hrest : rest = letter :: t := (List.cons.inj heq).2
    obtain rfl := h.head_eq (c := letter) (by simp [hrest])
    rfl
  next => rfl

/-- A number is taken as a whole. -/
theorem takeWhole?_natText (n : Nat) {rest : List Char} (h : AtLineEnd rest) :
    takeWhole? (natText n ++ rest) = some (natText n, rest) := by
  rcases Nat.eq_zero_or_pos n with rfl | hpos
  · rw [natText_zero]
    rfl
  · obtain ⟨d, ds, hd, hd0⟩ := natText_eq_cons hpos
    have hdig : ∀ c ∈ natText n, c.isDigit = true := fun c => isDigit_of_mem_natText
    have hrun := takeRun_eq rfl rfl h (natText n) hdig
    rw [hd] at hdig hrun ⊢
    rw [List.cons_append] at hrun ⊢
    rw [takeWhole?, takeDigits?, if_pos (hdig d (by simp)), hrun]
    rintro t ⟨⟩
    exact hd0 rfl

/-- A decimal digit has its value in other bases too. -/
theorem hexDigit?_of_isDigit {c : Char} (h : c.isDigit = true) :
    hexDigit? c = some (c.toNat - '0'.toNat) := by
  simp only [Char.isDigit, Bool.and_eq_true, decide_eq_true_eq] at h
  exact if_pos ⟨h.1, h.2⟩

/-- The digits of a number have its value. -/
theorem digitsValue_natText (n : Nat) : digitsValue 10 (natText n) = n := by
  have hmap : (natText n).filterMap hexDigit?
      = (natText n).map fun c => c.toNat - '0'.toNat :=
    List.filterMap_eq_map_iff_forall_eq_some.2 fun c hc =>
      hexDigit?_of_isDigit (isDigit_of_mem_natText hc)
  rw [digitsValue, hmap, List.foldl_map]
  exact foldl_natText n

/-- A written number at the end of its line is read as the number. -/
theorem takeDecimal_intText {k : Int} (hk : Number.isWritable k = true) {rest : List Char}
    (h : AtLineEnd rest) : takeDecimal (intText k ++ rest) = .ok (.int k, rest) := by
  have hpoint : takePoint rest = ([], rest) := by
    obtain rfl | ⟨t, rfl⟩ := h <;> rfl
  have hexp : takeExponent rest = ([], rest) := by
    obtain rfl | ⟨t, rfl⟩ := h <;> rfl
  have hlen : ¬ maxDigits < (natText k.natAbs).length := by
    have := length_natText_le hk
    omega
  unfold takeDecimal
  rw [splitSign_intText]
  simp only [takeWhole?_natText k.natAbs h, hpoint, hexp, List.isEmpty_nil, Bool.and_self,
    if_true, hlen, if_false, digitsValue_natText, signed_natAbs]
  rfl

/-- A number that can be written is read back. -/
theorem takeScalar_intText {k : Int} (hk : Number.isWritable k = true) {rest : List Char}
    (h : AtLineEnd rest) : takeScalar (intText k ++ rest) = .ok (.int k, rest) := by
  have hbool : takeBool? (intText k ++ rest) = none := by
    obtain ⟨c, t, hc, hstart⟩ := intText_eq_cons k
    have ht : 't' ≠ c := by rintro rfl; revert hstart; decide
    have hf : 'f' ≠ c := by rintro rfl; revert hstart; decide
    simp [hc, takeBool?, dropFront?, ht, hf]
  -- a sign may lead to the name of infinity, but digits follow here
  have hspecial : takeSpecial? (intText k ++ rest) = none := by
    obtain ⟨d, ds, hd⟩ := List.exists_cons_of_ne_nil (natText_ne_nil k.natAbs)
    have hdig : d.isDigit = true := isDigit_of_mem_natText (by rw [hd]; simp)
    have hi : 'i' ≠ d := by rintro rfl; revert hdig; decide
    have hn : 'n' ≠ d := by rintro rfl; revert hdig; decide
    rw [takeSpecial?, splitSign_intText, hd]
    simp [dropFront?, hi, hn]
  rw [takeScalar, hbool, takeTime?_intText k h, takeBased?_intText k h, hspecial]
  exact takeDecimal_intText hk h

/-! ## §3. Values. -/

/-- What a value is after it has been written and read: truth values and
whole numbers are kept, all else becomes the text that it shows. -/
def storedValue (v : Value) : Value :=
  match v with
  | .bool b => .bool b
  | .int n => .int n
  | v => .text v.shown

/-- **A written value at the end of its line is read as the stored value.** -/
theorem readValue_writtenValue {v : Value} (hv : v.isWritable = true) (bound : Nat)
    {rest : List Char} (h : AtLineEnd rest) :
    readValue (bound + 1) (writtenValue v ++ rest) = .ok (storedValue v, rest) := by
  have htext : ∀ s : List Char, readValue (bound + 1) (writtenText s ++ rest)
      = .ok (.text (String.ofList s), rest) := by
    intro s
    have hread := takeText?_writtenText s h
    rw [writtenText_append] at hread ⊢
    rw [readValue, hread]
    rfl
  cases v
  case bool b => cases b <;> rfl
  case int n =>
    show readValue (bound + 1) (intText n ++ rest) = .ok (.int n, rest)
    rw [← takeScalar_intText hv h]
    obtain ⟨c, t, hc, hstart⟩ := intText_eq_cons n
    rw [hc, List.cons_append, readValue.eq_def]
    simp only
    -- a digit or a minus sign starts nothing else
    split <;> first
      | rfl
      | obtain ⟨rfl, -⟩ := List.cons.inj ‹_›
        exact absurd hstart (by decide)
  all_goals exact htext _

end SqlDialect.Toml
