/-
  SqlDialect.Proofs.Calendar.Capture
  ────────────────────────────────
  **WHAT THE PIECES OF A FORMAT TAKE.**

  A piece takes the texts of its shapes from the front, and no others:

      (t, rest) ∈ p.take s ↔ s = t ++ rest ∧ p.Takes t

  Which of them is tried first does not matter where a text can be split in
  one way only.  A number ends at the mark or the blank that follows it, so
  the pieces of a format with marks between its numbers take what stands
  between the marks.
-/
import Mathlib.Data.List.Forall2
import SqlDialect.Calendar.Capture
import SqlDialect.Proofs.Number.Digits
import SqlDialect.Proofs.Text.Folding

namespace SqlDialect.Calendar

open SqlDialect.Text SqlDialect.Number

/-! ## §1. What a piece takes. -/

/-- The characters of a text may stand in the places of a shape. -/
def Fits (shape : List Place) (t : List Char) : Prop :=
  List.Forall₂ (fun p c => p.admits c = true) shape t

/-- Each character of a text that fits has its place. -/
theorem Fits.exists_place {shape : List Place} {t : List Char} {x : Char} (h : Fits shape t)
    (hx : x ∈ t) : ∃ p ∈ shape, p.admits x = true := by
  induction h with
  | nil => exact absurd hx List.not_mem_nil
  | @cons p c shape t hc _ ih =>
      obtain rfl | hx := List.mem_cons.1 hx
      · exact ⟨p, List.mem_cons_self, hc⟩
      · obtain ⟨q, hq, hadmits⟩ := ih hx
        exact ⟨q, List.mem_cons_of_mem p hq, hadmits⟩

/-- The texts that a piece takes, except for names and offsets. -/
inductive Piece.Takes : Piece → List Char → Prop where
  | literal {a c : Char} (h : sameLetter a c = true) : Takes (.literal a) [c]
  | blanks {gap : List Char} (hne : gap ≠ []) (h : ∀ c ∈ gap, isBlank c = true) :
      Takes .blanks gap
  | number {f : Field} {shape : List Place} {t : List Char} (hshape : shape ∈ f.shapes)
      (h : Fits shape t) : Takes (.field f) t
  | fraction {places : List Char} (hne : places ≠ []) (hlength : places.length ≤ 6)
      (h : ∀ c ∈ places, c.isDigit = true) : Takes (.field .fraction) places

/-- A literal takes its letter in either case. -/
theorem Piece.takes_literal_iff {a : Char} {t : List Char} :
    (Piece.literal a).Takes t ↔ ∃ c, t = [c] ∧ sameLetter a c = true := by
  constructor
  · rintro ⟨h⟩
    exact ⟨_, rfl, h⟩
  · rintro ⟨c, rfl, h⟩
    exact .literal h

/-- White space takes any white space but no empty text. -/
theorem Piece.takes_blanks_iff {t : List Char} :
    Piece.blanks.Takes t ↔ t ≠ [] ∧ ∀ c ∈ t, isBlank c = true := by
  constructor
  · rintro ⟨⟩
    exact ⟨‹_›, ‹_›⟩
  · exact fun h => .blanks h.1 h.2

/-- A fraction takes one to six digits. -/
theorem Piece.takes_fraction_iff {t : List Char} :
    (Piece.field .fraction).Takes t ↔
      t ≠ [] ∧ t.length ≤ 6 ∧ ∀ c ∈ t, c.isDigit = true := by
  constructor
  · rintro (_ | _ | ⟨hshape⟩ | ⟨hne, hlength, h⟩)
    · exact absurd hshape List.not_mem_nil
    · exact ⟨hne, hlength, h⟩
  · exact fun h => .fraction h.1 h.2.1 h.2.2

/-- Any other field takes its shapes. -/
theorem Piece.takes_field_iff {f : Field} (hf : f ≠ .fraction) {t : List Char} :
    (Piece.field f).Takes t ↔ ∃ shape ∈ f.shapes, Fits shape t := by
  constructor
  · rintro (_ | _ | ⟨hshape, h⟩ | _)
    · exact ⟨_, hshape, h⟩
    · exact absurd rfl hf
  · rintro ⟨shape, hshape, h⟩
    exact .number hshape h

/-- The piece is neither a name nor an offset. -/
def Piece.isPlain : Piece → Bool
  | .field f => f.names?.isNone && f != .offset
  | _ => true

/-- A shape takes the front of a text exactly if that fits. -/
theorem takeShape?_eq_some_iff {t rest : List Char} : ∀ {shape : List Place} {s : List Char},
    takeShape? shape s = some (t, rest) ↔ s = t ++ rest ∧ Fits shape t
  | [], s => by
      rw [takeShape?, Option.some_inj, Prod.mk.injEq, Fits, List.forall₂_nil_left_iff]
      constructor
      · rintro ⟨rfl, rfl⟩
        exact ⟨rfl, rfl⟩
      · rintro ⟨rfl, rfl⟩
        exact ⟨rfl, rfl⟩
  | p :: shape, [] => by
      refine iff_of_false nofun ?_
      rintro ⟨hs, hfits⟩
      obtain ⟨rfl, -⟩ := List.append_eq_nil_iff.1 hs.symm
      exact nomatch hfits
  | p :: shape, c :: s => by
      rw [takeShape?]
      constructor
      · intro h
        split at h
        next hc =>
          obtain ⟨⟨t', rest'⟩, hrest, h⟩ := Option.map_eq_some_iff.1 h
          obtain ⟨rfl, rfl⟩ := Prod.mk.inj h
          obtain ⟨rfl, hfits⟩ := takeShape?_eq_some_iff.1 hrest
          exact ⟨rfl, .cons hc hfits⟩
        next => exact absurd h nofun
      · rintro ⟨hs, hfits⟩
        cases hfits with
        | @cons _ c' _ t' hc hfits =>
            obtain ⟨rfl, rfl⟩ : c = c' ∧ s = t' ++ rest := List.cons.inj hs
            rw [if_pos hc, takeShape?_eq_some_iff.2 ⟨rfl, hfits⟩]
            rfl

/-- A letter is taken in either case. -/
theorem takeName?_singleton_iff {a : Char} {s t rest : List Char} :
    takeName? [a] s = some (t, rest) ↔ s = t ++ rest ∧ ∃ c, t = [c] ∧ sameLetter a c = true := by
  cases s with
  | nil =>
      refine iff_of_false nofun ?_
      rintro ⟨hs, c, rfl, -⟩
      exact nomatch hs
  | cons c s =>
      rw [takeName?]
      constructor
      · intro h
        split at h
        next hc =>
          obtain ⟨rfl, rfl⟩ := Prod.mk.inj (Option.some.inj h)
          exact ⟨rfl, c, rfl, hc⟩
        next => exact absurd h nofun
      · rintro ⟨hs, c', rfl, hc⟩
        obtain ⟨rfl, rfl⟩ : c = c' ∧ s = rest := List.cons.inj hs
        rw [if_pos hc]
        rfl

/-- The fronts of a text up to a length, the longest first. -/
theorem mem_fronts_iff {s t rest : List Char} {n : Nat} (hn : n ≤ s.length) :
    (t, rest) ∈ (List.range n).map (fun i => (s.take (n - i), s.drop (n - i))) ↔
      s = t ++ rest ∧ t ≠ [] ∧ t.length ≤ n := by
  rw [List.mem_map]
  constructor
  · rintro ⟨i, hi, h⟩
    obtain ⟨rfl, rfl⟩ := Prod.mk.inj h
    rw [List.mem_range] at hi
    refine ⟨(List.take_append_drop _ s).symm, fun hnil => ?_, ?_⟩
    · have hlength := congrArg List.length hnil
      rw [List.length_take, List.length_nil] at hlength
      omega
    · rw [List.length_take]
      omega
  · rintro ⟨rfl, hne, hlength⟩
    have hpos := List.length_pos_iff.2 hne
    refine ⟨n - t.length, List.mem_range.2 (by omega), ?_⟩
    have hi : n - (n - t.length) = t.length := by omega
    rw [hi, List.take_left, List.drop_left]

/-- A front is no longer than a run exactly if it is in the run. -/
theorem length_le_length_takeWhile_iff {q : Char → Bool} {t rest : List Char} :
    t.length ≤ ((t ++ rest).takeWhile q).length ↔ ∀ c ∈ t, q c = true := by
  constructor
  · intro h c hc
    have hfront : t <+: (t ++ rest).takeWhile q :=
      List.prefix_of_prefix_length_le (List.prefix_append t rest)
        (List.takeWhile_prefix q) h
    exact List.all_eq_true.1 List.all_takeWhile c (hfront.subset hc)
  · intro h
    rw [List.takeWhile_append_of_pos h, List.length_append]
    exact Nat.le_add_right _ _

/-- A number is taken in each of its shapes. -/
theorem Field.take_of_number {f : Field} (hf : (Piece.field f).isPlain = true)
    (hne : f ≠ .fraction) (s : List Char) :
    f.take s = f.shapes.filterMap (takeShape? · s) := by
  cases f <;> first
    | rfl
    | exact absurd hf (by decide)
    | exact absurd rfl hne

/-- **A piece takes its texts from the front, and no others.** -/
theorem Piece.mem_take_iff {p : Piece} (hp : p.isPlain = true) {s t rest : List Char} :
    (t, rest) ∈ p.take s ↔ s = t ++ rest ∧ p.Takes t := by
  cases p with
  | literal a =>
      rw [takes_literal_iff, Piece.take, Option.mem_toList]
      exact takeName?_singleton_iff
  | blanks =>
      -- the fronts are those of the run, so a front is taken if it is no longer
      have hrun : (s.takeWhile isBlank).length ≤ s.length := (List.takeWhile_prefix _).length_le
      rw [takes_blanks_iff, Piece.take, takeBlanks, mem_fronts_iff hrun]
      refine and_congr_right ?_
      rintro rfl
      rw [length_le_length_takeWhile_iff]
  | field f =>
      by_cases hf : f = .fraction
      · subst hf
        have hrun : min 6 (s.takeWhile Char.isDigit).length ≤ s.length :=
          Nat.le_trans (Nat.min_le_right _ _) (List.takeWhile_prefix _).length_le
        show (t, rest) ∈ takeSix Char.isDigit s ↔ _
        rw [takes_fraction_iff, takeSix, mem_fronts_iff hrun, Nat.le_min]
        refine and_congr_right ?_
        rintro rfl
        rw [length_le_length_takeWhile_iff]
      · rw [takes_field_iff hf, Piece.take, Field.take_of_number hp hf, List.mem_filterMap]
        simp only [takeShape?_eq_some_iff]
        constructor
        · rintro ⟨shape, hshape, rfl, hfits⟩
          exact ⟨rfl, shape, hshape, hfits⟩
        · rintro ⟨rfl, shape, hshape, hfits⟩
          exact ⟨shape, hshape, rfl, hfits⟩

/-! ## §2. One way to split. -/

/-- If one item at most gives something, it does not matter which is tried
first. -/
theorem findSome?_eq_some_iff_of_unique {α β : Type} {l : List α} {f : α → Option β} {b : β}
    (h : ∀ a ∈ l, ∀ a' ∈ l, (f a).isSome = true → (f a').isSome = true → a = a') :
    l.findSome? f = some b ↔ ∃ a ∈ l, f a = some b := by
  constructor
  · exact List.exists_of_findSome?_eq_some
  · rintro ⟨a, ha, hb⟩
    cases hfind : l.findSome? f with
    | none => exact absurd ((List.findSome?_eq_none_iff.1 hfind a ha).symm.trans hb) nofun
    | some b' =>
        obtain ⟨a', ha', hb'⟩ := List.exists_of_findSome?_eq_some hfind
        obtain rfl := h a ha a' ha' (by rw [hb]; rfl) (by rw [hb']; rfl)
        exact hb'.symm.trans hb

/-- Where a text can be split between a piece and the next ones in one way
only, the pieces take what they take in that way. -/
theorem takeAll?_cons_iff {p : Piece} {ps : List Piece} {s rest : List Char} {captures : Captures}
    (hp : p.isPlain = true)
    (hunique : ∀ t u t' u', p.Takes t → p.Takes t' → (takeAll? ps u).isSome = true →
      (takeAll? ps u').isSome = true → t ++ u = t' ++ u' → t = t') :
    takeAll? (p :: ps) s = some (captures, rest) ↔
      ∃ t u captures', s = t ++ u ∧ p.Takes t ∧ takeAll? ps u = some (captures', rest) ∧
        captures = p.capture t ++ captures' := by
  -- the ways to take a piece are tried in turn, and at most one of them succeeds
  rw [takeAll?, findSome?_eq_some_iff_of_unique]
  · constructor
    · rintro ⟨⟨t, u⟩, hmem, h⟩
      obtain ⟨hs, ht⟩ := (Piece.mem_take_iff hp).1 hmem
      obtain ⟨⟨captures', rest'⟩, hu, h⟩ := Option.map_eq_some_iff.1 h
      obtain ⟨rfl, rfl⟩ := Prod.mk.inj h
      exact ⟨t, u, captures', hs, ht, hu, rfl⟩
    · rintro ⟨t, u, captures', hs, ht, hu, rfl⟩
      refine ⟨(t, u), (Piece.mem_take_iff hp).2 ⟨hs, ht⟩, ?_⟩
      show Option.map _ (takeAll? ps u) = _
      rw [hu]
      rfl
  · -- two ways that succeed take the same, so what they leave is the same too
    rintro ⟨t, u⟩ hmem ⟨t', u'⟩ hmem' h h'
    obtain ⟨hs, ht⟩ := (Piece.mem_take_iff hp).1 hmem
    obtain ⟨hs', ht'⟩ := (Piece.mem_take_iff hp).1 hmem'
    obtain rfl := hunique t u t' u' ht ht' (Option.isSome_map.symm.trans h)
      (Option.isSome_map.symm.trans h') (hs.symm.trans hs')
    obtain rfl : u = u' := List.append_cancel_left (hs.symm.trans hs')
    rfl

/-- The text is not empty, and behind its first character there is none of the
kind. -/
def RunsUpTo (stop : Char → Bool) (t : List Char) : Prop :=
  ∃ c run, t = c :: run ∧ ∀ x ∈ run, stop x = false

/-- The text begins with a character of the kind. -/
def StartsWith (stop : Char → Bool) (t : List Char) : Prop :=
  ∃ c rest, t = c :: rest ∧ stop c = true

/-- A run ends at the first character of the kind. -/
theorem RunsUpTo.append_inj {stop : Char → Bool} {t u t' u' : List Char} (ht : RunsUpTo stop t)
    (ht' : RunsUpTo stop t') (hu : StartsWith stop u) (hu' : StartsWith stop u')
    (h : t ++ u = t' ++ u') : t = t' := by
  obtain ⟨c, run, rfl, hrun⟩ := ht
  obtain ⟨c', run', rfl, hrun'⟩ := ht'
  obtain ⟨x, rest, rfl, hx⟩ := hu
  obtain ⟨x', rest', rfl, hx'⟩ := hu'
  -- the run can be told from the whole text
  have htake : ∀ {run rest : List Char} {x : Char}, (∀ y ∈ run, stop y = false) → stop x = true →
      (run ++ x :: rest).takeWhile (!stop ·) = run := by
    intro run rest x hrun hx
    rw [List.takeWhile_append_of_pos fun y hy => by rw [hrun y hy]; rfl,
      List.takeWhile_cons_of_neg (by rw [hx]; nofun), List.append_nil]
  obtain ⟨rfl, hrest⟩ : c = c' ∧ run ++ x :: rest = run' ++ x' :: rest' := List.cons.inj h
  have hruns : run = run' := by
    calc run = (run ++ x :: rest).takeWhile (!stop ·) := (htake hrun hx).symm
      _ = (run' ++ x' :: rest').takeWhile (!stop ·) := by rw [hrest]
      _ = run' := htake hrun' hx'
  rw [hruns]

/-- **A piece that runs up to a kind of character, before pieces that start
with one,** takes the run. -/
theorem takeAll?_run_iff (stop : Char → Bool) {p : Piece} {ps : List Piece}
    {s rest : List Char} {captures : Captures} (hp : p.isPlain = true)
    (hrun : ∀ t, p.Takes t → RunsUpTo stop t)
    (hstart : ∀ u, (takeAll? ps u).isSome = true → StartsWith stop u) :
    takeAll? (p :: ps) s = some (captures, rest) ↔
      ∃ t u captures', s = t ++ u ∧ p.Takes t ∧ takeAll? ps u = some (captures', rest) ∧
        captures = p.capture t ++ captures' :=
  takeAll?_cons_iff hp fun t u t' u' ht ht' hu hu' h =>
    (hrun t ht).append_inj (hrun t' ht') (hstart u hu) (hstart u' hu') h

/-! ## §3. Numbers between marks. -/

/-- A decimal digit is no white space. -/
theorem isBlank_of_digit {c : Char} (h : (digit? c).isSome = true) : isBlank c = false := by
  -- the digits of each script lie between the blanks
  have hscripts : ∀ z ∈ scriptZeros, (0x660 ≤ z ∧ z + 10 ≤ 0x1680) ∨
      (0x1681 ≤ z ∧ z + 10 ≤ 0x2000) ∨ 0x3001 ≤ z := by decide
  have hcode : (48 ≤ c.toNat ∧ c.toNat ≤ 57) ∨ (0x660 ≤ c.toNat ∧ c.toNat < 0x1680) ∨
      (0x1681 ≤ c.toNat ∧ c.toNat < 0x2000) ∨ 0x3001 ≤ c.toNat := by
    unfold digit? at h
    split at h
    next d hd =>
      unfold asciiDigit? at hd
      split at hd
      next hrange => exact .inl hrange
      next => exact absurd hd nofun
    next =>
      split at h
      next => exact absurd h nofun
      next =>
        rw [Option.isSome_map, List.find?_isSome] at h
        obtain ⟨z, hz, hrange⟩ := h
        rw [Bool.and_eq_true, decide_eq_true_eq, decide_eq_true_eq] at hrange
        have hscript := hscripts z hz
        omega
  simp only [isBlank, isSpace, Bool.or_eq_false_iff, Bool.and_eq_false_iff,
    decide_eq_false_iff_not, beq_eq_false_iff_ne]
  omega

/-- A digit stands in every place but one for a space. -/
theorem digit_of_admits {p : Place} (hp : p ≠ .space) {c : Char} (h : p.admits c = true) :
    (digit? c).isSome = true := by
  cases p with
  | between least most =>
      obtain ⟨d, hd, -⟩ := (Option.any_eq_true _ _).1 h
      rw [digit?_of_asciiDigit? hd]
      rfl
  | digit => exact h
  | space => exact absurd rfl hp

/-- The field is a number in whose shapes only the first place may be a space. -/
def Field.isNumber (f : Field) : Bool :=
  (Piece.field f).isPlain && f != .fraction &&
    f.shapes.all fun shape => !shape.isEmpty && !shape.tail.contains .space

section Numbers

variable {f : Field} {t : List Char}

/-- A field of digits is neither a name nor an offset. -/
theorem Field.isPlain_of_isNumber (hf : f.isNumber = true) : (Piece.field f).isPlain = true := by
  rw [isNumber, Bool.and_eq_true, Bool.and_eq_true] at hf
  exact hf.1.1

/-- A number is a character and digits behind it. -/
theorem Field.exists_digits_of_isNumber (hf : f.isNumber = true) (h : (Piece.field f).Takes t) :
    ∃ c digits, t = c :: digits ∧ ∀ x ∈ digits, (digit? x).isSome = true := by
  rw [isNumber, Bool.and_eq_true, Bool.and_eq_true] at hf
  obtain ⟨⟨-, hne⟩, hshapes⟩ := hf
  cases h with
  | @number _ shape _ hshape hfits =>
      have hplaces := List.all_eq_true.1 hshapes shape hshape
      cases hfits with
      | nil => exact absurd hplaces Bool.false_ne_true
      | @cons p c places digits hc hdigits =>
          refine ⟨c, digits, rfl, fun x hx => ?_⟩
          obtain ⟨place, hplace, hadmits⟩ := Fits.exists_place hdigits hx
          refine digit_of_admits ?_ hadmits
          rintro rfl
          exact absurd (List.contains_iff_mem.2 hplace) (by simpa using hplaces)
  | fraction => exact absurd hne (by decide)

/-- A number runs up to a character that is no digit. -/
theorem Field.runsUpTo_of_isNumber (hf : f.isNumber = true) {stop : Char → Bool}
    (hstop : ∀ c, (digit? c).isSome = true → stop c = false) (h : (Piece.field f).Takes t) :
    RunsUpTo stop t := by
  obtain ⟨c, digits, rfl, hdigits⟩ := Field.exists_digits_of_isNumber hf h
  exact ⟨c, digits, rfl, fun x hx => hstop x (hdigits x hx)⟩

/-- A mark is taken as it is. -/
theorem takeAll?_mark_iff {mark : Char} {ps : List Piece} {s rest : List Char}
    {captures : Captures} (hcode : 0 < mark.toNat ∧ mark.toNat < 128)
    (hletter : mark.isAlpha = false) :
    takeAll? (.literal mark :: ps) s = some (captures, rest) ↔
      ∃ u, s = mark :: u ∧ takeAll? ps u = some (captures, rest) := by
  have htakes : ∀ t, (Piece.literal mark).Takes t ↔ t = [mark] := by
    intro t
    simp only [Piece.takes_literal_iff, sameLetter_mark_iff hcode hletter, exists_eq_right]
  rw [takeAll?_cons_iff rfl]
  · constructor
    · rintro ⟨t, u, captures', rfl, ht, hu, rfl⟩
      obtain rfl := (htakes t).1 ht
      exact ⟨u, rfl, hu⟩
    · rintro ⟨u, rfl, hu⟩
      exact ⟨[mark], u, captures, rfl, (htakes _).2 rfl, hu, rfl⟩
  · intro t _ t' _ ht ht' _ _ _
    rw [(htakes t).1 ht, (htakes t').1 ht']

/-- **A number before a mark is what stands before the mark.** -/
theorem takeAll?_number_mark_iff {mark : Char} {ps : List Piece} {s rest : List Char}
    {captures : Captures} (hf : f.isNumber = true)
    (hmark : (0 < mark.toNat ∧ mark.toNat < 128) ∧ mark.isAlpha = false ∧ digit? mark = none) :
    takeAll? (.field f :: .literal mark :: ps) s = some (captures, rest) ↔
      ∃ t u captures', s = t ++ mark :: u ∧ (Piece.field f).Takes t ∧
        takeAll? ps u = some (captures', rest) ∧ captures = (f, t) :: captures' := by
  rw [takeAll?_run_iff (· == mark) (Field.isPlain_of_isNumber hf)]
  · constructor
    · rintro ⟨t, u, captures', rfl, ht, hu, rfl⟩
      obtain ⟨u', rfl, hu'⟩ := (takeAll?_mark_iff hmark.1 hmark.2.1).1 hu
      exact ⟨t, u', captures', rfl, ht, hu', rfl⟩
    · rintro ⟨t, u, captures', rfl, ht, hu, rfl⟩
      have hafter := (takeAll?_mark_iff hmark.1 hmark.2.1).2 ⟨u, rfl, hu⟩
      exact ⟨t, mark :: u, captures', rfl, ht, hafter, rfl⟩
  -- a number holds no mark
  · refine fun t ht => Field.runsUpTo_of_isNumber hf (fun c hc => beq_eq_false_iff_ne.2 ?_) ht
    rintro rfl
    rw [hmark.2.2] at hc
    exact absurd hc Bool.false_ne_true
  · intro u hu
    obtain ⟨x, hx⟩ := Option.isSome_iff_exists.1 hu
    obtain ⟨u', rfl, -⟩ := (takeAll?_mark_iff hmark.1 hmark.2.1).1 hx
    exact ⟨mark, u', rfl, beq_self_eq_true mark⟩

/-- All blanks are taken if a character that is none follows. -/
theorem takeAll?_blanks_iff {ps : List Piece} {s rest : List Char} {captures : Captures}
    (hstart : ∀ u, (takeAll? ps u).isSome = true → StartsWith (!isBlank ·) u) :
    takeAll? (.blanks :: ps) s = some (captures, rest) ↔
      ∃ gap u, s = gap ++ u ∧ Piece.blanks.Takes gap ∧ takeAll? ps u = some (captures, rest) := by
  rw [takeAll?_run_iff (!isBlank ·) rfl ?_ hstart]
  · constructor
    · rintro ⟨gap, u, captures', rfl, hgap, hu, rfl⟩
      exact ⟨gap, u, rfl, hgap, hu⟩
    · rintro ⟨gap, u, rfl, hgap, hu⟩
      exact ⟨gap, u, captures, rfl, hgap, hu, rfl⟩
  · intro gap htakes
    obtain ⟨hne, hgap⟩ := Piece.takes_blanks_iff.1 htakes
    obtain ⟨c, gap, rfl⟩ := List.exists_cons_of_ne_nil hne
    refine ⟨c, gap, rfl, fun x hx => ?_⟩
    show (!isBlank x) = false
    rw [hgap x (List.mem_cons_of_mem c hx)]
    rfl

/-- **A number before blanks is what stands before them.** -/
theorem takeAll?_number_blanks_iff {ps : List Piece} {s rest : List Char} {captures : Captures}
    (hf : f.isNumber = true)
    (hstart : ∀ u, (takeAll? ps u).isSome = true → StartsWith (!isBlank ·) u) :
    takeAll? (.field f :: .blanks :: ps) s = some (captures, rest) ↔
      ∃ t gap u captures', s = t ++ (gap ++ u) ∧ (Piece.field f).Takes t ∧
        Piece.blanks.Takes gap ∧ takeAll? ps u = some (captures', rest) ∧
        captures = (f, t) :: captures' := by
  rw [takeAll?_run_iff isBlank (Field.isPlain_of_isNumber hf)]
  · constructor
    · rintro ⟨t, u, captures', rfl, ht, hu, rfl⟩
      obtain ⟨gap, u', rfl, hgap, hu'⟩ := (takeAll?_blanks_iff hstart).1 hu
      exact ⟨t, gap, u', captures', rfl, ht, hgap, hu', rfl⟩
    · rintro ⟨t, gap, u, captures', rfl, ht, hgap, hu, rfl⟩
      have hafter := (takeAll?_blanks_iff hstart).2 ⟨gap, u, rfl, hgap, hu⟩
      exact ⟨t, gap ++ u, captures', rfl, ht, hafter, rfl⟩
  · exact fun t ht => Field.runsUpTo_of_isNumber hf (fun c hc => isBlank_of_digit hc) ht
  · intro u hu
    obtain ⟨x, hx⟩ := Option.isSome_iff_exists.1 hu
    obtain ⟨gap, u', rfl, htakes, -⟩ := (takeAll?_blanks_iff hstart).1 hx
    obtain ⟨hne, hgap⟩ := Piece.takes_blanks_iff.1 htakes
    obtain ⟨c, gap, rfl⟩ := List.exists_cons_of_ne_nil hne
    exact ⟨c, gap ++ u', rfl, hgap c List.mem_cons_self⟩

end Numbers

/-! ## §4. The end of a text. -/

/-- The longest front is the whole text. -/
theorem exists_fronts_eq_cons {s : List Char} (h : s ≠ []) :
    ∃ shorter, (List.range s.length).map (fun i => (s.take (s.length - i), s.drop (s.length - i)))
      = (s, []) :: shorter := by
  rw [← List.head?_eq_some_iff, List.head?_map, List.head?_range,
    if_neg fun hlength => h (List.length_eq_zero_iff.1 hlength), Option.map_some, Nat.sub_zero,
    List.take_length, List.drop_length]

/-- Places that are read to the end of a text are all of it. -/
theorem takeAll?_fraction_iff {s : List Char} {captures : Captures} :
    takeAll? [.field .fraction] s = some (captures, []) ↔
      (Piece.field .fraction).Takes s ∧ captures = [(.fraction, s)] := by
  constructor
  · intro h
    obtain ⟨⟨t, u⟩, hmem, hsome⟩ := List.exists_of_findSome?_eq_some h
    obtain ⟨rfl, ht⟩ := (Piece.mem_take_iff rfl).1 hmem
    obtain ⟨rfl, rfl⟩ := Prod.mk.inj (Option.some.inj hsome)
    rw [List.append_nil]
    exact ⟨ht, rfl⟩
  · rintro ⟨hs, rfl⟩
    obtain ⟨hne, hlength, hdigits⟩ := Piece.takes_fraction_iff.1 hs
    have hrun : min 6 (s.takeWhile Char.isDigit).length = s.length := by
      have hall : s.length ≤ ((s ++ []).takeWhile Char.isDigit).length :=
        length_le_length_takeWhile_iff.2 hdigits
      have hle := (List.takeWhile_prefix (l := s) Char.isDigit).length_le
      rw [List.append_nil] at hall
      omega
    -- the longest front is tried first, and nothing is left behind it
    obtain ⟨shorter, hfronts⟩ := exists_fronts_eq_cons hne
    have htake : Piece.take (.field .fraction) s = (s, []) :: shorter := by
      show takeSix Char.isDigit s = _
      rw [takeSix, hrun, hfronts]
    rw [takeAll?, htake]
    rfl

end SqlDialect.Calendar
