/-
  SqlDialect.Proofs.Driver.ColumnType
  ────────────────────────────────
  **THE GRAMMAR OF COLUMN TYPES.**

  A native type name, trimmed and in upper case, is a key of the driver's table,
  one argument in parentheses if it has one, and the word UNSIGNED if it has
  that:

      NamesType k t ↔ t = k [blanks "(" p ")"] [blanks "UNSIGNED"]

  Both are dropped from the end, each with the blanks before it, so that exactly
  these names are left with the key.  All others are unknown.
-/
import Mathlib.Data.List.TakeWhile
import SqlDialect.Driver.Builtin
import SqlDialect.Driver.ColumnType
import SqlDialect.Proofs.Settings
import SqlDialect.Proofs.Text.Segment

namespace SqlDialect

open SqlDialect.Text

namespace ColumnType

/-! ## §1. The grammar. -/

/-- An argument in parentheses behind blanks; it may hold opening parentheses
but no closing one. -/
def IsArgument (s : List Char) : Prop :=
  ∃ gap p, s = gap ++ '(' :: p ++ [')'] ∧ (∀ c ∈ gap, isBlank c = true) ∧ ')' ∉ p

/-- The word UNSIGNED behind at least one blank. -/
def IsUnsigned (s : List Char) : Prop :=
  ∃ gap, s = gap ++ "UNSIGNED".toList ∧ gap ≠ [] ∧ ∀ c ∈ gap, isBlank c = true

/-- The text is the key, an argument or none, and UNSIGNED or not. -/
def NamesType (key t : List Char) : Prop :=
  ∃ argument sign, t = key ++ argument ++ sign ∧ (argument = [] ∨ IsArgument argument) ∧
    (sign = [] ∨ IsUnsigned sign)

/-- The text has no parentheses, no blanks at its end, and no UNSIGNED that
would be dropped. -/
def IsTypeKey (key : List Char) : Prop :=
  '(' ∉ key ∧ ')' ∉ key ∧ dropEndWhile isBlank key = key ∧ dropUnsigned key = key

instance : DecidablePred IsTypeKey :=
  fun _ => inferInstanceAs (Decidable (_ ∧ _ ∧ _ ∧ _))

/-! ## §2. The word UNSIGNED. -/

/-- The last word is dropped with the blanks before it. -/
theorem dropUnsigned_append {gap : List Char} (hne : gap ≠ [])
    (hblank : ∀ c ∈ gap, isBlank c = true) (s : List Char) :
    dropUnsigned (s ++ gap ++ "UNSIGNED".toList) = dropEndWhile isBlank s := by
  obtain ⟨gap, c, rfl⟩ : ∃ gap' c, gap = gap' ++ [c] :=
    ⟨gap.dropLast, gap.getLast hne, (List.dropLast_append_getLast hne).symm⟩
  have hc : isBlank c = true := hblank c (by simp)
  have hfront : dropFront? "UNSIGNED".toList.reverse
      (s ++ (gap ++ [c]) ++ "UNSIGNED".toList).reverse
        = some (c :: (s ++ gap).reverse) := by
    rw [dropFront?_eq_some_iff]
    simp only [List.reverse_append, List.reverse_cons, List.nil_append, List.append_assoc,
      List.cons_append]
  unfold dropUnsigned
  rw [hfront]
  show (if isBlank c then dropEndWhile isBlank (s ++ gap) else _) = _
  rw [if_pos hc]
  exact dropEndWhile_append (fun x hx => hblank x (by simp [hx])) s

/-- Nothing is dropped, or the word and the blanks before it. -/
theorem dropUnsigned_cases (t : List Char) :
    dropUnsigned t = t ∨ ∃ sign, t = dropUnsigned t ++ sign ∧ IsUnsigned sign := by
  unfold dropUnsigned
  split
  next c rest hfront =>
    split
    next hc =>
      right
      -- the blank that must stand there may have others before it
      obtain ⟨gap, hgap, hblank⟩ := exists_eq_dropEndWhile_append isBlank rest.reverse
      refine ⟨gap ++ c :: "UNSIGNED".toList, ?_, gap ++ [c], ?_, by simp, ?_⟩
      · have ht := congrArg List.reverse (dropFront?_eq_some_iff.1 hfront)
        rw [List.reverse_reverse, List.reverse_append, List.reverse_reverse, List.reverse_cons,
          hgap] at ht
        rw [ht, dropEndWhile, List.reverse_reverse]
        simp only [List.append_assoc, List.singleton_append]
      · rw [List.append_assoc, List.singleton_append]
      · intro x hx
        obtain hx | hx := List.mem_append.1 hx
        · exact hblank x hx
        · rw [List.mem_singleton.1 hx]
          exact hc
    next => exact .inl rfl
  next => exact .inl rfl

/-- Behind a closing parenthesis nothing is dropped. -/
theorem dropUnsigned_of_paren (s : List Char) : dropUnsigned (s ++ [')']) = s ++ [')'] := by
  unfold dropUnsigned
  rw [List.reverse_append]
  rfl

/-! ## §3. The argument. -/

/-- A text with its only closing parenthesis at the end is cut at the first
opening one. -/
theorem dropArgument_append {front p : List Char} (hopen : '(' ∉ front) (hclose : ')' ∉ front)
    (hp : ')' ∉ p) : dropArgument (front ++ '(' :: p ++ [')']) = dropEndWhile isBlank front := by
  have hinner : ∀ c ∈ (front ++ '(' :: p).reverse, (c != ')') = true := by
    intro c hc
    rw [bne_iff_ne]
    rintro rfl
    rcases List.mem_append.1 (List.mem_reverse.1 hc) with hc | hc
    · exact hclose hc
    · exact hp (List.mem_of_ne_of_mem (by decide) hc)
  have hreverse : (front ++ '(' :: p ++ [')']).reverse = ')' :: (front ++ '(' :: p).reverse := by
    rw [List.reverse_append]
    rfl
  unfold dropArgument
  simp only [hreverse, List.takeWhile_eq_self_iff.2 hinner, List.dropWhile_eq_nil_iff.2 hinner,
    List.reverse_reverse, List.reverse_nil, List.nil_append, cut?_append hopen]

/-- Nothing is dropped, or an argument. -/
theorem dropArgument_cases (t : List Char) :
    dropArgument t = t ∨ ∃ argument, t = dropArgument t ++ argument ∧ IsArgument argument := by
  unfold dropArgument
  split
  next rest hrest =>
    dsimp only
    split
    -- the text ends in a pair of parentheses, and between them stands no other one
    next front p hcut =>
      right
      have hinner := eq_of_cut? hcut
      obtain ⟨gap, hgap, hblank⟩ := exists_eq_dropEndWhile_append isBlank
        ((rest.dropWhile (· != ')')).reverse ++ front)
      refine ⟨gap ++ '(' :: p ++ [')'], ?_, gap, p, rfl, hblank, ?_⟩
      · have ht : t = (rest.dropWhile (· != ')')).reverse
            ++ (rest.takeWhile (· != ')')).reverse ++ [')'] := by
          rw [← List.reverse_append, List.takeWhile_append_dropWhile, ← List.reverse_cons, ← hrest,
            List.reverse_reverse]
        rw [hinner, ← List.append_assoc, hgap] at ht
        rw [ht]
        simp only [List.append_assoc]
      · intro hmem
        have htake : ')' ∈ rest.takeWhile (· != ')') := by
          rw [← List.mem_reverse, hinner]
          exact List.mem_append_right front (List.mem_cons_of_mem _ hmem)
        exact absurd (List.mem_takeWhile_imp htake) (by decide)
    next => exact .inl rfl
  next => exact .inl rfl

/-- A text without parentheses is left alone. -/
theorem dropArgument_of_notMem {t : List Char} (h : ')' ∉ t) : dropArgument t = t := by
  rcases dropArgument_cases t with ht | ⟨argument, ht, gap, p, rfl, -, -⟩
  · exact ht
  · refine absurd ?_ h
    rw [ht]
    simp

/-! ## §4. The names of a key. -/

/-- **Exactly the names of a key are left with the key.** -/
theorem dropArgument_dropUnsigned_eq_iff {key : List Char} (hkey : IsTypeKey key) (t : List Char) :
    dropArgument (dropUnsigned t) = key ↔ NamesType key t := by
  obtain ⟨hopen, hclose, hend, hsign⟩ := hkey
  constructor
  · rintro rfl
    obtain ⟨argument, hargument, hisArgument⟩ : ∃ argument,
        dropUnsigned t = dropArgument (dropUnsigned t) ++ argument ∧
          (argument = [] ∨ IsArgument argument) := by
      rcases dropArgument_cases (dropUnsigned t) with h | ⟨argument, h, his⟩
      · exact ⟨[], by rw [h, List.append_nil], .inl rfl⟩
      · exact ⟨argument, h, .inr his⟩
    rcases dropUnsigned_cases t with h | ⟨sign, h, his⟩
    · refine ⟨argument, [], ?_, hisArgument, .inl rfl⟩
      rw [List.append_nil, ← hargument, h]
    · refine ⟨argument, sign, ?_, hisArgument, .inr his⟩
      rw [← hargument]
      exact h
  · -- UNSIGNED is dropped first, then the argument that stood before it
    rintro ⟨argument, sign, rfl, hargument, hsign'⟩
    have hfirst : dropUnsigned (key ++ argument ++ sign) = key ++ argument := by
      rcases hsign' with rfl | ⟨gap, rfl, hne, hblank⟩
      · rcases hargument with rfl | ⟨gap, p, rfl, -, -⟩
        · rw [List.append_nil, List.append_nil, hsign]
        · rw [List.append_nil, ← List.append_assoc]
          exact dropUnsigned_of_paren _
      · rw [← List.append_assoc, dropUnsigned_append hne hblank]
        rcases hargument with rfl | ⟨gap, p, rfl, -, -⟩
        · rw [List.append_nil, hend]
        · rw [← List.append_assoc]
          exact dropEndWhile_concat (by decide) _
    rw [hfirst]
    rcases hargument with rfl | ⟨gap, p, rfl, hblank, hp⟩
    · rw [List.append_nil]
      exact dropArgument_of_notMem hclose
    -- neither the key nor the blanks behind it hold a parenthesis
    · have hgap : ∀ c : Char, isBlank c = false → c ∉ gap := by
        intro c hc hmem
        exact absurd ((hblank c hmem).symm.trans hc) nofun
      have hfront : ∀ c : Char, isBlank c = false → c ∉ key → c ∉ key ++ gap := by
        intro c hc hckey hmem
        exact (List.mem_append.1 hmem).elim hckey (hgap c hc)
      rw [← List.append_assoc, ← List.append_assoc,
        dropArgument_append (hfront '(' (by decide) hopen) (hfront ')' (by decide) hclose) hp,
        dropEndWhile_append hblank, hend]

end ColumnType

/-! ## §5. The built-in tables. -/

namespace Driver

open ColumnType

/-- The built-in tables have keys that can be named, and none stands for the
unknown type. -/
theorem builtin_columnTypes {d : Driver} (hd : d ∈ [standard, hana, duckdb]) :
    ∀ e ∈ d.columnTypes.entries, IsTypeKey e.1.toList ∧ e.2 ≠ .unknown := by
  revert d
  decide +kernel

/-- A native type is listed under a key exactly if it is that key, with an
argument or none, with UNSIGNED or not, in any casing. -/
theorem normalize_eq_iff {d : Driver} (hd : d ∈ [standard, hana, duckdb]) {K : String}
    (hK : K ∈ d.columnTypes.keys) (native : String) :
    ColumnType.normalize native = K ↔ NamesType K.toList (upper (trim native.toList)) := by
  obtain ⟨e, he, rfl⟩ := List.mem_map.1 hK
  rw [← dropArgument_dropUnsigned_eq_iff (builtin_columnTypes hd e he).1, ← String.toList_inj,
    ColumnType.normalize, String.toList_ofList]

/-- **Column types are read by the grammar.**  A native type name has the type of
the key that it names, and exactly the names of no key are unknown. -/
theorem semanticType_iff {d : Driver} (hd : d ∈ [standard, hana, duckdb]) (native : String) :
    (∀ T, T ≠ .unknown → ((d.semanticType native).1 = T ↔
      ∃ K, d.columnTypes.get? K = some T ∧ NamesType K.toList (upper (trim native.toList)))) ∧
    ((d.semanticType native).1 = .unknown ↔
      ∀ K ∈ d.columnTypes.keys, ¬ NamesType K.toList (upper (trim native.toList))) := by
  -- what a text is normalized to is the one key that it may name
  have hnames : ∀ {K T}, d.columnTypes.get? K = some T →
      (ColumnType.normalize native = K ↔ NamesType K.toList (upper (trim native.toList))) := by
    intro K T hT
    refine normalize_eq_iff hd (Settings.get?_isSome_iff.1 ?_) native
    rw [hT, Option.isSome_some]
  cases hget : d.columnTypes.get? (ColumnType.normalize native) with
  | some T₀ =>
      have hknown : T₀ ≠ .unknown := (builtin_columnTypes hd _ (Settings.get?_eq_some_iff.1 hget)).2
      rw [semanticType_of_get? hget]
      constructor
      · intro T _
        constructor
        · rintro rfl
          exact ⟨_, hget, (hnames hget).1 rfl⟩
        · rintro ⟨K, hT, hK⟩
          rw [(hnames hT).2 hK, hT] at hget
          exact (Option.some.inj hget).symm
      · refine iff_of_false hknown fun hno => ?_
        exact hno _ (List.mem_map_of_mem (Settings.get?_eq_some_iff.1 hget)) ((hnames hget).1 rfl)
  | none =>
      have hunknown : (d.semanticType native).1 = .unknown := by
        unfold semanticType
        rw [hget]
      rw [hunknown]
      constructor
      · intro T hT
        refine iff_of_false (Ne.symm hT) ?_
        rintro ⟨K, hK, hname⟩
        rw [(hnames hK).2 hname, hK] at hget
        exact absurd hget nofun
      · refine iff_of_true rfl fun K hK hname => ?_
        rw [(normalize_eq_iff hd hK native).2 hname] at hget
        exact Settings.get?_eq_none_iff.1 hget hK

/-- An opening parenthesis more and blanks of several kinds. -/
theorem semanticType_hana_decimal :
    (hana.semanticType " decimal\x0b((10, 2)\x1c\n unsigned\t").1 = .decimal := by
  refine ((semanticType_iff (by simp) _).1 .decimal nofun).2 ⟨"DECIMAL", by decide +kernel,
    "\x0b((10, 2)".toList, "\x1c\n UNSIGNED".toList, by decide +kernel, .inr ?_, .inr ?_⟩
  · exact ⟨"\x0b".toList, "(10, 2".toList, rfl, List.all_eq_true.1 (by decide), by decide⟩
  · exact ⟨"\x1c\n ".toList, rfl, by decide, List.all_eq_true.1 (by decide)⟩

end Driver

end SqlDialect
