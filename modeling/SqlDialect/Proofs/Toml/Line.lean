/-
  SqlDialect.Proofs.Toml.Line
  ────────────────────────────────
  **WRITTEN LINES ARE READ BACK.**

  A line that is written for a table, for its options or for an entry is
  read as one statement, whatever stands on the lines below.  Lines are read
  one after another:

      Lines ls sts → readStatements bound (join ['\n'] ls) = (sts, none)

  as soon as the bound exceeds the number of lines.
-/
import SqlDialect.Proofs.Toml.Scalar

namespace SqlDialect.Toml

open SqlDialect.Text SqlDialect.Number

/-! ## §1. One line. -/

/-- The line starts with a quote or a bracket and is read as the statement,
with the line end left over. -/
structure ReadsAs (line : List Char) (st : Statement) : Prop where
  starts : ∃ c t, line = c :: t ∧ (c = '"' ∨ c = '[')
  reads : ∀ rest, AtLineEnd rest → readStatement (line ++ rest) = .ok (st, rest)

/-- Nothing is skipped before another character. -/
theorem skipBlanks_of_not_blank {c : Char} (h : isInlineBlank c = false) (t : List Char) :
    skipBlanks (c :: t) = c :: t := by
  rw [skipBlanks, List.dropWhile_cons_of_neg (by simp [h])]

/-- Nothing is skipped before a written text, for it starts with a quote. -/
theorem skipBlanks_writtenText (s rest : List Char) :
    skipBlanks (writtenText s ++ rest) = writtenText s ++ rest := by
  rw [writtenText_append]
  exact skipBlanks_of_not_blank rfl _

/-- A written name is a key unless a point follows. -/
theorem takeKey?_writtenText (bound : Nat) (s : List Char) {c : Char} {rest t : List Char}
    (h : skipBlanks rest = c :: t) (hc : c ≠ '.') :
    takeKey? (bound + 1) (writtenText s ++ rest) = some ([String.ofList s], c :: t) := by
  rw [takeKey?, takeName?_writtenText]
  simp only [Option.bind_eq_bind, Option.bind_some, h]
  split
  next heq => exact absurd (List.cons.inj heq).1 hc
  next => rfl

/-- The name of the options behind a written name. -/
theorem takeKey?_options (bound : Nat) (s rest : List Char) :
    takeKey? (bound + 2) (writtenText s ++ (".options]".toList ++ rest))
      = some ([String.ofList s, optionsName], ']' :: rest) := by
  rw [takeKey?, takeName?_writtenText]
  rfl

/-- A key in brackets opens its table. -/
theorem readStatement_header {name rest t : List Char} (key : Key)
    (h : ∀ bound, takeKey? (bound + 2) (writtenText name ++ t) = some (key, ']' :: rest)) :
    readStatement ('[' :: (writtenText name ++ t)) = .ok (.table key, rest) := by
  obtain ⟨bound, hlen⟩ : ∃ b, (writtenText name ++ t).length = b + 1 :=
    ⟨_, by rw [writtenText_append]; rfl⟩
  rw [readStatement, takeHeader?]
  · rw [skipBlanks_writtenText, hlen, h]
    rfl
  · intro t' ht
    rw [writtenText_append] at ht
    exact absurd (List.cons.inj ht).1 (by decide)

/-- The header line of a table opens it. -/
theorem readsAs_header (name : String) :
    ReadsAs ('[' :: writtenName name ++ [']']) (.table [name]) where
  starts := ⟨_, _, rfl, .inr rfl⟩
  reads rest _ := by
    have hform : '[' :: writtenName name ++ [']'] ++ rest
        = '[' :: (writtenText name.toList ++ ']' :: rest) := by simp [writtenName]
    rw [hform, readStatement_header [name]]
    intro bound
    rw [takeKey?_writtenText (bound + 1) name.toList (c := ']') rfl (by decide),
      String.ofList_toList]

/-- The header line of the options opens them below their table. -/
theorem readsAs_optionsHeader (name : String) :
    ReadsAs ('[' :: writtenName name ++ ".options]".toList)
      (.table [name, optionsName]) where
  starts := ⟨_, _, rfl, .inr rfl⟩
  reads rest _ := by
    have hform : '[' :: writtenName name ++ ".options]".toList ++ rest
        = '[' :: (writtenText name.toList ++ (".options]".toList ++ rest)) := by
      simp [writtenName]
    rw [hform, readStatement_header [name, optionsName]]
    intro bound
    rw [takeKey?_options bound, String.ofList_toList]

/-- The first character of a written value is no blank. -/
theorem skipBlanks_writtenValue (v : Value) (rest : List Char) :
    skipBlanks (writtenValue v ++ rest) = writtenValue v ++ rest := by
  cases v
  case bool b => cases b <;> rfl
  case int n =>
    show skipBlanks (intText n ++ rest) = intText n ++ rest
    obtain ⟨c, t, hc, hstart⟩ := intText_eq_cons n
    rw [hc, List.cons_append]
    refine skipBlanks_of_not_blank ?_ _
    rw [isInlineBlank, Bool.or_eq_false_iff, beq_eq_false_iff_ne, beq_eq_false_iff_ne]
    constructor <;> rintro rfl <;> exact absurd hstart (by decide)
  all_goals exact skipBlanks_writtenText _ rest

/-- The line of an entry assigns the stored value. -/
theorem readsAs_assignment (name : List Char) {v : Value} (hv : v.isWritable = true) :
    ReadsAs (assignmentLine name v) (.assign [String.ofList name] (storedValue v)) where
  starts := ⟨_, _, rfl, .inl rfl⟩
  reads rest h := by
    have hform : assignmentLine name v ++ rest
        = writtenText name ++ ' ' :: '=' :: ' ' :: (writtenValue v ++ rest) := by
      simp [assignmentLine]
    have hassigned : takeAssigned? (assignmentLine name v ++ rest)
        = some ([String.ofList name], writtenValue v ++ rest) := by
      rw [hform, takeAssigned?,
        takeKey?_writtenText _ name (c := '=') (t := ' ' :: (writtenValue v ++ rest)) rfl
          (by decide)]
      show some ([String.ofList name], skipBlanks (writtenValue v ++ rest)) = _
      rw [skipBlanks_writtenValue]
    -- the bound of the reader is twice the length, and the name takes some of it
    have hvalue := readValue_writtenValue hv (2 * (writtenValue v ++ rest).length + 1) h
    rw [readStatement, hassigned]
    · show (readValue (2 * ((writtenValue v ++ rest).length + 1)) _ >>= _) = _
      rw [Nat.mul_add_one, hvalue]
      rfl
    · intro t ht
      rw [hform, writtenText_append] at ht
      exact absurd (List.cons.inj ht).1 (by decide)

/-! ## §2. Lines one after another. -/

/-- The lines are empty or read as the statements. -/
inductive Lines : List (List Char) → List Statement → Prop
  | nil : Lines [] []
  | blank {ls : List (List Char)} {sts : List Statement} :
      Lines ls sts → Lines ([] :: ls) sts
  | statement {l : List Char} {st : Statement} {ls : List (List Char)}
      {sts : List Statement} :
      ReadsAs l st → Lines ls sts → Lines (l :: ls) (st :: sts)

/-- Lines are read one after the other. -/
theorem Lines.append {ls ls' : List (List Char)} {sts sts' : List Statement}
    (h : Lines ls sts) (h' : Lines ls' sts') : Lines (ls ++ ls') (sts ++ sts') := by
  induction h with
  | nil => exact h'
  | blank _ ih => exact .blank ih
  | statement hl _ ih => exact .statement hl ih

/-- What stands behind a line that is followed by `ls`. -/
def below (ls : List (List Char)) : List Char :=
  if ls.isEmpty then [] else '\n' :: join ['\n'] ls

/-- The first line stands before a newline and the others, if there are any. -/
theorem join_cons (l : List Char) (ls : List (List Char)) :
    join ['\n'] (l :: ls) = l ++ below ls := by
  cases ls with
  | nil => simp [join, below]
  | cons l' ls => simp [join, below]

/-- Behind a line its end stands. -/
theorem atLineEnd_below (ls : List (List Char)) : AtLineEnd (below ls) := by
  unfold below
  split
  · exact .inl rfl
  · exact .inr ⟨_, rfl⟩

/-- Behind the end of a line the others stand. -/
theorem endLine?_below (ls : List (List Char)) :
    endLine? (below ls) = some (join ['\n'] ls) := by
  cases ls <;> rfl

/-- **Lines are read as their statements.** -/
theorem readStatements_join {ls : List (List Char)} {sts : List Statement}
    (h : Lines ls sts) : ∀ bound, ls.length < bound →
      readStatements bound (join ['\n'] ls) = (sts, none) := by
  induction h with
  | nil =>
      rintro (_ | bound) hb
      · exact absurd hb (by decide)
      · rfl
  | @blank ls sts _ ih =>
      rintro (_ | bound) hb
      · exact absurd hb (by simp)
      have hls := ih bound (by simpa using hb)
      -- only its line end is left of an empty line, if there is one
      rw [join_cons, List.nil_append]
      cases ls with
      | nil =>
          obtain ⟨b, rfl⟩ : ∃ b, bound = b + 1 := ⟨bound - 1, by simp at hb; omega⟩
          exact hls
      | cons l ls => exact hls
  | @statement l st ls sts hl _ ih =>
      rintro (_ | bound) hb
      · exact absurd hb (by simp)
      have hls := ih bound (by simpa using hb)
      obtain ⟨c, t, hc, hstart⟩ := hl.starts
      have hread := hl.reads (below ls) (atLineEnd_below ls)
      have hskip : skipBlanks (l ++ below ls) = l ++ below ls := by
        rw [hc, List.cons_append]
        refine skipBlanks_of_not_blank ?_ _
        obtain rfl | rfl := hstart <;> rfl
      rw [join_cons, readStatements, hskip]
      rw [hc, List.cons_append] at hread ⊢
      split
      next heq => exact absurd heq nofun
      next heq =>
        obtain ⟨rfl, -⟩ := List.cons.inj heq
        exact absurd hstart (by decide)
      next heq =>
        obtain ⟨rfl, -⟩ := List.cons.inj heq
        exact absurd hstart (by decide)
      next =>
        rw [hread]
        simp only [endLine?_below, hls]

/-! ## §3. Line ends. -/

/-- Line ends of one character are kept. -/
theorem unifyLineEnds_of_notMem : ∀ {s : List Char}, '\r' ∉ s → unifyLineEnds s = s
  | [], _ => rfl
  | c :: s, h => by
      have hc : c ≠ '\r' := fun hc => h (hc ▸ List.mem_cons_self)
      have ih := unifyLineEnds_of_notMem fun hs => h (List.mem_cons_of_mem c hs)
      rw [unifyLineEnds, ih]
      · rintro _ rfl
        exact absurd rfl hc
      · exact hc

end SqlDialect.Toml
