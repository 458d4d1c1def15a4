/-
  SqlDialect.Proofs.Diagnosis.Matching
  ────────────────────────────────
  **PATTERNS THAT MAY START ANYWHERE.**

  A pattern behind `anything` is tried at every place of a text.  A prefix
  without its first letter starts no match, not even one that ends behind the
  prefix, and it hides none:

      c ∉ pre → (somewhere c w ps).matchesAll false (pre ++ s)
        = (somewhere c w ps).matchesAll false s

  Rules with such patterns give a prefixed message the category of the message.
-/
import SqlDialect.Driver.Builtin
import SqlDialect.Proofs.Diagnosis.Language

namespace SqlDialect

/-! ## §1. Any text in front. -/

namespace Pattern

/-- Any text, the letter, the further letters and the patterns after them. -/
def somewhere (c : Char) (w : List Char) (ps : List Pattern) : Pattern :=
  sequence (anything :: literal (c :: w) :: ps)

variable {c : Char} {w pre s : List Char} {ps : List Pattern}

/-- A match starts at an occurrence of the letter; what precedes it does not
matter. -/
theorem matchesAll_somewhere_iff :
    (somewhere c w ps).matchesAll false s = true ↔
      ∃ front rest, s = front ++ c :: rest ∧
        (Pattern.seq (literal w) (sequence ps)).run false ⟨rest, false⟩ (·.rest.isEmpty)
          = true := by
  show runMany (fun _ => true) (runOne (c == ·) fun t =>
    (Pattern.seq (literal w) (sequence ps)).run false t (·.rest.isEmpty)) s true = true ↔ _
  rw [runMany_iff]
  constructor
  · rintro ⟨front, rest, rfl, -, h⟩
    cases rest with
    | nil => exact absurd h Bool.false_ne_true
    | cons a rest =>
        obtain ⟨hletter, hrest⟩ := Bool.and_eq_true_iff.1 h
        obtain rfl := eq_of_beq hletter
        exact ⟨front, rest, rfl, hrest⟩
  · rintro ⟨front, rest, rfl, h⟩
    exact ⟨front, c :: rest, rfl, fun _ _ => rfl,
      Bool.and_eq_true_iff.2 ⟨beq_self_eq_true c, h⟩⟩

/-- **A prefix without the first letter starts no match and hides none.** -/
theorem matchesAll_somewhere_append (h : c ∉ pre) :
    (somewhere c w ps).matchesAll false (pre ++ s) = (somewhere c w ps).matchesAll false s := by
  rw [Bool.eq_iff_iff, matchesAll_somewhere_iff, matchesAll_somewhere_iff]
  constructor
  · rintro ⟨front, rest, hs, hrest⟩
    obtain ⟨front', -, hs'⟩ | ⟨middle, rfl, hs'⟩ := List.append_eq_append_iff.1 hs
    · exact ⟨front', rest, hs', hrest⟩
    · -- the letter cannot stand in the prefix, so it stands right behind it
      cases middle with
      | nil => exact ⟨[], rest, hs'.symm, hrest⟩
      | cons a middle =>
          obtain ⟨rfl, -⟩ := List.cons.inj hs'
          exact absurd (by simp) h
  · rintro ⟨front, rest, rfl, hrest⟩
    exact ⟨pre ++ front, rest, (List.append_assoc ..).symm, hrest⟩

end Pattern

/-! ## §2. Rules. -/

/-- Messages to which the same rules apply have the same category. -/
theorem category_diagnose_congr {rules : List DiagnosisRule} {m m' : String}
    (h : ∀ r ∈ rules, r.applies m = r.applies m') :
    (diagnose rules m).category = (diagnose rules m').category := by
  induction rules with
  | nil => rfl
  | cons r rules ih =>
      rw [diagnose_cons, diagnose_cons, h r (List.mem_cons_self ..)]
      split
      · rfl
      · exact ih fun r' hr' => h r' (List.mem_cons_of_mem r hr')

/-- A rule that may apply anywhere does not see a prefix without its first
letter. -/
theorem DiagnosisRule.applies_append {r : DiagnosisRule} {c : Char} {w : List Char}
    {ps : List Pattern} {pre : String} (hpattern : r.pattern = .somewhere c w ps)
    (hcase : r.ignoreCase = false) (h : c ∉ pre.toList) (m : String) :
    r.applies (pre ++ m) = r.applies m := by
  rw [applies, applies, hpattern, hcase, String.toList_append,
    Pattern.matchesAll_somewhere_append h]

/-- **A prefix without a capital I and a capital C leaves the category of a
message of DuckDB as it is.** -/
theorem Driver.category_duckdb_append {pre : String} (hI : 'I' ∉ pre.toList)
    (hC : 'C' ∉ pre.toList) (m : String) :
    (Driver.duckdb.diagnose (pre ++ m)).category = (Driver.duckdb.diagnose m).category := by
  refine category_diagnose_congr fun r hr => ?_
  obtain rfl | hr := List.mem_cons.1 hr
  · exact DiagnosisRule.applies_append (w := "O Error: Cannot open ".toList) rfl rfl hI m
  · obtain rfl := List.mem_singleton.1 hr
    exact DiagnosisRule.applies_append (w := "atalog Error: ".toList) rfl rfl hC m

end SqlDialect
