/-
  SqlDialect.Proofs.Diagnosis.Cases
  ────────────────────────────────
  **WHAT THE RULES OF HANA LOOK FOR.**

  Each rule of HANA applies exactly in one case, and each case is said without
  patterns: a text at the front, a whole text, or words anywhere in the message
  without regard to case.  The first case that applies gives the category:

      FirstOf (hanaCases patternFold m) (hana.diagnose m).category

  Words are found under the folding of patterns.  Under Unicode's simple case
  folding a dotless i would hide some of them.
-/
import Mathlib.Data.List.Forall2
import SqlDialect.Driver.Builtin
import SqlDialect.Proofs.Diagnosis.Language

namespace SqlDialect

open SqlDialect.Text

/-! ## §1. The first case that applies. -/

/-- The category of the first case that applies; without one the message is
not classified. -/
inductive FirstOf : List (Prop × Category) → Category → Prop
  | none : FirstOf [] .unclassified
  | here {p : Prop} {c : Category} {es : List (Prop × Category)} : p → FirstOf ((p, c) :: es) c
  | later {p : Prop} {c c' : Category} {es : List (Prop × Category)} :
      ¬p → FirstOf es c' → FirstOf ((p, c) :: es) c'

/-- Cases give one category. -/
theorem FirstOf.unique {es : List (Prop × Category)} {c c' : Category} (h : FirstOf es c)
    (h' : FirstOf es c') : c = c' := by
  induction h with
  | none =>
      cases h'
      rfl
  | here hp =>
      cases h' with
      | here => rfl
      | later hnot => exact absurd hp hnot
  | later hnot _ ih =>
      cases h' with
      | here hp => exact absurd hp hnot
      | later _ h' => exact ih h'

/-- The rule applies to the message exactly in the case, and gives its category. -/
structure AppliesIn (m : String) (r : DiagnosisRule) (e : Prop × Category) : Prop where
  applies : r.applies m = true ↔ e.1
  category : r.category = e.2

/-- **Rules decide as their cases do.** -/
theorem firstOf_diagnose {m : String} {rules : List DiagnosisRule}
    {es : List (Prop × Category)} (h : List.Forall₂ (AppliesIn m) rules es) :
    FirstOf es (diagnose rules m).category := by
  induction h with
  | nil => exact .none
  | @cons r e rules es hr _ ih =>
      rw [diagnose_cons]
      split
      next happlies =>
        show FirstOf (e :: es) r.category
        rw [hr.category]
        exact .here (hr.applies.1 happlies)
      next hnot => exact .later (fun hp => hnot (hr.applies.2 hp)) ih

/-! ## §2. Cases. -/

/-- Some part of the text is as asked. -/
def HasPart (P : List Char → Prop) (m : List Char) : Prop :=
  ∃ front t back, m = front ++ t ++ back ∧ P t

/-- The words stand somewhere in the message, letter by letter as they fold. -/
def HoldsWords (fold : Char → Char) (words : String) : List Char → Prop :=
  HasPart fun t => t.map fold = words.toList

/-- A part of a message: a database or a tenant, by a name without blanks, is
not there. -/
def SaysMissing (fold : Char → Char) (t : List Char) : Prop :=
  ∃ kind name fault, t = kind ++ name ++ fault ∧
    (kind.map fold = "database ".toList ∨ kind.map fold = "tenant ".toList) ∧
    (name ≠ [] ∧ ∀ c ∈ name, isBlank c = false) ∧
    (fault.map fold = " not found".toList ∨ fault.map fold = " does not exist".toList)

/-- The message is the report of a lost link: two sentences and blanks between them. -/
def IsLinkFailure (m : List Char) : Prop :=
  ∃ gap, m = "Communications link failure".toList ++ gap
      ++ ("The last packet sent successfully to the server was 0 milliseconds ago. "
        ++ "The driver has not received any packets from the server.").toList ∧
    gap ≠ [] ∧ ∀ c ∈ gap, isBlank c = true

/-- The cases that are told apart for HANA, in order. -/
def hanaCases (fold : Char → Char) (m : List Char) : List (Prop × Category) := [
  (IsLinkFailure m, .cannotConnect),
  ("Unknown database ".toList <+: m, .databaseName),
  ("Access denied for user".toList <+: m, .usernameOrPassword),
  (m = "Must specify port after ':' in connection string".toList, .hostname),
  (HasPart (SaysMissing fold) m ∨ HoldsWords fold "unknown database" m
    ∨ HoldsWords fold "unknown tenant database" m, .databaseName),
  (HoldsWords fold "authentication failed" m, .usernameOrPassword),
  (HoldsWords fold "connection refused" m ∨ HoldsWords fold "connect failed" m
    ∨ HoldsWords fold "connection timed out" m, .cannotConnect)]

/-- Parts that are alike are held alike. -/
theorem hasPart_congr {P Q : List Char → Prop} (h : ∀ t, P t ↔ Q t) (m : List Char) :
    HasPart P m ↔ HasPart Q m := by
  obtain rfl : P = Q := funext fun t => propext (h t)
  rfl

/-- A part of either kind is a part of one or the other. -/
theorem hasPart_or {P Q : List Char → Prop} {m : List Char} :
    HasPart (fun t => P t ∨ Q t) m ↔ HasPart P m ∨ HasPart Q m := by
  constructor
  · rintro ⟨front, t, back, hm, ht | ht⟩
    · exact .inl ⟨front, t, back, hm, ht⟩
    · exact .inr ⟨front, t, back, hm, ht⟩
  · rintro (⟨front, t, back, hm, ht⟩ | ⟨front, t, back, hm, ht⟩)
    · exact ⟨front, t, back, hm, .inl ht⟩
    · exact ⟨front, t, back, hm, .inr ht⟩

/-- Words are found where they stand in the folded message. -/
theorem holdsWords_iff {fold : Char → Char} {words : String} {m : List Char} :
    HoldsWords fold words m ↔ words.toList <:+: m.map fold := by
  constructor
  · rintro ⟨front, t, back, rfl, ht⟩
    rw [← ht, List.map_append, List.map_append]
    exact ⟨front.map fold, back.map fold, rfl⟩
  · rintro ⟨front, back, hm⟩
    obtain ⟨rest, back, rfl, hrest, -⟩ := List.map_eq_append_iff.1 hm.symm
    obtain ⟨front, t, rfl, -, ht⟩ := List.map_eq_append_iff.1 hrest
    exact ⟨front, t, back, rfl, ht⟩

/-- What is missing is a database or a tenant. -/
theorem holdsWords_of_saysMissing {fold : Char → Char} {m : List Char}
    (h : HasPart (SaysMissing fold) m) :
    HoldsWords fold "database " m ∨ HoldsWords fold "tenant " m := by
  obtain ⟨front, t, back, rfl, kind, name, fault, rfl, hkind, -⟩ := h
  have hm : front ++ (kind ++ name ++ fault) ++ back
      = front ++ kind ++ (name ++ fault ++ back) := by
    simp only [List.append_assoc]
  exact hkind.imp (fun hk => ⟨front, kind, _, hm, hk⟩) fun hk => ⟨front, kind, _, hm, hk⟩

/-! ## §3. Patterns of the cases. -/

namespace Pattern

/-- A word and then anything is a text that starts with the word. -/
theorem matchesAll_front (w : String) (s : List Char) :
    (sequence [text w, anything]).matchesAll false s = true ↔ w.toList <+: s := by
  have hplain : (sequence [text w, anything]).isPlain = true :=
    Bool.and_eq_true_iff.2 ⟨isPlain_literal _, rfl⟩
  rw [matchesAll_iff hplain]
  constructor
  · rintro ⟨u, v, rfl, hu, -⟩
    rw [describes_literal.1 hu]
    exact List.prefix_append _ _
  · rintro ⟨v, rfl⟩
    refine ⟨w.toList, v, rfl, describes_literal.2 rfl, v, [], (List.append_nil v).symm, ?_, rfl⟩
    exact describes_anything v

/-- Two words with blanks between them. -/
theorem matchesAll_blanksBetween (w w' : String) (s : List Char) :
    (sequence [text w, .atLeastOne .blank, text w']).matchesAll false s = true ↔
      ∃ gap, s = w.toList ++ gap ++ w'.toList ∧ gap ≠ [] ∧ ∀ c ∈ gap, isBlank c = true := by
  have hplain : (sequence [text w, .atLeastOne .blank, text w']).isPlain = true := by
    show (isPlain (literal _) && (true && (isPlain (literal _) && true))) = true
    rw [isPlain_literal, isPlain_literal]
    rfl
  rw [matchesAll_iff hplain]
  constructor
  · rintro ⟨u, v, rfl, hu, gap, v', rfl, hgap, t, e, rfl, ht, rfl⟩
    refine ⟨gap, ?_, hgap⟩
    rw [describes_literal.1 hu, describes_literal.1 ht, List.append_nil, List.append_assoc]
  · rintro ⟨gap, rfl, hgap⟩
    refine ⟨w.toList, gap ++ w'.toList, List.append_assoc .., describes_literal.2 rfl,
      gap, w'.toList, rfl, hgap, ?_⟩
    exact ⟨w'.toList, [], (List.append_nil _).symm, describes_literal.2 rfl, rfl⟩

/-- A pattern with anything around it describes some part of the text. -/
theorem matchesAll_around {i : Bool} {p : Pattern} (hp : p.isPlain = true) (s : List Char) :
    (sequence [anything, p, anything]).matchesAll i s = true ↔ HasPart (Describes i p) s := by
  have hplain : (sequence [anything, p, anything]).isPlain = true := by
    show (true && (p.isPlain && true)) = true
    rw [hp]
    rfl
  rw [matchesAll_iff hplain]
  constructor
  · rintro ⟨front, v, rfl, -, t, v', rfl, ht, back, e, rfl, -, rfl⟩
    refine ⟨front, t, back, ?_, ht⟩
    rw [List.append_nil, List.append_assoc]
  · rintro ⟨front, t, back, rfl, ht⟩
    refine ⟨front, t ++ back, List.append_assoc .., describes_anything front, t, back, rfl, ht, ?_⟩
    exact ⟨back, [], (List.append_nil back).symm, describes_anything back, rfl⟩

/-- A text is matched by a plain pattern. -/
theorem isPlain_text (w : String) : (text w).isPlain = true := isPlain_literal _

/-- The pattern describes exactly the texts that fold to the word. -/
def Spells (p : Pattern) (w : List Char) : Prop :=
  ∀ t, Describes true p t ↔ t.map patternFold = w

theorem spells_empty : Spells .empty [] := fun _ => List.map_eq_nil_iff.symm

/-- Words in folded form spell themselves. -/
theorem spells_text {w : String} (hw : w.toList.all isFolded = true) : Spells (text w) w.toList :=
  fun _ => describes_literal_folded (List.all_eq_true.1 hw)

/-- One pattern behind another spells one text behind the other. -/
theorem Spells.seq {p q : Pattern} {v w : List Char} (hp : Spells p v) (hq : Spells q w) :
    Spells (.seq p q) (v ++ w) := by
  intro t
  rw [List.map_eq_append_iff]
  constructor
  · rintro ⟨a, b, rfl, ha, hb⟩
    exact ⟨a, b, rfl, (hp a).1 ha, (hq b).1 hb⟩
  · rintro ⟨a, b, rfl, ha, hb⟩
    exact ⟨a, b, rfl, (hp a).2 ha, (hq b).2 hb⟩

section Choices

variable {i : Bool} {p q r : Pattern} {t : List Char}

/-- A choice at the front is a choice of the whole. -/
theorem describes_alt_seq :
    Describes i (.seq (.alt p q) r) t ↔ Describes i (.seq p r) t ∨ Describes i (.seq q r) t := by
  constructor
  · rintro ⟨a, b, rfl, ha | ha, hb⟩
    · exact .inl ⟨a, b, rfl, ha, hb⟩
    · exact .inr ⟨a, b, rfl, ha, hb⟩
  · rintro (⟨a, b, rfl, ha, hb⟩ | ⟨a, b, rfl, ha, hb⟩)
    · exact ⟨a, b, rfl, .inl ha, hb⟩
    · exact ⟨a, b, rfl, .inr ha, hb⟩

/-- And so is a choice at the back. -/
theorem describes_seq_or {p' : Pattern}
    (h : ∀ t, Describes i p' t ↔ Describes i p t ∨ Describes i q t) :
    Describes i (.seq r p') t ↔ Describes i (.seq r p) t ∨ Describes i (.seq r q) t := by
  constructor
  · rintro ⟨a, b, rfl, ha, hb⟩
    exact ((h b).1 hb).imp (⟨a, b, rfl, ha, ·⟩) (⟨a, b, rfl, ha, ·⟩)
  · rintro (⟨a, b, rfl, ha, hb⟩ | ⟨a, b, rfl, ha, hb⟩)
    · exact ⟨a, b, rfl, ha, (h b).2 (.inl hb)⟩
    · exact ⟨a, b, rfl, ha, (h b).2 (.inr hb)⟩

end Choices

/-- Five patterns one after another, grouped around the third. -/
theorem describes_five {i : Bool} {p q r p' q' : Pattern} {t : List Char} :
    Describes i (sequence [p, q, r, p', q']) t ↔ ∃ u v w, t = u ++ v ++ w ∧
      Describes i (.seq p q) u ∧ Describes i r v ∧ Describes i (.seq p' q') w := by
  constructor
  · rintro ⟨a, rest, rfl, ha, b, rest, rfl, hb, v, rest, rfl, hv, c, rest, rfl, hc, d, rest, rfl,
      hd, rfl⟩
    refine ⟨a ++ b, v, c ++ d, ?_, ⟨a, b, rfl, ha, hb⟩, hv, ⟨c, d, rfl, hc, hd⟩⟩
    simp only [List.append_assoc, List.append_nil]
  · rintro ⟨u, v, w, rfl, ⟨a, b, rfl, ha, hb⟩, hv, ⟨c, d, rfl, hc, hd⟩⟩
    refine ⟨a, b ++ (v ++ (c ++ d)), ?_, ha, b, v ++ (c ++ d), rfl, hb, v, c ++ d, rfl, hv, c, d,
      rfl, hc, d, [], (List.append_nil d).symm, hd, rfl⟩
    simp only [List.append_assoc]

/-- The pattern of what is not there. -/
theorem describes_missing (t : List Char) :
    Describes true (sequence [.alt (text "database") (text "tenant"), text " ",
      .atLeastOne .nonBlank, text " ", .alt (text "not found") (text "does not exist")]) t
      ↔ SaysMissing patternFold t := by
  have hname : ∀ name : List Char,
      Describes true (.atLeastOne .nonBlank) name ↔ name ≠ [] ∧ ∀ c ∈ name, isBlank c = false := by
    intro name
    show (name ≠ [] ∧ ∀ c ∈ name, (!isBlank c) = true) ↔ _
    simp only [Bool.not_eq_true']
  -- the words before and behind the name are one of two each
  have hkind : ∀ t, Describes true (.seq (.alt (text "database") (text "tenant")) (text " ")) t ↔
      t.map patternFold = "database ".toList ∨ t.map patternFold = "tenant ".toList := by
    intro t
    rw [describes_alt_seq]
    exact or_congr ((spells_text (by decide)).seq (spells_text (by decide)) t)
      ((spells_text (by decide)).seq (spells_text (by decide)) t)
  have hfault : ∀ t,
      Describes true (.seq (text " ") (.alt (text "not found") (text "does not exist"))) t ↔
        t.map patternFold = " not found".toList ∨ t.map patternFold = " does not exist".toList := by
    intro t
    rw [describes_seq_or fun _ => Iff.rfl]
    exact or_congr ((spells_text (by decide)).seq (spells_text (by decide)) t)
      ((spells_text (by decide)).seq (spells_text (by decide)) t)
  rw [describes_five]
  simp only [hkind, hname, hfault]
  rfl

/-- The pattern of what is not known. -/
theorem describes_unknown (t : List Char) :
    Describes true (sequence [text "unknown ", optional (text "tenant "), text "database"]) t ↔
      t.map patternFold = "unknown database".toList ∨
        t.map patternFold = "unknown tenant database".toList := by
  have hend : Spells (sequence [text "database"]) "database".toList :=
    (spells_text (by decide)).seq spells_empty
  have hlong : Spells (sequence [text "unknown ", text "tenant ", text "database"])
      "unknown tenant database".toList :=
    (spells_text (by decide)).seq ((spells_text (by decide)).seq hend)
  have hshort : Spells (sequence [text "unknown ", .empty, text "database"])
      "unknown database".toList :=
    (spells_text (by decide)).seq (spells_empty.seq hend)
  rw [← hlong t, ← hshort t, or_comm]
  exact describes_seq_or fun _ => describes_alt_seq

end Pattern

/-! ## §4. The rules of HANA. -/

/-- **Each rule of HANA applies exactly in its case.** -/
theorem appliesIn_hana (m : String) :
    List.Forall₂ (AppliesIn m) Driver.hanaRules (hanaCases patternFold m.toList) := by
  -- one goal for each rule, in their order
  refine .cons ⟨?_, rfl⟩ (.cons ⟨?_, rfl⟩ (.cons ⟨?_, rfl⟩ (.cons ⟨?_, rfl⟩ (.cons ⟨?_, rfl⟩
    (.cons ⟨?_, rfl⟩ (.cons ⟨?_, rfl⟩ .nil))))))
  · -- the marks say nothing at the ends of a pattern
    have h := Pattern.matchesAll_blanksBetween "Communications link failure"
      ("The last packet sent successfully to the server was 0 milliseconds ago. "
        ++ "The driver has not received any packets from the server.") m.toList
    rw [← Pattern.matchesAll_atEnd, ← Pattern.matchesAll_atStart] at h
    exact h
  · have h := Pattern.matchesAll_front "Unknown database " m.toList
    rw [← Pattern.matchesAll_atEnd, ← Pattern.matchesAll_atStart] at h
    exact h
  · have h := Pattern.matchesAll_front "Access denied for user" m.toList
    rw [← Pattern.matchesAll_atEnd] at h
    exact h
  · exact (Pattern.matchesAll_iff (Pattern.isPlain_text _)).trans Pattern.describes_literal
  · refine (Pattern.matchesAll_around (by decide +kernel) m.toList).trans ?_
    rw [← or_assoc, or_assoc, HoldsWords, HoldsWords, ← hasPart_or, ← hasPart_or]
    refine hasPart_congr (fun t => ?_) m.toList
    exact or_congr (Pattern.describes_missing t) (Pattern.describes_unknown t)
  · refine (Pattern.matchesAll_around (Pattern.isPlain_text _) m.toList).trans ?_
    exact hasPart_congr (Pattern.spells_text (by decide)) m.toList
  · refine (Pattern.matchesAll_around (by decide +kernel) m.toList).trans ?_
    rw [HoldsWords, HoldsWords, HoldsWords, ← hasPart_or, ← hasPart_or]
    refine hasPart_congr (fun t => ?_) m.toList
    exact or_congr (Pattern.spells_text (by decide) t)
      (or_congr (Pattern.spells_text (by decide) t) (Pattern.spells_text (by decide) t))

namespace Driver

/-- **HANA tells its cases apart in order.**  The message is kept, and shown where
there is no text for users. -/
theorem hana_tells_cases_apart (m : String) :
    (∀ c, (hana.diagnose m).category = c ↔ FirstOf (hanaCases patternFold m.toList) c) ∧
      (hana.diagnose m).message = m ∧
      ((hana.diagnose m).category = .unclassified →
        (hana.diagnose m).humanize Category.message? = m) ∧
      ((hana.diagnose m).category ≠ .unclassified →
        some ((hana.diagnose m).humanize Category.message?)
          = (hana.diagnose m).category.message?) := by
  have hfirst : FirstOf (hanaCases patternFold m.toList) (hana.diagnose m).category :=
    firstOf_diagnose (appliesIn_hana m)
  refine ⟨fun c => ⟨?_, ?_⟩, rfl, ?_, ?_⟩
  · rintro rfl
    exact hfirst
  · exact hfirst.unique
  · intro hc
    rw [Diagnosis.humanize, hc]
    rfl
  · intro hc
    rw [Diagnosis.humanize]
    -- every category but the last one has a text of its own
    cases hcategory : (hana.diagnose m).category with
    | unclassified => exact absurd hcategory hc
    | _ => rfl

/-- Unicode's simple case folding keeps the dotless i, so that a failed
authentication is not found where it is spelt with one; the rules find it. -/
theorem dotless_i_is_found :
    FirstOf (hanaCases simpleFold "authentıcation failed".toList) .unclassified ∧
      (hana.diagnose "authentıcation failed").category = .usernameOrPassword := by
  have hwords : ∀ words ∈ ["database ", "tenant ", "unknown database", "unknown tenant database",
      "authentication failed", "connection refused", "connect failed", "connection timed out"],
      ¬ HoldsWords simpleFold words "authentıcation failed".toList := by
    simp only [holdsWords_iff]
    decide +kernel
  have hlink : ¬ IsLinkFailure "authentıcation failed".toList := by
    rintro ⟨gap, hm, -⟩
    have hhead : some 'a' = some 'C' := congrArg List.head? hm
    exact absurd hhead (by decide)
  refine ⟨.later hlink (.later (by decide) (.later (by decide) (.later (by decide)
    (.later ?_ (.later (hwords _ (by simp)) (.later ?_ .none)))))), by decide +kernel⟩
  · rintro (h | h | h)
    · obtain h | h := holdsWords_of_saysMissing h
      · exact hwords _ (by simp) h
      · exact hwords _ (by simp) h
    · exact hwords _ (by simp) h
    · exact hwords _ (by simp) h
  · rintro (h | h | h)
    · exact hwords _ (by simp) h
    · exact hwords _ (by simp) h
    · exact hwords _ (by simp) h

end Driver

end SqlDialect
