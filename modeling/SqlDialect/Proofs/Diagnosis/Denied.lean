/-
  SqlDialect.Proofs.Diagnosis.Denied
  ────────────────────────────────
  **DENIED ACCESS IS SEEN AT THE FRONT ONLY.**

  The rule of HANA for users without access has nothing before its words, so
  that any text in front of them hides them.  A message that holds the words
  is left to the first of these cases:

      an unknown database in front, the words in front, the later rules

  So its category is that of denied access only if the words are in front, or
  if a later rule gives the same one.
-/
import SqlDialect.Proofs.Diagnosis.Cases

namespace SqlDialect

open SqlDialect.Text

/-! ## §1. Cases that do not apply. -/

section Cases

variable {p q : Prop} {c c' : Category} {es es' : List (Prop × Category)}

/-- Without a case nothing is classified. -/
theorem firstOf_nil_iff : FirstOf [] c ↔ c = .unclassified := by
  constructor
  · rintro ⟨⟩
    rfl
  · rintro rfl
    exact .none

/-- The first case decides if it applies, and the others decide if it does not. -/
theorem firstOf_cons_iff :
    FirstOf ((p, c) :: es) c' ↔ (p ∧ c' = c) ∨ (¬ p ∧ FirstOf es c') := by
  constructor
  · intro h
    cases h with
    | here hp => exact .inl ⟨hp, rfl⟩
    | later hp h => exact .inr ⟨hp, h⟩
  · rintro (⟨hp, rfl⟩ | ⟨hp, h⟩)
    · exact .here hp
    · exact .later hp h

/-- A case that does not apply may be left out. -/
theorem firstOf_cons_of_not (hp : ¬ p) : FirstOf ((p, c) :: es) c' ↔ FirstOf es c' := by
  rw [firstOf_cons_iff, and_iff_right hp]
  exact or_iff_right fun h => hp h.1

/-- Cases that apply alike decide alike. -/
theorem firstOf_cons_congr (hp : p ↔ q) (hes : FirstOf es c' ↔ FirstOf es' c') :
    FirstOf ((p, c) :: es) c' ↔ FirstOf ((q, c) :: es') c' := by
  rw [firstOf_cons_iff, firstOf_cons_iff, hp, hes]

/-- Two cases in front, and the category of the second. -/
theorem firstOf_second_iff :
    FirstOf ((p, c) :: (q, c') :: es) c' ∨ p ↔ p ∨ q ∨ FirstOf es c' := by
  rw [firstOf_cons_iff, firstOf_cons_iff]
  tauto

end Cases

/-! ## §2. Words in front of a longer text. -/

section Front

variable {a : Char} {w front s : List Char}

/-- A word without the letter ends before it. -/
theorem prefix_append_cons_iff (h : a ∉ w) : w <+: front ++ a :: s ↔ w <+: front := by
  refine ⟨fun hw => ?_, fun hw => hw.trans (List.prefix_append ..)⟩
  induction front generalizing w with
  | nil =>
      -- a word that goes on here starts with the letter
      obtain rfl | ⟨t, rfl, -⟩ := List.prefix_cons_iff.1 hw
      · exact List.nil_prefix
      · exact absurd (List.mem_cons_self ..) h
  | cons b front ih =>
      obtain rfl | ⟨t, rfl, ht⟩ := List.prefix_cons_iff.1 hw
      · exact List.nil_prefix
      · exact List.cons_prefix_cons.2 ⟨rfl, ih (fun ha => h (List.mem_cons_of_mem b ha)) ht⟩

/-- A word that has its first letter only there is in front of what holds it if
nothing comes before it, or if it is in front of that. -/
theorem cons_prefix_append_iff (h : a ∉ w) :
    a :: w <+: front ++ a :: (w ++ s) ↔ front = [] ∨ a :: w <+: front := by
  cases front with
  | nil => exact iff_of_true (List.prefix_append (a :: w) s) (.inl rfl)
  | cons b front =>
      rw [List.cons_append, List.cons_prefix_cons, List.cons_prefix_cons,
        prefix_append_cons_iff h]
      exact (or_iff_right (List.cons_ne_nil b front)).symm

end Front

/-! ## §3. Messages that hold the words. -/

/-- The report of a lost link has no capital A. -/
theorem IsLinkFailure.notMem {m : List Char} (h : IsLinkFailure m) : 'A' ∉ m := by
  obtain ⟨gap, rfl, -, hblank⟩ := h
  have hgap : 'A' ∉ gap := fun hA => absurd (hblank 'A' hA) (by decide)
  simp only [String.toList_append, List.mem_append, not_or]
  exact ⟨⟨by decide +kernel, hgap⟩, by decide +kernel, by decide +kernel⟩

/-- A database or a tenant is missing, or not known. -/
def TellsMissing (fold : Char → Char) (m : List Char) : Prop :=
  HasPart (SaysMissing fold) m ∨ HoldsWords fold "unknown database" m
    ∨ HoldsWords fold "unknown tenant database" m

/-- The cases that are left for a message that holds the words behind the given
front: two of the front, and those of the later rules. -/
def deniedCases (front m : List Char) : List (Prop × Category) :=
  ("Unknown database ".toList <+: front, .databaseName)
    :: (front = [] ∨ "Access denied for user".toList <+: front, .usernameOrPassword)
    :: (hanaCases patternFold m).drop 4

/-- The later rules give the category of denied access to a failed authentication
only, if no database and no tenant is missing. -/
theorem firstOf_later_iff (m : List Char) :
    FirstOf ((hanaCases patternFold m).drop 4) .usernameOrPassword ↔
      ¬ TellsMissing patternFold m ∧ HoldsWords patternFold "authentication failed" m := by
  show FirstOf [(TellsMissing patternFold m, _), _, _] _ ↔ _
  simp only [firstOf_cons_iff, firstOf_nil_iff, reduceCtorEq, and_false, false_or, or_false,
    and_true]

section Denied

variable (front back : String)

/-- The words that tell of denied access, with text around them. -/
def deniedMessage : String := front ++ "Access denied for user" ++ back

/-- The message, cut at its capital letter. -/
theorem toList_deniedMessage :
    (deniedMessage front back).toList =
      front.toList ++ 'A' :: ("ccess denied for user".toList ++ back.toList) := by
  rw [deniedMessage, String.toList_append, String.toList_append, List.append_assoc]
  rfl

theorem mem_deniedMessage : 'A' ∈ (deniedMessage front back).toList := by
  rw [toList_deniedMessage]
  exact List.mem_append_right _ (List.mem_cons_self ..)

/-- No such message reports a lost link. -/
theorem not_isLinkFailure_deniedMessage : ¬ IsLinkFailure (deniedMessage front back).toList :=
  fun h => h.notMem (mem_deniedMessage front back)

/-- A text without the letter is no such message. -/
theorem deniedMessage_ne_of_notMem {t : List Char} (h : 'A' ∉ t) :
    (deniedMessage front back).toList ≠ t :=
  fun ht => h (ht ▸ mem_deniedMessage front back)

/-- The message starts with an unknown database exactly if its front does. -/
theorem unknown_prefix_deniedMessage_iff :
    "Unknown database ".toList <+: (deniedMessage front back).toList ↔
      "Unknown database ".toList <+: front.toList := by
  rw [toList_deniedMessage]
  exact prefix_append_cons_iff (by decide)

/-- The message starts with the words exactly if nothing stands before them, or
if its front does. -/
theorem denied_prefix_deniedMessage_iff :
    "Access denied for user".toList <+: (deniedMessage front back).toList ↔
      front.toList = [] ∨ "Access denied for user".toList <+: front.toList := by
  rw [toList_deniedMessage]
  exact cons_prefix_append_iff (by decide)

/-- **A message that holds the words has the first of the cases left.** -/
theorem category_deniedMessage_iff (c : Category) :
    (Driver.hana.diagnose (deniedMessage front back)).category = c ↔
      FirstOf (deniedCases front.toList (deniedMessage front back).toList) c := by
  have hfirst : FirstOf (hanaCases patternFold (deniedMessage front back).toList)
      (Driver.hana.diagnose (deniedMessage front back)).category :=
    firstOf_diagnose (appliesIn_hana _)
  have hcases : FirstOf (hanaCases patternFold (deniedMessage front back).toList) c ↔
      FirstOf (deniedCases front.toList (deniedMessage front back).toList) c := by
    -- two of the first four rules never see the words, the other two see the front only
    refine (firstOf_cons_of_not (not_isLinkFailure_deniedMessage _ _)).trans ?_
    refine firstOf_cons_congr (unknown_prefix_deniedMessage_iff _ _) ?_
    refine firstOf_cons_congr (denied_prefix_deniedMessage_iff _ _) ?_
    exact firstOf_cons_of_not (deniedMessage_ne_of_notMem _ _ (by decide))
  rw [← hcases]
  constructor
  · rintro rfl
    exact hfirst
  · exact hfirst.unique

end Denied

namespace Driver

/-- **Denied access is seen in front only.**  A message that holds its words has the
category of the first case that is left.  Unless an earlier rule applies, which
only that for an unknown database can, it is the category of denied access
exactly if the words are in front, or if no later rule comes before that for a
failed authentication, which has the same one. -/
theorem denied_access_is_seen_iff (front back : String) :
    (∀ c, (hana.diagnose (deniedMessage front back)).category = c ↔
      FirstOf (deniedCases front.toList (deniedMessage front back).toList) c) ∧
    (((hana.diagnose (deniedMessage front back)).category = .usernameOrPassword ∨
        IsLinkFailure (deniedMessage front back).toList ∨
        "Unknown database ".toList <+: (deniedMessage front back).toList) ↔
      "Unknown database ".toList <+: front.toList ∨
        (front.toList = [] ∨ "Access denied for user".toList <+: front.toList) ∨
        (¬ TellsMissing patternFold (deniedMessage front back).toList ∧
          HoldsWords patternFold "authentication failed" (deniedMessage front back).toList)) := by
  refine ⟨category_deniedMessage_iff front back, ?_⟩
  rw [category_deniedMessage_iff, unknown_prefix_deniedMessage_iff, ← firstOf_later_iff,
    or_iff_right (not_isLinkFailure_deniedMessage front back)]
  exact firstOf_second_iff

/-- The number of a fault in front of its text hides it. -/
example : (hana.diagnose (deniedMessage "(10, '" " BOB')")).category = .unclassified := by
  decide +kernel

end Driver

end SqlDialect
