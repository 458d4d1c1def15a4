/-
  SqlDialect.Proofs.Sql.Complete
  ────────────────────────────────
  **WHAT IS SPELLED IS READ.**

  The lexemes of a phrase are read as the phrase, whatever stands behind
  them.  Operators group from the left, so what follows an expression of a
  level is left to the loop of that level:

      readRest d n level e rest = r → readLevel d n' level (ls ++ rest) = r

  An expression is read within a bound of eight for each lexeme.
-/
import Mathlib.Tactic.ByContra
import SqlDialect.Proofs.Sql.Sound

namespace SqlDialect.Sql

variable {d : Dialect}

/-! ## §1. What stands behind. -/

/-- The lexeme can stand behind an expression. -/
def isBehind : Lexeme → Bool
  | .mark .dot | .mark .openParen => false
  | .mark _ | .word _ => true
  | _ => false

/-- Nothing, or a lexeme that is no operator above the level. -/
def Follows (level : Nat) (rest : List Lexeme) : Prop :=
  ∀ l ∈ rest.head?, isBehind l = true ∧ ∀ o, l = .mark (.op o) → o.level ≤ level

theorem follows_nil (level : Nat) : Follows level [] := fun _ h => absurd h nofun

/-- A lexeme follows if it can stand behind an expression and does not bind
tighter. -/
theorem follows_cons {level : Nat} {l : Lexeme} (h : isBehind l = true)
    (ho : ∀ o, l = .mark (.op o) → o.level ≤ level) (rest : List Lexeme) :
    Follows level (l :: rest) := by
  intro l' hl'
  obtain rfl : l = l' := by simpa using hl'
  exact ⟨h, ho⟩

/-- What follows at a level follows at every tighter one. -/
theorem Follows.mono {level level' : Nat} {rest : List Lexeme} (h : Follows level rest)
    (hle : level ≤ level') : Follows level' rest := fun l hl =>
  ⟨(h l hl).1, fun o ho => Nat.le_trans ((h l hl).2 o ho) hle⟩

/-- No dot follows, so a path ends where it was spelled to end. -/
theorem Follows.startsWithDot_eq_false {level : Nat} {rest : List Lexeme}
    (h : Follows level rest) : startsWithDot rest = false := by
  cases rest with
  | nil => rfl
  | cons l rest =>
      rw [startsWithDot, beq_eq_false_iff_ne]
      rintro heq
      obtain rfl := Option.some.inj heq
      exact absurd (h _ rfl).1 Bool.false_ne_true

/-- Every infix operator binds looser than a sign. -/
theorem level_lt_unaryLevel (o : Operator) : o.level < unaryLevel := by
  cases o <;> decide

/-- The loop of a level ends before operators of other levels. -/
theorem readRest_stop {level : Nat} {rest : List Lexeme}
    (h : ∀ l ∈ rest.head?, ∀ o, l = .mark (.op o) → o.level ≠ level) (left : Expr) :
    ∀ n, 1 ≤ n → readRest d n level left rest = .ok (left, rest)
  | n + 1, _ => by
      rw [readRest.eq_def]
      simp only
      split
      next o rest => rw [if_neg (h _ rfl o rfl)]
      next => rfl

/-- What follows an expression of a looser level ends the loop. -/
theorem Follows.readRest_eq {level level' : Nat} {rest : List Lexeme}
    (h : Follows level rest) (hlt : level < level') (left : Expr) :
    ∀ n, 1 ≤ n → readRest d n level' left rest = .ok (left, rest) :=
  readRest_stop (fun l hl o ho heq => by
    have hle := (h l hl).2 o ho
    omega) left

/-! ## §2. Phrases that are read. -/

/-- The lexemes are read as the phrase.  Behind an expression the loop of its
level needs some bound of its own, and a looser level costs one step more. -/
def IsRead (d : Dialect) : Phrase → List Lexeme → Prop
  | .expr level e, ls => ∀ (rest : List Lexeme) (r : Expr × List Lexeme) (need : Nat),
      Follows level rest → (∀ n, need ≤ n → readRest d n level e rest = .ok r) →
      ∀ n, need + 8 * ls.length + 6 ≤ n + level → readLevel d n level (ls ++ rest) = .ok r
  | .items afterComma i, ls => ∀ (rest : List Lexeme) (n : Nat),
      8 * ls.length + 7 ≤ n → readItems d n afterComma (ls ++ rest) = .ok (i, rest)

/-- Before an operator of a looser level the whole expression is read. -/
theorem IsRead.readLevel_eq {level : Nat} {e : Expr} {ls : List Lexeme}
    (h : IsRead d (.expr level e) ls) {rest : List Lexeme} (hfollows : Follows level rest)
    (hstop : ∀ l ∈ rest.head?, ∀ o, l = .mark (.op o) → o.level ≠ level) {n : Nat}
    (hn : 8 * ls.length + 7 ≤ n + level) :
    readLevel d n level (ls ++ rest) = .ok (e, rest) :=
  h rest (e, rest) 1 hfollows (readRest_stop hstop e) n (by omega)

/-- The whole expression is read before a lexeme that is no operator. -/
theorem IsRead.readLevel_before {e : Expr} {ls : List Lexeme} (h : IsRead d (.expr 0 e) ls)
    (l : Lexeme) (hl : isBehind l = true) (hop : ∀ o, l ≠ .mark (.op o))
    (rest : List Lexeme) {n : Nat} (hn : 8 * ls.length + 7 ≤ n) :
    readLevel d n 0 (ls ++ l :: rest) = .ok (e, l :: rest) := by
  refine h.readLevel_eq (follows_cons hl (fun o ho => absurd ho (hop o)) rest) ?_ hn
  intro l' hl' o ho
  obtain rfl : l = l' := by simpa using hl'
  exact absurd ho (hop o)

/-- Signs and operands stand at the level above all operators. -/
theorem isRead_of_readSigned {e : Expr} {ls : List Lexeme}
    (h : ∀ rest n, Follows unaryLevel rest → 8 * ls.length + 2 ≤ n →
      readSigned d n (ls ++ rest) = .ok (e, rest)) :
    IsRead d (.expr unaryLevel e) ls := by
  intro rest r need hfollows hrest n hn
  -- no operator has the level, so the loop adds nothing
  have hr : r = (e, rest) := by
    have hstop : readRest d (need + 1) unaryLevel e rest = .ok (e, rest) :=
      readRest_stop (fun l _ o _ => Nat.ne_of_lt (level_lt_unaryLevel o)) e _ (by omega)
    rw [hrest (need + 1) (by omega)] at hstop
    exact Except.ok.inj hstop
  subst hr
  obtain ⟨m, rfl⟩ : ∃ m, n = m + 1 := ⟨n - 1, by simp only [unaryLevel] at hn; omega⟩
  rw [readLevel, if_pos (Nat.le_refl _)]
  exact h rest m hfollows (by simp only [unaryLevel] at hn; omega)

/-- An operand is read at the innermost level, where no loop runs behind it. -/
theorem IsRead.readSigned_eq {e : Expr} {ls : List Lexeme}
    (h : IsRead d (.expr unaryLevel e) ls) {rest : List Lexeme}
    (hfollows : Follows unaryLevel rest) {n : Nat} (hn : 8 * ls.length + 3 ≤ n) :
    readSigned d n (ls ++ rest) = .ok (e, rest) := by
  have hlevel := h.readLevel_eq hfollows
    (fun l _ o _ => Nat.ne_of_lt (level_lt_unaryLevel o)) (n := n + 1)
    (by simp only [unaryLevel]; omega)
  rw [readLevel, if_pos (Nat.le_refl _)] at hlevel
  exact hlevel

/-- The lexeme is no sign. -/
def isUnsigned : Lexeme → Bool
  | .mark (.op .add) | .mark (.op .sub) => false
  | _ => true

/-- An operand that starts with no sign is read by its own rule. -/
theorem isRead_of_readOperand {e : Expr} {l : Lexeme} {ls : List Lexeme}
    (hl : isUnsigned l = true)
    (h : ∀ rest n, Follows unaryLevel rest → 8 * ls.length + 9 ≤ n + 1 →
      readOperand d (n + 1) (l :: (ls ++ rest)) = .ok (e, rest)) :
    IsRead d (.expr unaryLevel e) (l :: ls) := by
  refine isRead_of_readSigned fun rest n hfollows hn => ?_
  rw [List.length_cons] at hn
  obtain ⟨m, rfl⟩ : ∃ m, n = m + 1 + 1 := ⟨n - 2, by omega⟩
  show readSigned d (m + 1 + 1) (l :: (ls ++ rest)) = _
  rw [readSigned.eq_def]
  simp only
  split
  next heq =>
    obtain ⟨rfl, -⟩ := List.cons.inj heq
    exact absurd hl nofun
  -- the operand starts with no sign, so neither rule for signs applies
  next heq =>
    obtain ⟨rfl, -⟩ := List.cons.inj heq
    exact absurd hl nofun
  next => exact h rest m hfollows (by omega)

/-! ## §3. Operands. -/

variable {e : Expr} {ls : List Lexeme}

/-- A quoted name starts a path. -/
theorem isRead_quotedName {s : String} (h : SpellsPath ⟨s, true⟩ ls e) :
    IsRead d (.expr unaryLevel e) (.quotedName s :: ls) :=
  isRead_of_readOperand rfl fun rest _ hfollows _ => by
    rw [readOperand]
    exact h rest hfollows.startsWithDot_eq_false

/-- A path goes on with a dot or ends before what stands behind an expression. -/
theorem head?_path_append (hdot : startsWithDot ls = true ∨ ls = []) {rest : List Lexeme}
    (h : Follows unaryLevel rest) :
    ∀ l ∈ (ls ++ rest).head?, l = .mark .dot ∨ isBehind l = true := by
  intro l hl
  rcases hdot with hdot | rfl
  · cases ls with
    | nil => exact absurd hdot Bool.false_ne_true
    | cons x ls =>
        obtain rfl : x = l := by simpa using hl
        exact .inl (by simpa [startsWithDot] using hdot)
  · exact .inr (h l hl).1

/-- No interval goes on so, since its text follows the word. -/
theorem takeSecond?_eq_none (s : String) (hdot : startsWithDot ls = true ∨ ls = [])
    {rest : List Lexeme} (h : Follows unaryLevel rest) : takeSecond? s (ls ++ rest) = none := by
  have hhead := head?_path_append hdot h
  unfold takeSecond?
  split
  next heq =>
    rw [heq] at hhead
    exact absurd (hhead _ rfl) (by simp [isBehind])
  next => rfl

/-- A word that is no keyword starts a path. -/
theorem isRead_word {s : String} {name : Name} (hname : nameOfWord? d s = some name)
    (hdot : startsWithDot ls = true ∨ ls = []) (h : SpellsPath name ls e) :
    IsRead d (.expr unaryLevel e) (.word s :: ls) :=
  isRead_of_readOperand rfl fun rest n hfollows _ => by
    have hpath := h rest hfollows.startsWithDot_eq_false
    have hsecond := takeSecond?_eq_none s hdot hfollows
    have hhead := head?_path_append hdot hfollows
    rw [readOperand, hsecond, hname]
    · exact hpath
    -- and no arguments are opened
    · rintro ls' heq
      rw [heq] at hhead
      exact absurd (hhead _ rfl) (by simp [isBehind])

/-- The interval of one second is read as a whole. -/
theorem isRead_second {i u : String} (hi : isKeyword "INTERVAL" (.word i) = true)
    (hu : isKeyword "SECOND" (.word u) = true) :
    IsRead d (.expr unaryLevel .oneSecond) [.word i, .text "1", .word u] :=
  isRead_of_readOperand rfl fun rest n _ _ => by
    have hsecond : takeSecond? i (.text "1" :: .word u :: rest) = some rest := by
      rw [takeSecond?, hi, hu]
      rfl
    show readOperand d (n + 1) (.word i :: .text "1" :: .word u :: rest) = _
    rw [readOperand, hsecond]
    rintro _ ⟨⟩

/-- Parentheses enclose one expression or several items. -/
theorem isRead_parens {i : Items} (h : IsRead d (.items false i) ls) :
    IsRead d (.expr unaryLevel i.inParens) (.mark .openParen :: ls) :=
  isRead_of_readOperand rfl fun rest n _ hn => by
    rw [readOperand, h rest n (by omega)]
    rfl

/-- A call is a word and items, unless the word asks for a form of its own. -/
theorem isRead_call {f : String} {i : Items} (hcast : isKeyword "CAST" (.word f) = false)
    (hextract : isKeyword "EXTRACT" (.word f) = false) (h : IsRead d (.items false i) ls) :
    IsRead d (.expr unaryLevel (.call f i.items)) (.word f :: .mark .openParen :: ls) :=
  isRead_of_readOperand rfl fun rest n _ hn => by
    rw [List.length_cons] at hn
    show readOperand d (n + 1) (.word f :: .mark .openParen :: (ls ++ rest)) = _
    unfold readOperand
    simp only [hcast, hextract, Bool.false_eq_true, if_false, h rest n (by omega)]
    rfl

/-- The operand of a cast is read at the loosest level. -/
theorem isRead_cast {f : String} {as : Lexeme} {t : DataType} {ms : List Lexeme}
    (hf : isKeyword "CAST" (.word f) = true) (has : isKeyword "AS" as = true)
    (he : IsRead d (.expr 0 e) ls) (ht : SpellsType d ms t) :
    IsRead d (.expr unaryLevel (.cast e t))
      (.word f :: .mark .openParen :: (ls ++ as :: (ms ++ [.mark .closeParen]))) :=
  isRead_of_readOperand rfl fun rest n _ hn => by
    have hword : isBehind as = true ∧ ∀ o, as ≠ .mark (.op o) := by
      cases as
      case word => exact ⟨rfl, nofun⟩
      all_goals exact absurd has nofun
    simp only [List.length_cons, List.length_append] at hn
    -- the lexemes as the reader meets them, one after the other
    have hsplit : .mark .openParen :: (ls ++ as :: (ms ++ [.mark .closeParen])) ++ rest
        = .mark .openParen :: (ls ++ as :: (ms ++ .mark .closeParen :: rest)) := by simp
    have hexpr : readLevel d n 0 (ls ++ as :: (ms ++ .mark .closeParen :: rest))
        = .ok (e, as :: (ms ++ .mark .closeParen :: rest)) :=
      he.readLevel_before as hword.1 hword.2 _ (by omega)
    have hkeyword : expectKeyword "AS" (as :: (ms ++ .mark .closeParen :: rest))
        = .ok (ms ++ .mark .closeParen :: rest) := if_pos has
    rw [hsplit]
    unfold readOperand
    simp only [hf, if_true, hexpr]
    show (expectKeyword "AS" (as :: (ms ++ .mark .closeParen :: rest)) >>= _) = _
    rw [hkeyword]
    show (readType d (ms ++ .mark .closeParen :: rest) >>= _) = _
    rw [ht rest]
    rfl

/-- The operand of an extraction is read at the loosest level. -/
theorem isRead_extract {f part : String} {fr : Lexeme}
    (hcast : isKeyword "CAST" (.word f) = false)
    (hf : isKeyword "EXTRACT" (.word f) = true) (hfr : isKeyword "FROM" fr = true)
    (he : IsRead d (.expr 0 e) ls) :
    IsRead d (.expr unaryLevel (.extract part e))
      (.word f :: .mark .openParen :: .word part :: fr :: (ls ++ [.mark .closeParen])) :=
  isRead_of_readOperand rfl fun rest n _ hn => by
    simp only [List.length_cons, List.length_append] at hn
    -- the lexemes as the reader meets them, one after the other
    have hsplit : .mark .openParen :: .word part :: fr :: (ls ++ [.mark .closeParen]) ++ rest
        = .mark .openParen :: .word part :: fr :: (ls ++ .mark .closeParen :: rest) := by simp
    have hexpr : readLevel d n 0 (ls ++ .mark .closeParen :: rest)
        = .ok (e, .mark .closeParen :: rest) :=
      he.readLevel_before (.mark .closeParen) rfl nofun rest (by omega)
    have hkeyword : expectKeyword "FROM" (fr :: (ls ++ .mark .closeParen :: rest))
        = .ok (ls ++ .mark .closeParen :: rest) := if_pos hfr
    rw [hsplit]
    unfold readOperand
    simp only [hcast, hf, Bool.false_eq_true, if_false, if_true]
    show (expectKeyword "FROM" (fr :: (ls ++ .mark .closeParen :: rest)) >>= _) = _
    rw [hkeyword]
    show (readLevel d n 0 _ >>= _) = _
    rw [hexpr]
    rfl

/-! ## §4. Signs and operators. -/

/-- A minus sign is read before its operand. -/
theorem isRead_neg (h : IsRead d (.expr unaryLevel e) ls) :
    IsRead d (.expr unaryLevel (.neg e)) (.mark (.op .sub) :: ls) :=
  isRead_of_readSigned fun rest n hfollows hn => by
    rw [List.length_cons] at hn
    obtain ⟨m, rfl⟩ : ∃ m, n = m + 1 := ⟨n - 1, by omega⟩
    show readSigned d (m + 1) (.mark (.op .sub) :: (ls ++ rest)) = _
    rw [readSigned, h.readSigned_eq hfollows (by omega)]
    rfl

/-- A plus sign is read and dropped. -/
theorem isRead_plus (h : IsRead d (.expr unaryLevel e) ls) :
    IsRead d (.expr unaryLevel e) (.mark (.op .add) :: ls) :=
  isRead_of_readSigned fun rest n hfollows hn => by
    rw [List.length_cons] at hn
    obtain ⟨m, rfl⟩ : ∃ m, n = m + 1 := ⟨n - 1, by omega⟩
    show readSigned d (m + 1) (.mark (.op .add) :: (ls ++ rest)) = _
    rw [readSigned, h.readSigned_eq hfollows (by omega)]

/-- An operand of a tighter level stands at a looser one. -/
theorem isRead_looser {level : Nat} (hlt : level < unaryLevel)
    (h : IsRead d (.expr (level + 1) e) ls) : IsRead d (.expr level e) ls := by
  intro rest r need hfollows hrest n hn
  have htight := h rest (e, rest) 1 (hfollows.mono (Nat.le_succ level))
    (hfollows.readRest_eq (Nat.lt_succ_self level) e)
  simp only [unaryLevel] at hlt
  -- the loop needs some bound to give a result
  have hneed : 1 ≤ need := by
    by_contra hzero
    exact absurd (hrest 0 (by omega)) nofun
  obtain ⟨m, rfl⟩ : ∃ m, n = m + 1 := ⟨n - 1, by omega⟩
  have hnot : ¬ unaryLevel ≤ level := by simp only [unaryLevel]; omega
  rw [readLevel, if_neg hnot]
  show (readLevel d m (level + 1) (ls ++ rest) >>= _) = _
  rw [htight m (by omega)]
  exact hrest m (by omega)

/-- The right operand is read first; then the loop goes on behind it. -/
theorem isRead_binary {o : Operator} {a b : Expr} {ms : List Lexeme}
    (ha : IsRead d (.expr o.level a) ls) (hb : IsRead d (.expr (o.level + 1) b) ms) :
    IsRead d (.expr o.level (.binary o a b)) (ls ++ .mark (.op o) :: ms) := by
  intro rest r need hfollows hrest n hn
  have hright := hb rest (b, rest) 1 (hfollows.mono (Nat.le_succ _))
    (hfollows.readRest_eq (Nat.lt_succ_self _) b)
  -- to the left operand, the operator and the right operand are what follows
  have hloop : ∀ k, need + 8 * ms.length + 8 ≤ k →
      readRest d k o.level a (.mark (.op o) :: (ms ++ rest)) = .ok r := by
    intro k hk
    obtain ⟨m, rfl⟩ : ∃ m, k = m + 1 := ⟨k - 1, by omega⟩
    rw [readRest, if_pos rfl]
    show (readLevel d m (o.level + 1) (ms ++ rest) >>= _) = _
    rw [hright m (by omega)]
    exact hrest m (by omega)
  have hop : Follows o.level (.mark (.op o) :: (ms ++ rest)) :=
    follows_cons rfl (fun o' ho' => by cases ho'; exact Nat.le_refl _) _
  simp only [List.length_append, List.length_cons] at hn
  rw [List.append_assoc]
  exact ha _ r _ hop hloop n (by omega)

/-! ## §5. Items. -/

/-- An expression starts with neither a comma nor a closing parenthesis, plus
signs apart. -/
def StartsExpr (ls : List Lexeme) : Prop := ∀ rest, ∃ l t,
  dropPluses (ls ++ rest) = l :: t ∧ l ≠ .mark .closeParen ∧ l ≠ .mark .comma

/-- A lexeme starts an expression if it is neither a comma nor a closing
parenthesis. -/
theorem startsExpr_cons {l : Lexeme} (hplus : l ≠ .mark (.op .add))
    (hclose : l ≠ .mark .closeParen) (hcomma : l ≠ .mark .comma) (ls : List Lexeme) :
    StartsExpr (l :: ls) := by
  intro rest
  refine ⟨l, ls ++ rest, ?_, hclose, hcomma⟩
  show dropPluses (l :: (ls ++ rest)) = _
  unfold dropPluses
  split
  next heq => exact absurd (List.cons.inj heq).1 hplus
  next => rfl

/-- Whatever spells an expression starts like one. -/
theorem startsExpr_of_spells {p : Phrase} (h : Spells d p ls) :
    ∀ level e, p = .expr level e → StartsExpr ls := by
  induction h with
  | plus h ih =>
      intro level e _ rest
      obtain ⟨l, t, hdrop, hl⟩ := ih _ _ rfl rest
      exact ⟨l, t, hdrop, hl⟩
  | looser _ h ih => exact fun _ _ _ => ih _ _ rfl
  | binary _ _ iha _ =>
      intro level e _ rest
      rw [List.append_assoc]
      exact iha _ _ rfl _
  | close | comma | last | next => exact fun _ _ heq => nomatch heq
  | _ =>
      intro _ _ _
      apply startsExpr_cons <;> exact nofun

/-- Plus signs in front of anything are dropped. -/
theorem dropPluses_append {ps : List Lexeme} (h : ArePluses ps) (rest : List Lexeme) :
    dropPluses (ps ++ rest) = dropPluses rest := by
  induction ps with
  | nil => rfl
  | cons l ps ih =>
      obtain rfl := h l (by simp)
      exact ih fun x hx => h x (by simp [hx])

variable {afterComma : Bool}

/-- The closing parenthesis ends the items. -/
theorem isRead_close {ps : List Lexeme} (h : ArePluses ps) :
    IsRead d (.items afterComma ⟨[], afterComma && ps.isEmpty⟩) (ps ++ [.mark .closeParen]) := by
  intro rest n hn
  have hhead : ((ps ++ .mark .closeParen :: rest).head? == some (.mark .closeParen))
      = ps.isEmpty := by
    cases ps with
    | nil => rfl
    | cons l ps =>
        rw [h l (by simp)]
        rfl
  obtain ⟨m, rfl⟩ : ∃ m, n = m + 1 := ⟨n - 1, by omega⟩
  rw [List.append_assoc]
  show readItems d (m + 1) afterComma (ps ++ .mark .closeParen :: rest) = _
  rw [readItems, dropPluses_append h]
  show Except.ok (Items.mk [] (afterComma && _), rest) = _
  rw [hhead]

/-- A comma without an expression before it adds no item. -/
theorem isRead_comma {i : Items} {ps : List Lexeme} (h : ArePluses ps)
    (hi : IsRead d (.items true i) ls) :
    IsRead d (.items afterComma i) (ps ++ .mark .comma :: ls) := by
  intro rest n hn
  simp only [List.length_append, List.length_cons] at hn
  obtain ⟨m, rfl⟩ : ∃ m, n = m + 1 := ⟨n - 1, by omega⟩
  rw [List.append_assoc]
  show readItems d (m + 1) afterComma (ps ++ .mark .comma :: (ls ++ rest)) = _
  rw [readItems, dropPluses_append h]
  exact hi rest m (by omega)

/-- The items go on with an expression if the lexemes start with one. -/
theorem readItems_eq {ls : List Lexeme} (hstart : StartsExpr ls) (n : Nat)
    (rest : List Lexeme) :
    readItems d (n + 1) afterComma (ls ++ rest) = (do
      let (e, rest) ← readLevel d n 0 (ls ++ rest)
      match rest with
      | .mark .comma :: rest => do
          let (items, rest) ← readItems d n true rest
          return (⟨e :: items.items, items.endWithComma⟩, rest)
      | _ => return (⟨[e], false⟩, ← expectMark .closeParen rest)) := by
  obtain ⟨l, t, hdrop, hclose, hcomma⟩ := hstart rest
  rw [readItems, hdrop]
  split
  next heq => exact absurd (List.cons.inj heq).1 hclose
  next heq => exact absurd (List.cons.inj heq).1 hcomma
  next => rfl

/-- The last item stands before the closing parenthesis. -/
theorem isRead_last (hstart : StartsExpr ls) (h : IsRead d (.expr 0 e) ls) :
    IsRead d (.items afterComma ⟨[e], false⟩) (ls ++ [.mark .closeParen]) := by
  intro rest n hn
  simp only [List.length_append, List.length_cons, List.length_nil] at hn
  obtain ⟨m, rfl⟩ : ∃ m, n = m + 1 := ⟨n - 1, by omega⟩
  rw [List.append_assoc]
  show readItems d (m + 1) afterComma (ls ++ .mark .closeParen :: rest) = _
  rw [readItems_eq hstart, h.readLevel_before (.mark .closeParen) rfl nofun rest (by omega)]
  rfl

/-- An item before a comma is followed by the others. -/
theorem isRead_next {i : Items} {ms : List Lexeme} (hstart : StartsExpr ls)
    (h : IsRead d (.expr 0 e) ls) (hi : IsRead d (.items true i) ms) :
    IsRead d (.items afterComma ⟨e :: i.items, i.endWithComma⟩) (ls ++ .mark .comma :: ms) := by
  intro rest n hn
  simp only [List.length_append, List.length_cons] at hn
  obtain ⟨m, rfl⟩ : ∃ m, n = m + 1 := ⟨n - 1, by omega⟩
  rw [List.append_assoc]
  show readItems d (m + 1) afterComma (ls ++ .mark .comma :: (ms ++ rest)) = _
  rw [readItems_eq hstart, h.readLevel_before (.mark .comma) rfl nofun (ms ++ rest) (by omega)]
  show (readItems d m true (ms ++ rest) >>= _) = _
  rw [hi rest m (by omega)]
  rfl

/-! ## §6. The grammar. -/

/-- **What is spelled is read.** -/
theorem isRead_of_spells {p : Phrase} (h : Spells d p ls) : IsRead d p ls := by
  -- on the way the phrase is spelled, one lemma for each
  induction h with
  | number n => exact isRead_of_readOperand rfl fun _ _ _ _ => rfl
  | fraction n => exact isRead_of_readOperand rfl fun _ _ _ _ => rfl
  | text s => exact isRead_of_readOperand rfl fun _ _ _ _ => rfl
  | quotedName h => exact isRead_quotedName h
  | word hname hdot h => exact isRead_word hname hdot h
  | second hi hu => exact isRead_second hi hu
  | parens _ ih => exact isRead_parens ih
  | cast hf has _ ht ih => exact isRead_cast hf has ih ht
  | extract hcast hf hfr _ ih => exact isRead_extract hcast hf hfr ih
  | call hcast hextract _ ih => exact isRead_call hcast hextract ih
  | neg _ ih => exact isRead_neg ih
  | plus _ ih => exact isRead_plus ih
  | looser hlt _ ih => exact isRead_looser hlt ih
  | binary _ _ iha ihb => exact isRead_binary iha ihb
  | close hps => exact isRead_close hps
  | comma hps _ ih => exact isRead_comma hps ih
  | last h ih => exact isRead_last (startsExpr_of_spells h _ _ rfl) ih
  | next h _ ih ihi => exact isRead_next (startsExpr_of_spells h _ _ rfl) ih ihi

/-- **Lexemes make an expression exactly if they spell it.** -/
theorem ofLexemes_eq_ok_iff {e : Expr} {ls : List Lexeme} :
    Expr.ofLexemes d ls = .ok e ↔ Spells d (.expr 0 e) ls := by
  constructor
  · intro h
    obtain ⟨⟨e', rest⟩, hread, hend⟩ := exists_of_bind_eq_ok h
    simp only at hend
    split at hend
    next hempty =>
      cases hend
      obtain rfl := List.isEmpty_iff.1 hempty
      obtain ⟨ms, rfl, hms⟩ := (soundUpTo _).level (Nat.zero_le _) hread
      rw [List.append_nil]
      exact hms
    next => exact absurd hend nofun
  · intro h
    -- nothing stands behind, so no loop goes on
    have hread := (isRead_of_spells h).readLevel_eq (follows_nil 0)
      (fun _ hl => absurd hl nofun) (n := 8 * (ls.length + 1)) (by omega)
    rw [List.append_nil] at hread
    rw [Expr.ofLexemes, hread]
    rfl

end SqlDialect.Sql
