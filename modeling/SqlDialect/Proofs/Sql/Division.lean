/-
  SqlDialect.Proofs.Sql.Division
  ────────────────────────────────
  **A DIVISION WRITTEN BEHIND A TEXT.**

  A division binds tighter than sums and concatenations, so behind the text
  of one it divides the last operand only:

      (a + b).dividedBehind n = a + b.dividedBehind n

  The whole is divided exactly if its outermost operator is a product or a
  quotient, or if it has none.
-/
import SqlDialect.Proofs.Sql.Precedence
import SqlDialect.Proofs.Text.Segment

namespace SqlDialect.Sql

open SqlDialect.Text SqlDialect.Number

variable {d : Dialect} {e e' : Expr} {s : List Char} {ls : List Lexeme}

/-! ## §1. Text that is read by itself. -/

/-- White space before a text adds no lexeme, however much of it there is. -/
theorem Scans.blanks : ∀ {b : List Char}, (∀ c ∈ b, isBlank c = true) → Scans s ls →
    Scans (b ++ s) ls
  | [], _, h => h
  | c :: _, hb, h => (Scans.blanks (fun x hx => hb x (by simp [hx])) h).blank (hb c (by simp))

/-- A piece with blanks around it is one too. -/
theorem Piece.between_blanks {a b : List Char} (ha : ∀ c ∈ a, isBlank c = true)
    (hb : ∀ c ∈ b, isBlank c = true) (h : Piece s ls) : Piece (a ++ (s ++ b)) ls := by
  intro t ms ht hms
  have hends : EndsLexeme (b ++ t) := by
    cases b with
    | nil => exact ht
    | cons c b => exact endsLexeme_blank (hb c (by simp)) _
  rw [List.append_assoc, List.append_assoc]
  exact (h _ ms hends (hms.blanks hb)).blanks ha

/-- A text is its trimmed text with blanks around it. -/
theorem exists_blanks_around_trim (s : List Char) : ∃ a b, s = a ++ (trim s ++ b) ∧
    (∀ c ∈ a, isBlank c = true) ∧ ∀ c ∈ b, isBlank c = true := by
  obtain ⟨b, hb, hblank⟩ := exists_eq_dropEndWhile_append isBlank (s.dropWhile isBlank)
  refine ⟨s.takeWhile isBlank, b, ?_, ?_, hblank⟩
  · rw [trim, trimWhile, ← hb, List.takeWhile_append_dropWhile]
  · exact fun c hc => List.all_eq_true.1 List.all_takeWhile c hc

/-- What a text is read as, it is read as in any place. -/
theorem isReadAs_of_read (h : Expr.read d (e.render d) = .ok e') : e.IsReadAs d 0 e' := by
  obtain ⟨ls, hscan, hread⟩ := exists_of_bind_eq_ok h
  rw [Expr.render, String.toList_ofList] at hscan
  obtain ⟨a, b, hs, ha, hb⟩ := exists_blanks_around_trim (e.renderChars d)
  refine ⟨ls, ?_, ofLexemes_eq_ok_iff.1 hread⟩
  rw [hs]
  exact (piece_of_scan hscan).between_blanks ha hb

/-! ## §2. How tightly phrases bind. -/

/-- Reading a path gives a column. -/
theorem exists_column_of_readPath : ∀ (ls : List Lexeme) {path : List Name} {name : Name}
    {rest : List Lexeme}, readPath path name ls = .ok (e, rest) →
    ∃ path' name', e = .column path' name'
  | [], _, _, _, h => by
      cases h
      exact ⟨_, _, rfl⟩
  | [l], path, name, rest, h => by
      unfold readPath at h
      split at h
      next heq => exact absurd heq nofun
      next => exact absurd h nofun
      next =>
        cases h
        exact ⟨_, _, rfl⟩
  | l :: l' :: ls, path, name, rest, h => by
      unfold readPath at h
      split at h
      -- a dot and a name lengthen the path
      next heq =>
        obtain ⟨-, heq⟩ := List.cons.inj heq
        obtain ⟨rfl, rfl⟩ := List.cons.inj heq
        split at h
        next => exact exists_column_of_readPath ls h
        next => exact absurd h nofun
      next => exact absurd h nofun
      next =>
        cases h
        exact ⟨_, _, rfl⟩

/-- A path binds as tight as any operand. -/
theorem tightness_of_spellsPath {name : Name} (h : SpellsPath name ls e) :
    e.tightness = unaryLevel := by
  obtain ⟨path, name, rfl⟩ := exists_column_of_readPath _ (h [] rfl)
  rfl

/-- An expression spelled at a level binds at the level or tighter. -/
theorem le_tightness_of_spells {p : Phrase} (h : Spells d p ls) :
    ∀ level e, p = .expr level e → level ≤ e.tightness := by
  -- on the way the phrase is spelled; items are no expressions
  induction h with
  | quotedName h =>
      rintro _ _ ⟨⟩
      exact Nat.le_of_eq (tightness_of_spellsPath h).symm
  | word _ _ h =>
      rintro _ _ ⟨⟩
      exact Nat.le_of_eq (tightness_of_spellsPath h).symm
  | @parens i _ _ _ =>
      rintro _ _ ⟨⟩
      unfold Items.inParens
      split <;> exact Nat.le_refl _
  | plus _ ih =>
      rintro _ _ ⟨⟩
      exact ih _ _ rfl
  | looser _ _ ih =>
      rintro _ _ ⟨⟩
      exact Nat.le_of_succ_le (ih _ _ rfl)
  | close | comma | last | next => exact fun _ _ heq => nomatch heq
  | _ =>
      rintro _ _ ⟨⟩
      exact Nat.le_refl _

/-! ## §3. What is divided. -/

/-- The expression that a division by a number behind the text makes: the
last operand of sums and concatenations is divided. -/
def Expr.dividedBehind (n : Nat) : Expr → Expr
  | .binary op a b =>
      if op.level < Operator.div.level then .binary op a (b.dividedBehind n)
      else .div (.binary op a b) (.ofNat n)
  | e => .div e (.ofNat n)

/-- The division takes the whole expression exactly if that binds at least as
tightly. -/
theorem dividedBehind_eq_div_iff {n : Nat} :
    e.dividedBehind n = .div e (.ofNat n) ↔ Operator.div.level ≤ e.tightness := by
  cases e with
  | binary op a b =>
      rw [Expr.dividedBehind]
      split
      next hlt =>
        -- the operator stays outermost, and it is no division
        refine ⟨fun h => ?_, fun hle => absurd hlt (Nat.not_lt.2 hle)⟩
        obtain ⟨rfl, -⟩ := Expr.binary.inj h
        exact absurd hlt (Nat.lt_irrefl _)
      next hge => exact ⟨fun _ => Nat.le_of_not_lt hge, fun _ => rfl⟩
  | _ => exact ⟨fun _ => Nat.le_succ 2, fun _ => rfl⟩

/-- A division by a number. -/
def divisionLexemes (n : Nat) : List Lexeme :=
  [.mark (.op .div), .number (String.ofList (natText n))]

/-- The division behind an expression joins it at its own level. -/
theorem spells_div {level : Nat} (h : Spells d (.expr Operator.div.level e) ls)
    (hlevel : level ≤ Operator.div.level) (n : Nat) :
    Spells d (.expr level (.div e (.ofNat n))) (ls ++ divisionLexemes n) := by
  have hdiv : Spells d (.expr Operator.div.level (.div e (.ofNat n)))
      (ls ++ divisionLexemes n) := .binary h (.number _)
  obtain ⟨k, hk⟩ := Nat.exists_eq_add_of_le hlevel
  rw [hk] at hdiv
  exact hdiv.loosen k (by rw [← hk]; decide)

/-- **A division behind an expression divides its last operand.** -/
theorem spells_dividedBehind (n : Nat) {p : Phrase} (h : Spells d p ls) :
    ∀ level e, p = .expr level e → level ≤ Operator.div.level →
      Spells d (.expr level (e.dividedBehind n)) (ls ++ divisionLexemes n) := by
  induction h with
  | @looser level e ls hlt h ih =>
      rintro _ _ ⟨⟩ hle
      by_cases hnext : level + 1 ≤ Operator.div.level
      · exact .looser hlt (ih _ _ rfl hnext)
      · -- above the level of products there is no operator to take part in
        have htight : Operator.div.level ≤ e.tightness := by
          have := le_tightness_of_spells h _ _ rfl
          omega
        obtain rfl : level = Operator.div.level := by omega
        rw [dividedBehind_eq_div_iff.2 htight]
        exact spells_div (.looser hlt h) hle n
  | @binary o a b ls ms ha hb _ ihb =>
      rintro _ _ ⟨⟩ hle
      -- a looser operator leaves the division to its right operand
      rw [Expr.dividedBehind]
      split
      next hlt =>
        rw [List.append_assoc]
        exact .binary ha (ihb _ _ rfl hlt)
      next hge =>
        have ho : o.level = Operator.div.level := by omega
        rw [ho]
        refine spells_div ?_ (Nat.le_refl _) n
        rw [← ho]
        exact .binary ha hb
  | close | comma | last | next => exact fun _ _ heq => nomatch heq
  | _ =>
      rintro _ _ ⟨⟩ hle
      exact absurd hle (by decide)

/-- The text of a division is read with the division behind its dividend. -/
theorem Expr.IsReadAs.div (h : e.IsReadAs d 0 e') (n : Nat) :
    (Expr.div e (.ofNat n)).IsReadAs d 0 (e'.dividedBehind n) := by
  obtain ⟨ls, hls, hspells⟩ := h
  refine ⟨ls ++ divisionLexemes n, ?_, spells_dividedBehind n hspells _ _ rfl (Nat.zero_le _)⟩
  have hpiece := hls.append
    (Piece.mark (.op .div) (piece_number (Expr.isDigits_natText n)).gap).gap
  rw [Expr.div, Expr.renderChars_binary, Expr.ofNat, Expr.renderChars_number, List.append_assoc]
  exact hpiece

end SqlDialect.Sql
