/-
  SqlDialect.Proofs.Sql.Precedence
  ────────────────────────────────
  **TREES THAT NEED NO PARENTHESES.**

  Rendering puts no parentheses of its own.  A tree is safe if the left
  operand of every operator binds at least as tightly as the operator and
  the right operand tighter:

      op.level ≤ a.tightness → op.level < b.tightness → safe (a op b)

  The text of a safe tree is read as the same tree, spelled as the dialect
  spells names, types and parts of dates.
-/
import SqlDialect.Proofs.Sql.Reread

namespace SqlDialect.Sql

open SqlDialect.Text

/-! ## §1. Safe trees. -/

namespace Expr

/-- How tightly the outermost operator binds; what has none binds tightest. -/
def tightness : Expr → Nat
  | .binary op _ _ => op.level
  | _ => unaryLevel

/-- No expression binds tighter than an operand. -/
theorem tightness_le (e : Expr) : e.tightness ≤ unaryLevel := by
  cases e with
  | binary op a b => exact Nat.le_of_lt (level_lt_unaryLevel op)
  | _ => exact Nat.le_refl _

/-- An expression that means without parentheses what is built. -/
inductive PrecedenceSafe (d : Dialect) : Expr → Prop
  | col {name : String} : IsColumnName d name → PrecedenceSafe d (.col name)
  | text (s : String) : PrecedenceSafe d (.text s)
  | number {n : String} : IsDigits n.toList → PrecedenceSafe d (.number n)
  | neg {e : Expr} : PrecedenceSafe d e → e.tightness = unaryLevel → PrecedenceSafe d (.neg e)
  | oneSecond : PrecedenceSafe d .oneSecond
  | call {f : String} {args : List Expr} :
      IsFunctionName f → (∀ a ∈ args, PrecedenceSafe d a) → PrecedenceSafe d (.call f args)
  | cast {e : Expr} {t : DataType} :
      PrecedenceSafe d e → (∀ a ∈ t.arguments, IsTypeArgument a) → PrecedenceSafe d (.cast e t)
  | extract {part : String} {e : Expr} :
      IsBareWord part.toList → PrecedenceSafe d e → PrecedenceSafe d (.extract part e)
  | paren {e : Expr} : PrecedenceSafe d e → PrecedenceSafe d (.paren e)
  | binary {op : Operator} {a b : Expr} :
      PrecedenceSafe d a → PrecedenceSafe d b → op.level ≤ a.tightness → op.level < b.tightness →
      PrecedenceSafe d (.binary op a b)

/-! ## §2. Safe trees are read back. -/

variable {d : Dialect} {e : Expr}

/-- **A safe tree's text is read as the tree in the dialect's spelling.** -/
theorem PrecedenceSafe.isReadAs (hd : d.quoteStyle = .ansi) (h : PrecedenceSafe d e) :
    IsReadAs d e e.tightness (e.respelled d) := by
  induction h with
  | col hname => exact isReadAs_col hd hname
  | text s => exact isReadAs_text s
  | number hn => exact isReadAs_number hn
  | neg _ htight ih =>
      rw [htight] at ih
      exact ih.neg
  | oneSecond => exact isReadAs_oneSecond
  | @call f args hf _ ih =>
      refine IsReadAs.call hf ?_
      -- the arguments stand alone between their commas
      clear hf
      induction args with
      | nil => exact .nil
      | cons a as has =>
          have ha := (ih a (by simp)).loosen a.tightness_le (Nat.zero_le _)
          exact .cons ha (has (fun x hx => by simp [*]) fun x hx => ih x (by simp [hx]))
  | cast _ ht ih => exact (ih.loosen (tightness_le _) (Nat.zero_le _)).cast ht
  | extract hpart _ ih => exact (ih.loosen (tightness_le _) (Nat.zero_le _)).extract hpart
  | paren _ ih => exact (ih.loosen (tightness_le _) (Nat.zero_le _)).paren
  | binary _ _ ha hb iha ihb =>
      exact (iha.loosen (tightness_le _) ha).binary (ihb.loosen (tightness_le _) hb)

/-- The rendered text of such an expression needs no trimming. -/
theorem PrecedenceSafe.tight (hd : d.quoteStyle = .ansi) (h : PrecedenceSafe d e) :
    StartsTight (e.renderChars d) ∧ EndsTight (e.renderChars d) := by
  induction h with
  | col hname => exact tight_col hd hname
  | text s =>
      rw [renderChars_text]
      exact tight_enclose rfl s.toList
  | number hn =>
      rw [renderChars_number]
      exact hn.tight
  | @neg e _ _ ih =>
      -- a gap may separate two minus signs
      rcases renderChars_neg d e with hgap | hgap
      · rw [hgap]
        exact ⟨⟨_, _, rfl, rfl⟩, ih.2.cons _⟩
      · rw [hgap]
        exact ⟨⟨_, _, rfl, rfl⟩, (ih.2.cons _).cons _⟩
  | oneSecond => exact tight_oneSecond
  | call hf _ _ => exact tight_call hf _
  | cast _ _ _ =>
      refine ⟨?_, endsTight_of_closeParen (by rw [lexemes])⟩
      rw [renderChars_cast]
      exact (isBareWord_keyword (by decide)).tight.1.append _
  | extract _ _ _ =>
      refine ⟨?_, endsTight_of_closeParen (by rw [lexemes])⟩
      rw [renderChars_extract]
      exact (isBareWord_keyword (by decide)).tight.1.append _
  | paren _ _ =>
      refine ⟨?_, endsTight_of_closeParen (by rw [lexemes])⟩
      rw [renderChars_paren]
      exact ⟨_, _, rfl, rfl⟩
  | binary _ _ _ _ iha ihb => exact ⟨startsTight_binary _ iha.1 _, endsTight_binary _ _ ihb.2⟩

/-- **The text of a safe tree stands for the tree.** -/
theorem PrecedenceSafe.read_render (hd : d.quoteStyle = .ansi) (h : PrecedenceSafe d e) :
    Expr.read d (e.render d) = .ok (e.respelled d) :=
  ((h.isReadAs hd).loosen e.tightness_le (Nat.zero_le _)).read_render (h.tight hd).1 (h.tight hd).2

end Expr

end SqlDialect.Sql
