/-
  SqlDialect.Proofs.Sql.Grammar
  ────────────────────────────────
  **THE GRAMMAR OF EXPRESSIONS.**

  `Spells d p ls` says that the lexemes `ls` are all of the phrase `p`: an
  expression at a level of operators, or the items before a closing
  parenthesis.  An operator takes a left operand of its own level and a
  right operand of the next one:

      Spells d (expr ℓ a) ls → Spells d (expr (ℓ + 1) b) ms →
        Spells d (expr ℓ (a o b)) (ls ++ o :: ms)

  The grammar knows no bound and nothing of what follows.
-/
import SqlDialect.Sql.Reader

namespace SqlDialect.Sql

/-! ## §1. Names and types. -/

/-- A dot would go on with a name. -/
def startsWithDot (ls : List Lexeme) : Bool := ls.head? == some (.mark .dot)

/-- The lexemes go on with a name to a column, whatever stands behind them. -/
def SpellsPath (name : Name) (ls : List Lexeme) (e : Expr) : Prop :=
  ∀ rest, startsWithDot rest = false → readPath [] name (ls ++ rest) = .ok (e, rest)

/-- The lexemes are a type before a closing parenthesis. -/
def SpellsType (d : Dialect) (ls : List Lexeme) (t : DataType) : Prop :=
  ∀ rest, readType d (ls ++ .mark .closeParen :: rest) = .ok (t, .mark .closeParen :: rest)

/-! ## §2. Phrases. -/

/-- What lexemes can be read as. -/
inductive Phrase where
  /-- An expression whose operators bind at the level or tighter. -/
  | expr (level : Nat) (e : Expr)
  /-- Items and the closing parenthesis, maybe behind a comma. -/
  | items (afterComma : Bool) (i : Items)

/-- Plus signs, which count for nothing. -/
def ArePluses (ls : List Lexeme) : Prop := ∀ l ∈ ls, l = .mark (.op .add)

/-- The lexemes are all of the phrase in the dialect. -/
inductive Spells (d : Dialect) : Phrase → List Lexeme → Prop
  | number (n : String) : Spells d (.expr unaryLevel (.number n)) [.number n]
  | fraction (n : String) :
      Spells d (.expr unaryLevel (.number ("0." ++ n))) [.mark .dot, .number n]
  | text (s : String) : Spells d (.expr unaryLevel (.text s)) [.text s]
  | quotedName {s : String} {ls : List Lexeme} {e : Expr} :
      SpellsPath ⟨s, true⟩ ls e → Spells d (.expr unaryLevel e) (.quotedName s :: ls)
  | word {s : String} {name : Name} {ls : List Lexeme} {e : Expr} :
      nameOfWord? d s = some name → startsWithDot ls = true ∨ ls = [] → SpellsPath name ls e →
      Spells d (.expr unaryLevel e) (.word s :: ls)
  | second {i u : String} :
      isKeyword "INTERVAL" (.word i) = true → isKeyword "SECOND" (.word u) = true →
      Spells d (.expr unaryLevel .oneSecond) [.word i, .text "1", .word u]
  | parens {i : Items} {ls : List Lexeme} :
      Spells d (.items false i) ls →
      Spells d (.expr unaryLevel i.inParens) (.mark .openParen :: ls)
  | cast {f : String} {as : Lexeme} {e : Expr} {t : DataType} {ls ms : List Lexeme} :
      isKeyword "CAST" (.word f) = true → isKeyword "AS" as = true →
      Spells d (.expr 0 e) ls → SpellsType d ms t →
      Spells d (.expr unaryLevel (.cast e t))
        (.word f :: .mark .openParen :: (ls ++ as :: (ms ++ [.mark .closeParen])))
  | extract {f part : String} {fr : Lexeme} {e : Expr} {ls : List Lexeme} :
      isKeyword "CAST" (.word f) = false → isKeyword "EXTRACT" (.word f) = true →
      isKeyword "FROM" fr = true → Spells d (.expr 0 e) ls →
      Spells d (.expr unaryLevel (.extract part e))
        (.word f :: .mark .openParen :: .word part :: fr :: (ls ++ [.mark .closeParen]))
  | call {f : String} {i : Items} {ls : List Lexeme} :
      isKeyword "CAST" (.word f) = false → isKeyword "EXTRACT" (.word f) = false →
      Spells d (.items false i) ls →
      Spells d (.expr unaryLevel (.call f i.items)) (.word f :: .mark .openParen :: ls)
  | neg {e : Expr} {ls : List Lexeme} :
      Spells d (.expr unaryLevel e) ls →
      Spells d (.expr unaryLevel (.neg e)) (.mark (.op .sub) :: ls)
  | plus {e : Expr} {ls : List Lexeme} :
      Spells d (.expr unaryLevel e) ls →
      Spells d (.expr unaryLevel e) (.mark (.op .add) :: ls)
  | looser {level : Nat} {e : Expr} {ls : List Lexeme} :
      level < unaryLevel → Spells d (.expr (level + 1) e) ls → Spells d (.expr level e) ls
  | binary {o : Operator} {a b : Expr} {ls ms : List Lexeme} :
      Spells d (.expr o.level a) ls → Spells d (.expr (o.level + 1) b) ms →
      Spells d (.expr o.level (.binary o a b)) (ls ++ .mark (.op o) :: ms)
  | close {afterComma : Bool} {ps : List Lexeme} :
      ArePluses ps →
      Spells d (.items afterComma ⟨[], afterComma && ps.isEmpty⟩) (ps ++ [.mark .closeParen])
  | comma {afterComma : Bool} {i : Items} {ps ls : List Lexeme} :
      ArePluses ps → Spells d (.items true i) ls →
      Spells d (.items afterComma i) (ps ++ .mark .comma :: ls)
  | last {afterComma : Bool} {e : Expr} {ls : List Lexeme} :
      Spells d (.expr 0 e) ls →
      Spells d (.items afterComma ⟨[e], false⟩) (ls ++ [.mark .closeParen])
  | next {afterComma : Bool} {e : Expr} {i : Items} {ls ms : List Lexeme} :
      Spells d (.expr 0 e) ls → Spells d (.items true i) ms →
      Spells d (.items afterComma ⟨e :: i.items, i.endWithComma⟩) (ls ++ .mark .comma :: ms)

end SqlDialect.Sql
