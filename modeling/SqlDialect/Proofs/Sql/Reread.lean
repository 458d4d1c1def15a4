/-
  SqlDialect.Proofs.Sql.Reread
  ────────────────────────────────
  **TEXT READ BACK IN CONTEXT.**

  `IsReadAs d e level e'` says that the text of `e` is scanned as lexemes that
  spell `e'` at the level.  Each way to build an expression keeps this, so the
  text around an operand does not depend on what the operand is:

      IsReadAs d e 0 e' → IsReadAs d (paren e) unaryLevel (paren e')
-/
import Mathlib.Data.List.Forall2
import SqlDialect.Proofs.Number.Digits
import SqlDialect.Proofs.Sql.Complete
import SqlDialect.Proofs.Sql.Spelling

namespace SqlDialect.Sql

open SqlDialect.Text SqlDialect.Number

/-! ## §1. White space at the ends. -/

/-- Text that starts with no white space. -/
def StartsTight (s : List Char) : Prop := ∃ c t, s = c :: t ∧ isBlank c = false

/-- Text that ends with no white space. -/
def EndsTight (s : List Char) : Prop := ∃ t c, s = t ++ [c] ∧ isBlank c = false

/-- What stands behind a text does not change how it starts. -/
theorem StartsTight.append {s : List Char} (h : StartsTight s) (t : List Char) :
    StartsTight (s ++ t) := by
  obtain ⟨c, u, rfl, hc⟩ := h
  exact ⟨c, u ++ t, rfl, hc⟩

/-- What stands before a text does not change how it ends. -/
theorem EndsTight.append (s : List Char) {t : List Char} (h : EndsTight t) :
    EndsTight (s ++ t) := by
  obtain ⟨u, c, rfl, hc⟩ := h
  exact ⟨s ++ u, c, (List.append_assoc _ _ _).symm, hc⟩

theorem EndsTight.cons (c : Char) {t : List Char} (h : EndsTight t) : EndsTight (c :: t) :=
  h.append [c]

theorem endsTight_singleton {c : Char} (h : isBlank c = false) : EndsTight [c] :=
  ⟨[], c, rfl, h⟩

/-- A text without white space is tight at both ends. -/
theorem tight_of_forall {s : List Char} (hne : s ≠ []) (h : ∀ c ∈ s, isBlank c = false) :
    StartsTight s ∧ EndsTight s := by
  refine ⟨⟨s.head hne, s.tail, ?_, h _ (List.head_mem hne)⟩,
    ⟨s.dropLast, s.getLast hne, ?_, h _ (List.getLast_mem hne)⟩⟩
  · rw [List.cons_head_tail]
  · rw [List.dropLast_append_getLast]

/-- A bare word holds no white space. -/
theorem IsBareWord.tight {s : List Char} (h : IsBareWord s) : StartsTight s ∧ EndsTight s := by
  obtain ⟨c, t, hs, -⟩ := h.first
  exact tight_of_forall (by rw [hs]; nofun) fun x hx => isBlank_of_isInWord (h.inWord x hx)

/-- A run of digits holds no white space. -/
theorem IsDigits.tight {s : List Char} (h : IsDigits s) : StartsTight s ∧ EndsTight s :=
  tight_of_forall h.1 fun c hc => isBlank_of_isDigit (h.2 c hc)

/-- Trimming leaves a text alone that is tight at both ends. -/
theorem trim_eq_self {s : List Char} (hfirst : StartsTight s) (hlast : EndsTight s) :
    trim s = s := by
  obtain ⟨c, t, rfl, hc⟩ := hfirst
  obtain ⟨u, x, hend, hx⟩ := hlast
  have hdrop : (c :: t).dropWhile isBlank = c :: t :=
    List.dropWhile_cons_of_neg (by simp [hc])
  rw [trim, trimWhile, dropEndWhile, hdrop, hend, List.reverse_append, List.reverse_singleton,
    List.singleton_append, List.dropWhile_cons_of_neg (by simp [hx]), List.reverse_cons,
    List.reverse_reverse]

/-! ## §2. Names. -/

/-- A column of this name is read back: it is not named like a keyword, and if
it stands bare, no newline ends it. -/
structure IsColumnName (d : Dialect) (name : String) : Prop where
  notKeyword : d.isKeyword name = false
  tight : isPlainName name.toList = true → name.toList.getLast? ≠ some '\n'

/-- A word that is no keyword is its own name. -/
theorem nameOfWord?_of_not_keyword {d : Dialect} {name : String} (h : d.isKeyword name = false) :
    nameOfWord? d name = some ⟨name, false⟩ := by
  have hconstant : constantNames.contains (String.ofList (upper name.toList)) = false := by
    rw [Dialect.isKeyword, List.contains_append, Bool.or_eq_false_iff] at h
    exact h.1
  rw [nameOfWord?, hconstant, h]
  rfl

/-- A bare word that no expression of its own starts with. -/
structure IsFunctionName (f : String) : Prop where
  bareWord : IsBareWord f.toList
  notCast : isKeyword "CAST" (.word (String.ofList (upper f.toList))) = false
  notExtract : isKeyword "EXTRACT" (.word (String.ofList (upper f.toList))) = false

/-- The name stays a word when it is written in capitals, as calls are. -/
theorem IsFunctionName.bareWord_upper {f : String} (h : IsFunctionName f) :
    IsBareWord (String.ofList (upper f.toList)).toList := by
  rw [String.toList_ofList]
  exact h.bareWord.upper

/-- The words that are no names. -/
def keywords : List String := ["CAST", "AS", "EXTRACT", "FROM", "INTERVAL", "SECOND"]

/-- Each keyword is a plain word, and none is taken for another. -/
theorem keywords_distinct : ∀ v ∈ keywords, isBareName v = true ∧
    ∀ w ∈ keywords, isKeyword v (.word w) = decide (w = v) := by
  decide +kernel

theorem isBareWord_keyword {w : String} (h : w ∈ keywords) : IsBareWord w.toList :=
  isBareWord_of_isBareName (keywords_distinct w h).1

/-- A keyword is scanned as one word. -/
theorem piece_keyword {w : String} (h : w ∈ keywords) : Piece w.toList [.word w] :=
  piece_word (isBareWord_keyword h)

/-- A keyword is taken for itself only. -/
theorem isKeyword_keyword {v w : String} (hv : v ∈ keywords) (hw : w ∈ keywords) :
    isKeyword v (.word w) = decide (w = v) :=
  (keywords_distinct v hv).2 w hw

theorem isKeyword_self {w : String} (h : w ∈ keywords) : isKeyword w (.word w) = true :=
  (isKeyword_keyword h h).trans (decide_eq_true rfl)

/-! ## §3. Expressions that are read as others. -/

/-- What spells an expression at a level spells it at every looser one. -/
theorem Spells.loosen {d : Dialect} {e : Expr} {ls : List Lexeme} {level : Nat} :
    ∀ k, level + k ≤ unaryLevel → Spells d (.expr (level + k) e) ls →
      Spells d (.expr level e) ls
  | 0, _, h => h
  | k + 1, hle, h => Spells.loosen k (by omega) (.looser (by omega) h)

namespace Expr

/-- The text of the expression is scanned as lexemes that spell the other one
at the level. -/
def IsReadAs (d : Dialect) (e : Expr) (level : Nat) (e' : Expr) : Prop :=
  ∃ ls, Piece (e.renderChars d) ls ∧ Spells d (.expr level e') ls

variable {d : Dialect} {e e' : Expr} {level : Nat}

/-- What is read at a level is read at every looser one. -/
theorem IsReadAs.loosen (h : IsReadAs d e level e') (hlevel : level ≤ unaryLevel) {level' : Nat}
    (hle : level' ≤ level) : IsReadAs d e level' e' := by
  obtain ⟨k, rfl⟩ := Nat.exists_eq_add_of_le hle
  obtain ⟨ls, hls, hspells⟩ := h
  exact ⟨ls, hls, hspells.loosen k hlevel⟩

/-- The text is read as the expression that its lexemes spell. -/
theorem IsReadAs.read_render (h : IsReadAs d e 0 e') (hfirst : StartsTight (e.renderChars d))
    (hlast : EndsTight (e.renderChars d)) : Expr.read d (e.render d) = .ok e' := by
  obtain ⟨ls, hls, hspells⟩ := h
  rw [Expr.read, render, trim_eq_self hfirst hlast, String.toList_ofList, scan,
    hls.scans _ (Nat.lt_succ_self _)]
  exact ofLexemes_eq_ok_iff.2 hspells

/-! ## §4. Operands. -/

/-- A column is its name, quoted where the dialect asks for it. -/
theorem renderChars_col (d : Dialect) (name : String) :
    (col name).renderChars d = (Name.ofText name).render d := by
  rw [← spell_lexeme]
  simp [renderChars, col, lexemes, pathLexemes, spellAll]

/-- Only a plain name stands bare. -/
theorem isPlainName_of_needsQuotes_eq_false {name : String}
    (h : (Name.ofText name).needsQuotes d = false) : isPlainName name.toList = true := by
  simp only [Name.needsQuotes, Name.ofText, Bool.or_eq_false_iff, Bool.not_eq_false'] at h
  exact h.1.1

/-- A column is read back as a column, its name quoted as it was rendered. -/
theorem isReadAs_col (hd : d.quoteStyle = .ansi) {name : String} (h : IsColumnName d name) :
    IsReadAs d (col name) unaryLevel ((col name).respelled d) := by
  have hrespelled : (col name).respelled d
      = .column [] ⟨name, (Name.ofText name).needsQuotes d⟩ := rfl
  have hpath : ∀ n : Name, SpellsPath n [] (.column [] n) := fun n rest hrest =>
    readPath_of_not_startsWithDot [] n hrest
  rw [IsReadAs, renderChars_col, hrespelled, Name.render, hd]
  cases hquotes : (Name.ofText name).needsQuotes d with
  | true => exact ⟨_, piece_quotedName name, .quotedName (hpath _)⟩
  | false =>
      have hplain := isPlainName_of_needsQuotes_eq_false hquotes
      have hword := isBareWord_of_isPlainName hplain (h.tight hplain)
      exact ⟨[.word name], piece_word hword,
        .word (nameOfWord?_of_not_keyword h.notKeyword) (.inr rfl) (hpath _)⟩

theorem renderChars_text (d : Dialect) (s : String) :
    (text s).renderChars d = textLiteral s.toList := by
  simp [renderChars, lexemes, spellAll, Lexeme.spell]

/-- A text is read back whatever it holds, its quotes doubled on the way. -/
theorem isReadAs_text (s : String) : IsReadAs d (.text s) unaryLevel (.text s) := by
  refine ⟨[.text s], ?_, .text s⟩
  rw [renderChars_text]
  exact piece_text s

theorem renderChars_number (d : Dialect) (n : String) : (number n).renderChars d = n.toList := by
  simp [renderChars, lexemes, spellAll, Lexeme.spell]

/-- The decimal text of a number is a run of digits. -/
theorem isDigits_natText (n : Nat) : IsDigits (String.ofList (natText n)).toList := by
  rw [String.toList_ofList]
  exact ⟨natText_ne_nil n, fun c hc => isDigit_of_mem_natText hc⟩

/-- A whole number is read back digit for digit. -/
theorem isReadAs_number {n : String} (h : IsDigits n.toList) :
    IsReadAs d (.number n) unaryLevel (.number n) := by
  refine ⟨[.number n], ?_, .number n⟩
  rw [renderChars_number]
  exact piece_number h

/-- The interval of one second is the one fragment the grammar knows. -/
theorem isReadAs_oneSecond : IsReadAs d .oneSecond unaryLevel .oneSecond := by
  have hinterval : "INTERVAL" ∈ keywords := by decide
  have hsecond : "SECOND" ∈ keywords := by decide
  refine ⟨_, ?_, .second (isKeyword_self hinterval) (isKeyword_self hsecond)⟩
  have hunit := (piece_text "1").append (piece_keyword hsecond).gap
  have hpiece := (piece_keyword hinterval).append hunit.gap
  have hchars : oneSecond.renderChars d = "INTERVAL".toList ++
      ' ' :: (textLiteral "1".toList ++ ' ' :: "SECOND".toList) := by
    rw [oneSecond, renderChars_raw]
    rfl
  rw [hchars]
  exact hpiece

/-! ## §5. Expressions around others. -/

theorem renderChars_paren (d : Dialect) (e : Expr) :
    (paren e).renderChars d = '(' :: (e.renderChars d ++ [')']) := by
  simp [renderChars, lexemes, spellAll, Lexeme.spell, Mark.spell]

/-- Parentheses take an operand of any level and make it an operand. -/
theorem IsReadAs.paren (h : IsReadAs d e 0 e') :
    IsReadAs d (.paren e) unaryLevel (.paren e') := by
  obtain ⟨ls, hls, hspells⟩ := h
  have hparens := Spells.parens (.last hspells)
  refine ⟨_, ?_, hparens⟩
  rw [renderChars_paren]
  have hclose := hls.append (Piece.mark .closeParen piece_nil)
  exact Piece.mark .openParen hclose

/-- An operator groups to the left: its left side may be an operation of its own
level, its right side must bind tighter. -/
theorem IsReadAs.binary {op : Operator} {a a' b b' : Expr} (ha : IsReadAs d a op.level a')
    (hb : IsReadAs d b (op.level + 1) b') :
    IsReadAs d (.binary op a b) op.level (.binary op a' b') := by
  obtain ⟨ls, hls, has⟩ := ha
  obtain ⟨ms, hms, hbs⟩ := hb
  refine ⟨ls ++ .mark (.op op) :: ms, ?_, .binary has hbs⟩
  have hop := hls.append (Piece.mark (.op op) hms.gap).gap
  rw [renderChars_binary, List.append_assoc]
  exact hop

/-- A gap may stand behind the sign. -/
theorem renderChars_neg (d : Dialect) (e : Expr) :
    (neg e).renderChars d = '-' :: e.renderChars d ∨
      (neg e).renderChars d = '-' :: ' ' :: e.renderChars d := by
  simp only [renderChars, lexemes]
  split
  · exact .inr rfl
  · exact .inl rfl

/-- A minus sign takes an operand, which may have a sign of its own. -/
theorem IsReadAs.neg (h : IsReadAs d e unaryLevel e') :
    IsReadAs d (.neg e) unaryLevel (.neg e') := by
  obtain ⟨ls, hls, hspells⟩ := h
  refine ⟨.mark (.op .sub) :: ls, ?_, .neg hspells⟩
  rcases renderChars_neg d e with hgap | hgap
  · rw [hgap]
    exact Piece.mark (.op .sub) hls
  · rw [hgap]
    exact Piece.mark (.op .sub) hls.gap

theorem renderChars_cast (d : Dialect) (e : Expr) (t : DataType) :
    (Expr.cast e t).renderChars d = "CAST".toList ++ '(' :: (e.renderChars d ++
      ' ' :: ("AS".toList ++ ' ' :: (spellAll d.quoteStyle (t.lexemes d) ++ [')']))) := by
  simp [renderChars, lexemes, spellAll, Lexeme.spell, Mark.spell]

/-- A cast encloses its operand, so any level will do inside. -/
theorem IsReadAs.cast (h : IsReadAs d e 0 e') {t : DataType}
    (ht : ∀ a ∈ t.arguments, IsTypeArgument a) :
    IsReadAs d (.cast e t) unaryLevel (.cast e' (t.respelled d)) := by
  obtain ⟨ls, hls, hspells⟩ := h
  obtain ⟨ms, hms, htype⟩ := exists_piece_type d ht
  have hcast : "CAST" ∈ keywords := by decide
  have has : "AS" ∈ keywords := by decide
  refine ⟨_, ?_, .cast (isKeyword_self hcast) (isKeyword_self has) hspells htype⟩
  rw [renderChars_cast]
  have hclose := hms.append (Piece.mark .closeParen piece_nil)
  have htypes := (piece_keyword has).append hclose.gap
  have hexpr := hls.append htypes.gap
  exact (piece_keyword hcast).append (Piece.mark .openParen hexpr)

theorem renderChars_extract (d : Dialect) (part : String) (e : Expr) :
    (Expr.extract part e).renderChars d = "EXTRACT".toList ++ '(' :: ((partText d part).toList ++
      ' ' :: ("FROM".toList ++ ' ' :: (e.renderChars d ++ [')']))) := by
  simp [renderChars, lexemes, spellAll, Lexeme.spell, Mark.spell]

/-- A part is a word in the dialect too. -/
theorem isBareWord_partText (d : Dialect) {part : String} (h : IsBareWord part.toList) :
    IsBareWord (partText d part).toList := by
  unfold partText
  split
  · have hnames : ∀ e ∈ DatePart.abbreviations, isBareName e.1 = true := by decide +kernel
    cases hfull : DatePart.fullName? part with
    | none =>
        rw [DatePart.canonical_of_fullName?_eq_none hfull]
        exact h
    | some name =>
        rw [DatePart.canonical, hfull]
        unfold DatePart.fullName? at hfull
        obtain ⟨e, he, rfl⟩ := Option.map_eq_some_iff.1 hfull
        exact isBareWord_of_isBareName (hnames e (List.mem_of_find?_eq_some he))
  · exact h

/-- The part of a date that is taken out is spelled as the dialect has it. -/
theorem IsReadAs.extract (h : IsReadAs d e 0 e') {part : String}
    (hpart : IsBareWord part.toList) :
    IsReadAs d (.extract part e) unaryLevel (.extract (partText d part) e') := by
  obtain ⟨ls, hls, hspells⟩ := h
  have hextract : "EXTRACT" ∈ keywords := by decide
  have hfrom : "FROM" ∈ keywords := by decide
  have hcast : isKeyword "CAST" (.word "EXTRACT") = false :=
    isKeyword_keyword (by decide) hextract
  refine ⟨_, ?_, .extract hcast (isKeyword_self hextract) (isKeyword_self hfrom) hspells⟩
  rw [renderChars_extract]
  have hclose := hls.append (Piece.mark .closeParen piece_nil)
  have hfroms := (piece_keyword hfrom).append hclose.gap
  have hparts := (piece_word (isBareWord_partText d hpart)).append hfroms.gap
  exact (piece_keyword hextract).append (Piece.mark .openParen hparts)

/-- Arguments and the parenthesis behind them are items. -/
theorem exists_piece_items {a a' : Expr} {as as' : List Expr} (ha : IsReadAs d a 0 a')
    (has : List.Forall₂ (IsReadAs d · 0 ·) as as') :
    ∃ ls, Piece (spellAll d.quoteStyle (argumentLexemes d (a :: as)) ++ [')']) ls ∧
      ∀ afterComma, Spells d (.items afterComma ⟨a' :: as', false⟩) ls := by
  induction has generalizing a a' with
  | nil =>
      obtain ⟨ls, hls, hspells⟩ := ha
      refine ⟨ls ++ [.mark .closeParen], ?_, fun _ => .last hspells⟩
      exact hls.append (Piece.mark .closeParen piece_nil)
  | cons hb _ ih =>
      obtain ⟨ls, hls, hspells⟩ := ha
      obtain ⟨ms, hms, hitems⟩ := ih hb
      refine ⟨ls ++ .mark .comma :: ms, ?_, fun _ => .next hspells (hitems true)⟩
      have hcomma := hls.append (Piece.mark .comma hms.gap)
      rw [argumentLexemes, spellAll_append, spellAll_append, List.append_assoc,
        List.append_assoc]
      exact hcomma

theorem renderChars_call (d : Dialect) (f : String) (args : List Expr) :
    (Expr.call f args).renderChars d = (String.ofList (upper f.toList)).toList ++
      '(' :: (spellAll d.quoteStyle (argumentLexemes d args) ++ [')']) := by
  simp [renderChars, lexemes, spellAll, Lexeme.spell, Mark.spell]

/-- A call is read back with its name in capitals and each argument read back. -/
theorem IsReadAs.call {f : String} (hf : IsFunctionName f) {args args' : List Expr}
    (h : List.Forall₂ (IsReadAs d · 0 ·) args args') :
    IsReadAs d (.call f args) unaryLevel (.call (String.ofList (upper f.toList)) args') := by
  obtain ⟨ls, hls, hitems⟩ : ∃ ls,
      Piece (spellAll d.quoteStyle (argumentLexemes d args) ++ [')']) ls ∧
        Spells d (.items false ⟨args', false⟩) ls := by
    cases h with
    | nil =>
        have hempty : ArePluses [] := fun _ hl => absurd hl (by simp)
        exact ⟨[.mark .closeParen], Piece.mark .closeParen piece_nil, .close hempty⟩
    | cons ha has =>
        obtain ⟨ls, hls, hitems⟩ := exists_piece_items ha has
        exact ⟨ls, hls, hitems false⟩
  refine ⟨_, ?_, .call hf.notCast hf.notExtract hitems⟩
  rw [renderChars_call]
  exact (piece_word hf.bareWord_upper).append (Piece.mark .openParen hls)

/-! ## §6. The ends of their texts. -/

/-- An operation starts as its left side does. -/
theorem startsTight_binary (op : Operator) {a : Expr} (h : StartsTight (a.renderChars d))
    (b : Expr) : StartsTight ((Expr.binary op a b).renderChars d) := by
  rw [renderChars_binary, List.append_assoc]
  exact h.append _

/-- An operation ends as its right side does. -/
theorem endsTight_binary (op : Operator) (a : Expr) {b : Expr}
    (h : EndsTight (b.renderChars d)) : EndsTight ((Expr.binary op a b).renderChars d) := by
  rw [renderChars_binary]
  exact (h.cons ' ').append _

/-- An expression whose last lexeme is a closing parenthesis ends tight. -/
theorem endsTight_of_closeParen {ls : List Lexeme}
    (h : e.lexemes d = ls ++ [.mark .closeParen]) : EndsTight (e.renderChars d) := by
  rw [renderChars, h, spellAll_append]
  exact (endsTight_singleton (c := ')') rfl).append _

/-- A call starts with its name and ends with a parenthesis. -/
theorem tight_call {f : String} (hf : IsFunctionName f) (args : List Expr) :
    StartsTight ((Expr.call f args).renderChars d) ∧
      EndsTight ((Expr.call f args).renderChars d) := by
  refine ⟨?_, endsTight_of_closeParen (by rw [lexemes])⟩
  rw [renderChars_call]
  exact hf.bareWord_upper.tight.1.append _

theorem tight_oneSecond : StartsTight (oneSecond.renderChars d) ∧
    EndsTight (oneSecond.renderChars d) := by
  rw [oneSecond, renderChars_raw]
  exact ⟨⟨'I', "NTERVAL '1' SECOND".toList, rfl, rfl⟩,
    ⟨"INTERVAL '1' SECON".toList, 'D', rfl, rfl⟩⟩

/-- Quotes around a text shield the white space inside. -/
theorem tight_enclose {q : Char} (hq : isBlank q = false) (s : List Char) :
    StartsTight (Delimited.enclose q q s) ∧ EndsTight (Delimited.enclose q q s) :=
  ⟨⟨q, _, rfl, hq⟩, (endsTight_singleton hq).append _⟩

/-- A column name is quoted, or else it is a word. -/
theorem tight_col (hd : d.quoteStyle = .ansi) {name : String} (h : IsColumnName d name) :
    StartsTight ((col name).renderChars d) ∧ EndsTight ((col name).renderChars d) := by
  rw [renderChars_col, Name.render, hd]
  split
  next => exact tight_enclose rfl _
  next hquotes =>
    rw [Bool.not_eq_true] at hquotes
    have hplain := isPlainName_of_needsQuotes_eq_false hquotes
    exact (isBareWord_of_isPlainName hplain (h.tight hplain)).tight

end Expr

end SqlDialect.Sql
