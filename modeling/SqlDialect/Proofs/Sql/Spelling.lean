/-
  SqlDialect.Proofs.Sql.Spelling
  ────────────────────────────────
  **HOW A DIALECT SPELLS A TREE.**

  A dialect has its own quotes around columns and its own names of types and
  of parts of dates, so a text is read back in the dialect's spelling.  The
  type that is read is the one whose name the dialect writes.
-/
import SqlDialect.Proofs.Sql.Scan
import SqlDialect.Proofs.Sql.Sound
import SqlDialect.Sql.Render

namespace SqlDialect.Sql

open SqlDialect.Text

/-! ## §1. The dialect's spelling. -/

/-- The type whose name the dialect writes for a type. -/
def TypeName.respelled (d : Dialect) (t : TypeName) : TypeName :=
  match d.system with
  | .duckdb => match t with
    | .char | .nchar | .paddedChar | .varchar | .nvarchar => .text
    | .binary | .blob => .varbinary
    | .datetime | .timestampPlain => .timestamp
    | .timestampLocal => .timestamptz
    | .jsonb => .json
    | t => t
  | _ => match t with
    | .nchar => .char
    | .nvarchar => .varchar
    | .blob => .varbinary
    | t => t

/-- The type as the dialect writes it, with words in upper case. -/
def DataType.respelled (d : Dialect) (t : DataType) : DataType :=
  ⟨t.name.respelled d, t.arguments.map fun a => String.ofList (upper a.toList)⟩

/-- The name with the quotes that the dialect gives it. -/
def Name.respelled (d : Dialect) (n : Name) : Name := ⟨n.text, n.needsQuotes d⟩

namespace Expr

mutual

/-- The same tree in the dialect's spelling: its quotes around columns, its
names of types and of parts of dates, and functions in upper case. -/
def respelled (d : Dialect) : Expr → Expr
  | .column path n => .column (path.map (·.respelled d)) (n.respelled d)
  | .text s => .text s
  | .number n => .number n
  | .raw s => .raw s
  | .call f args => .call (String.ofList (upper f.toList)) (respelledAll d args)
  | .cast e t => .cast (respelled d e) (t.respelled d)
  | .extract part e => .extract (partText d part) (respelled d e)
  | .paren e => .paren (respelled d e)
  | .tuple es => .tuple (respelledAll d es)
  | .neg e => .neg (respelled d e)
  | .binary op a b => .binary op (respelled d a) (respelled d b)

/-- The same trees in the dialect's spelling. -/
def respelledAll (d : Dialect) : List Expr → List Expr
  | [] => []
  | e :: es => respelled d e :: respelledAll d es

end

end Expr

/-! ## §2. Types. -/

/-- All types. -/
def TypeName.all : List TypeName := [
  .bit, .boolean, .tinyint, .smallint, .mediumint, .int, .bigint, .hugeint,
  .unsignedTinyint, .unsignedSmallint, .unsignedInt, .unsignedBigint, .unsignedHugeint,
  .decimal, .bigdecimal, .float, .double,
  .char, .nchar, .paddedChar, .varchar, .nvarchar, .text, .binary, .varbinary, .blob,
  .date, .time, .timetz, .timestamp, .timestamptz, .timestampLocal, .timestampPlain, .datetime,
  .interval, .json, .jsonb, .xml, .inet, .uuid, .unknown, .null]

theorem TypeName.mem_all (t : TypeName) : t ∈ TypeName.all := by
  cases t <;> decide

/-- The names of types are plain, and they are read as what they name. -/
theorem TypeName.text_of_mem_all : ∀ t ∈ TypeName.all,
    (isBareName t.standardText = true ∧ t.duckdbText?.all isBareName = true) ∧
    TypeName.read? .standard (String.ofList (upper (t.render .standard).toList))
      = some (t.respelled .standard) ∧
    TypeName.read? .duckdb (String.ofList (upper (t.render .duckdb).toList))
      = some (t.respelled .duckdb) := by
  decide +kernel

/-- The name that a dialect writes for a type is a bare word. -/
theorem isBareWord_render (d : Dialect) (t : TypeName) : IsBareWord (t.render d).toList := by
  obtain ⟨hstandard, hduckdb⟩ := (TypeName.text_of_mem_all t t.mem_all).1
  refine isBareWord_of_isBareName ?_
  unfold TypeName.render
  split
  · cases hs : t.duckdbText? with
    | none => exact hstandard
    | some s =>
        rw [hs] at hduckdb
        exact hduckdb
  · exact hstandard

/-- The name that a dialect writes for a type is read as one. -/
theorem read?_render (d : Dialect) (t : TypeName) :
    TypeName.read? d (String.ofList (upper (t.render d).toList)) = some (t.respelled d) := by
  obtain ⟨hstandard, hduckdb⟩ := (TypeName.text_of_mem_all t t.mem_all).2
  obtain ⟨system, words⟩ := d
  cases system with
  | duckdb => exact hduckdb
  | standard => exact hstandard
  | mysql => exact hstandard
  | sqlserver => exact hstandard

/-- A number or a word. -/
def IsTypeArgument (a : String) : Prop := IsDigits a.toList ∨ IsBareWord a.toList

/-- An argument of a type is one lexeme. -/
theorem IsTypeArgument.exists_piece {a : String} (h : IsTypeArgument a) : ∃ l, Piece a.toList [l] ∧
    typeArgument? l = some (String.ofList (upper a.toList)) := by
  rcases h with h | h
  · refine ⟨.number a, piece_number h, ?_⟩
    rw [upper_of_isDigit h.2, String.ofList_toList]
    rfl
  · exact ⟨.word a, piece_word h, rfl⟩

/-- The arguments of a type and the parenthesis behind them. -/
theorem exists_piece_arguments (style : QuoteStyle) : ∀ as : List String, as ≠ [] →
    (∀ a ∈ as, IsTypeArgument a) →
    ∃ ms, Piece (spellAll style (DataType.lexemes.arguments as) ++ [')']) ms ∧
      ∀ rest, readTypeArguments (ms ++ rest)
        = .ok (as.map fun a => String.ofList (upper a.toList), rest)
  | [], h, _ => absurd rfl h
  | [a], _, h => by
      obtain ⟨l, hl, hread⟩ := (h a (by simp)).exists_piece
      refine ⟨[l, .mark .closeParen], ?_, fun rest => ?_⟩
      · have hpiece := hl.append (Piece.mark .closeParen piece_nil)
        simpa [DataType.lexemes.arguments, spellAll, Lexeme.spell] using hpiece
      · show readTypeArguments (l :: .mark .closeParen :: rest) = _
        unfold readTypeArguments
        simp only [hread, List.map_cons, List.map_nil]
  | a :: b :: as, _, h => by
      obtain ⟨l, hl, hread⟩ := (h a (by simp)).exists_piece
      obtain ⟨ms, hms, hreads⟩ := exists_piece_arguments style (b :: as) (List.cons_ne_nil b as)
        fun x hx => h x (by simp [List.mem_cons.1 hx])
      refine ⟨l :: .mark .comma :: ms, ?_, fun rest => ?_⟩
      · have hpiece := hl.append (Piece.mark .comma hms.gap)
        simpa [DataType.lexemes.arguments, spellAll, Lexeme.spell, Mark.spell] using hpiece
      · show readTypeArguments (l :: .mark .comma :: (ms ++ rest)) = _
        unfold readTypeArguments
        simp only [hread, hreads]
        rfl

/-- A type is read from its first word and the arguments behind it. -/
theorem readType_word (d : Dialect) {w : String} {t : TypeName}
    (hw : TypeName.read? d (String.ofList (upper w.toList)) = some t) {ls rest : List Lexeme}
    {as : List String} (hmark : ∃ m ls', ls = .mark m :: ls')
    (has : readOptionalArguments ls = .ok (as, rest)) :
    readType d (.word w :: ls) = .ok (⟨t, as⟩, rest) := by
  obtain ⟨m, ls', rfl⟩ := hmark
  have hwords : DataType.ofWords? d [w.toList] as = some ⟨t, as⟩ := by
    rw [DataType.ofWords?]
    show (TypeName.read? d (String.ofList (upper w.toList))).map _ = _
    rw [hw]
    rfl
  have htake : takeWords (.word w :: .mark m :: ls') = ([w.toList], .mark m :: ls') := rfl
  rw [readType_eq htake, has]
  simp only [bind, Except.bind, hwords]

/-- **The text of a type is read as the type that the dialect writes.** -/
theorem exists_piece_type (d : Dialect) {t : DataType}
    (h : ∀ a ∈ t.arguments, IsTypeArgument a) :
    ∃ ms, Piece (spellAll d.quoteStyle (t.lexemes d)) ms ∧ SpellsType d ms (t.respelled d) := by
  obtain ⟨name, as⟩ := t
  have hword := piece_word (isBareWord_render d name)
  cases as with
  | nil =>
      refine ⟨[.word (name.render d)], ?_, fun rest => ?_⟩
      · simpa [DataType.lexemes, spellAll, Lexeme.spell] using hword
      · exact readType_word d (read?_render d name) ⟨_, _, rfl⟩ rfl
  | cons a as =>
      obtain ⟨ms, hms, hread⟩ := exists_piece_arguments d.quoteStyle (a :: as)
        (List.cons_ne_nil a as) h
      refine ⟨.word (name.render d) :: .mark .openParen :: ms, ?_, fun rest => ?_⟩
      · have hpiece := hword.append (Piece.mark .openParen hms)
        simpa [DataType.lexemes, spellAll, Lexeme.spell, Mark.spell] using hpiece
      · exact readType_word d (read?_render d name) ⟨_, _, rfl⟩ (hread _)

end SqlDialect.Sql
