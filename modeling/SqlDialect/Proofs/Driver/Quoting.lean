/-
  SqlDialect.Proofs.Driver.Quoting
  ────────────────────────────────
  **QUOTES ARE NOT BROKEN OUT OF.**

  A quoted name, read from its opening quote on, ends with its last character
  and stands for the name; so does the zone in a statement that sets the time
  zone.  A column stands bare or in such quotes.  Bare names are identifiers,
  but for a newline at the end of one, which is lost:

      (col a).render = (col b).render ↔ a = b ∨ both bare, alike but for a newline
-/
import SqlDialect.Driver.Builtin
import SqlDialect.Driver.Temporal
import SqlDialect.Proofs.Sql.Reread
import SqlDialect.Proofs.Text.Segment
import SqlDialect.Proofs.Text.Delimited
import SqlDialect.Proofs.Text.Template

namespace SqlDialect

open SqlDialect.Sql SqlDialect.Text SqlDialect.Text.Delimited

/-! ## §1. Names in quotes. -/

/-- The quotes of a driver are those of its style, but DuckDB has its own. -/
theorem Driver.quoteStyle_dialect {d : Driver} (h : d.family ≠ .duckdb) :
    d.dialect.quoteStyle = d.quoteStyle := by
  unfold Driver.dialect
  split
  next hduckdb => exact absurd hduckdb h
  next => exact quoteStyle_ofQuoteStyle d.quoteStyle
  next => exact quoteStyle_ofQuoteStyle d.quoteStyle

/-- A name ends where its quotes do. -/
theorem Driver.encloses_quoteIdentifier (d : Driver) (name : String) :
    Encloses d.dialect.quoteStyle.quotes.1 d.dialect.quoteStyle.quotes.2
      (d.quoteIdentifier name).toList name.toList := by
  rw [Driver.quoteIdentifier, String.toList_ofList]
  exact encloses_enclose _ _ _

/-- No two identifiers are quoted alike. -/
theorem Driver.quoteIdentifier_inj {d : Driver} {a b : String} :
    d.quoteIdentifier a = d.quoteIdentifier b ↔ a = b := by
  refine ⟨fun h => ?_, fun h => by rw [h]⟩
  exact String.toList_inj.1 (enclose_inj (String.ofList_inj.1 h))

namespace Sql

/-! ## §2. Columns. -/

/-- An ASCII letter or an underscore, then letters, digits and underscores. -/
def IsIdentifier (s : List Char) : Prop :=
  ∃ c t, s = c :: t ∧ (c.isAlpha || c == '_') = true ∧ ∀ x ∈ t, isWord x = true

/-- Before the newline that ends a plain name all characters are word
characters. -/
theorem isWord_of_areWords_concat : ∀ {t : List Char}, areWords (t ++ ['\n']) = true →
    ∀ c ∈ t, isWord c = true
  | [], _ => fun _ hc => absurd hc List.not_mem_nil
  | c :: t, h => by
      -- the newline is not the whole text, so the first character is a word character
      have hwords : (isWord c && areWords (t ++ ['\n'])) = true := by
        rw [List.cons_append, areWords] at h
        · exact h
        · rintro - hnil
          exact absurd hnil (by simp)
      obtain ⟨hc, ht⟩ := Bool.and_eq_true_iff.1 hwords
      exact List.forall_mem_cons.2 ⟨hc, isWord_of_areWords_concat ht⟩

/-- A plain name is an identifier, perhaps with a newline behind it. -/
theorem identifier_of_isPlainName {s : List Char} (h : isPlainName s = true) :
    ∃ word, IsIdentifier word ∧ (s = word ∨ s = word ++ ['\n']) := by
  obtain _ | ⟨c, rest⟩ := s
  · exact absurd h nofun
  obtain ⟨hc, hrest⟩ := Bool.and_eq_true_iff.1 h
  obtain hlast | hlast := em (rest.getLast? = some '\n')
  · obtain ⟨t, rfl⟩ := List.getLast?_eq_some_iff.1 hlast
    exact ⟨c :: t, ⟨c, t, rfl, hc, isWord_of_areWords_concat hrest⟩, .inr rfl⟩
  · exact ⟨c :: rest, ⟨c, rest, rfl, hc, isWord_of_areWords hrest hlast⟩, .inl rfl⟩

/-- No white space stands in an identifier. -/
theorem IsIdentifier.isBlank_eq_false {s : List Char} (h : IsIdentifier s) :
    ∀ x ∈ s, isBlank x = false := by
  obtain ⟨c, t, rfl, hc, ht⟩ := h
  have hword : isWord c = true := by
    rw [Bool.or_eq_true, beq_iff_eq] at hc
    obtain hc | rfl := hc
    · exact isWord_of_isAlphanum c (by rw [Char.isAlphanum, hc, Bool.true_or])
    · decide
  refine List.forall_mem_cons.2 ⟨?_, fun x hx => ?_⟩
  · exact isBlank_of_isInWord (isInWord_of_isWord hword)
  · exact isBlank_of_isInWord (isInWord_of_isWord (ht x hx))

/-- The quotes of a style are neither white space nor start an identifier. -/
theorem QuoteStyle.quotes_outside (style : QuoteStyle) :
    (isBlank style.quotes.1 = false ∧ isBlank style.quotes.2 = false) ∧
      (style.quotes.1.isAlpha || style.quotes.1 == '_') = false := by
  cases style <;> decide

/-- What stands in quotes is no identifier, -/
theorem not_isIdentifier_of_encloses {style : QuoteStyle} {close : Char} {text s : List Char}
    (h : Encloses style.quotes.1 close text s) : ¬ IsIdentifier text := by
  obtain ⟨body, rfl, -⟩ := h
  rintro ⟨c, t, hquote, hc, -⟩
  obtain ⟨rfl, -⟩ := List.cons.inj hquote
  exact absurd hc (by rw [style.quotes_outside.2]; nofun)

/-- nor is what ends with a newline. -/
theorem not_isIdentifier_of_newline (s : String) : ¬ IsIdentifier (s ++ "\n").toList := by
  intro h
  have hmem : '\n' ∈ (s ++ "\n").toList := by
    rw [String.toList_append]
    exact List.mem_append_right _ (List.mem_singleton_self _)
  exact absurd (h.isBlank_eq_false '\n' hmem) (by decide)

namespace Expr

variable {d : Dialect} {a b name : String}

/-- A column alone is rendered as its name without the white space around it. -/
theorem toList_render_col (d : Dialect) (name : String) :
    ((col name).render d).toList = trim ((Name.ofText name).render d) := by
  rw [render, String.toList_ofList, renderChars_col]

/-- A column that needs quotes stands in them. -/
theorem encloses_render_col (h : (Name.ofText name).needsQuotes d = true) :
    Encloses d.quoteStyle.quotes.1 d.quoteStyle.quotes.2 ((col name).render d).toList
      name.toList := by
  obtain ⟨⟨hfirst, hclose⟩, -⟩ := d.quoteStyle.quotes_outside
  have htext : ((col name).render d).toList = Name.quote d.quoteStyle name.toList := by
    rw [toList_render_col, Name.render, if_pos h]
    exact trim_eq_self ⟨_, _, rfl, hfirst⟩ ((endsTight_singleton hclose).append _)
  rw [htext]
  exact encloses_enclose _ _ _

/-- A column that needs none is an identifier, and a newline behind it is lost:
rendering takes the white space off the ends of a text. -/
theorem isIdentifier_render_col (h : (Name.ofText name).needsQuotes d = false) :
    IsIdentifier ((col name).render d).toList ∧
      (name = (col name).render d ∨ name = (col name).render d ++ "\n") := by
  obtain ⟨word, hword, hname⟩ := identifier_of_isPlainName (isPlainName_of_needsQuotes_eq_false h)
  have htext : ((col name).render d).toList = word := by
    rw [toList_render_col, Name.render, if_neg (Bool.eq_false_iff.1 h)]
    show trim name.toList = word
    obtain hname | hname := hname
    · rw [hname]
      have htrim := trim_append (List.forall_mem_nil _) hword.isBlank_eq_false
        (List.forall_mem_nil _)
      rwa [List.nil_append, List.append_nil] at htrim
    · rw [hname]
      have hnewline : ∀ c ∈ ['\n'], isBlank c = true := List.forall_mem_singleton.2 rfl
      exact trim_append (List.forall_mem_nil _) hword.isBlank_eq_false hnewline
  refine ⟨htext ▸ hword, ?_⟩
  rw [← String.toList_inj, ← String.toList_inj, String.toList_append, htext]
  exact hname

/-- The name stands bare and ends with a newline. -/
def LosesNewline (d : Dialect) (name : String) : Prop :=
  (Name.ofText name).needsQuotes d = false ∧ ∃ word : String, name = word ++ "\n"

/-- The newline is what is lost, and no more. -/
theorem LosesNewline.eq_render_append (h : LosesNewline d name) :
    name = (col name).render d ++ "\n" := by
  obtain ⟨hbare, word, hname⟩ := h
  obtain ⟨hword, hsame | hlost⟩ := isIdentifier_render_col hbare
  · rw [← hsame, hname] at hword
    exact absurd hword (not_isIdentifier_of_newline word)
  · exact hlost

/-- **A column is written bare or in quotes.**  Bare it is an identifier, unless
there is a newline to be lost. -/
theorem render_col_iff :
    (IsIdentifier name.toList ∧ (col name).render d = name) ∨
      Encloses d.quoteStyle.quotes.1 d.quoteStyle.quotes.2 ((col name).render d).toList
        name.toList ↔
    ¬ LosesNewline d name := by
  constructor
  · rintro (⟨hword, -⟩ | hquoted) hloses
    · obtain ⟨-, word, hname⟩ := hloses
      rw [hname] at hword
      exact not_isIdentifier_of_newline word hword
    · exact not_isIdentifier_of_encloses hquoted (isIdentifier_render_col hloses.1).1
  · intro h
    -- a name in quotes loses nothing; a bare one may have ended in a newline
    cases hbare : (Name.ofText name).needsQuotes d with
    | true => exact .inr (encloses_render_col hbare)
    | false =>
        obtain ⟨hword, hname | hname⟩ := isIdentifier_render_col hbare
        · exact .inl ⟨by rwa [← hname] at hword, hname.symm⟩
        · exact absurd ⟨hbare, _, hname⟩ h

/-- The columns stand bare and differ in a newline at the end. -/
def DifferInNewline (d : Dialect) (a b : String) : Prop :=
  ((Name.ofText a).needsQuotes d = false ∧ (Name.ofText b).needsQuotes d = false) ∧
    (a = b ++ "\n" ∨ b = a ++ "\n")

/-- Of two bare columns that differ in a newline one is what both are written. -/
theorem render_col_of_newline (ha : (Name.ofText (b ++ "\n")).needsQuotes d = false)
    (hb : (Name.ofText b).needsQuotes d = false) :
    (col (b ++ "\n")).render d = (col b).render d := by
  have hlost : LosesNewline d (b ++ "\n") := ⟨ha, b, rfl⟩
  have htext : b = (col (b ++ "\n")).render d :=
    (String.append_left_inj _).1 hlost.eq_render_append
  obtain ⟨-, hname | hname⟩ := isIdentifier_render_col hb
  · rw [← htext, ← hname]
  · -- then the other column would be no identifier
    have hword := (isIdentifier_render_col ha).1
    rw [← htext, hname] at hword
    exact absurd hword (not_isIdentifier_of_newline _)

/-- **Columns are written alike only if a newline at the end tells them apart.** -/
theorem render_col_eq_iff :
    (col a).render d = (col b).render d ↔ a = b ∨ DifferInNewline d a b := by
  constructor
  · -- a bare and a quoted column differ in their first character
    intro h
    cases ha : (Name.ofText a).needsQuotes d with
    | true =>
        have htext := encloses_render_col ha
        rw [h] at htext
        cases hb : (Name.ofText b).needsQuotes d with
        | true => exact .inl (String.toList_inj.1 (htext.unique (encloses_render_col hb)))
        | false => exact absurd (isIdentifier_render_col hb).1 (not_isIdentifier_of_encloses htext)
    | false =>
        obtain ⟨hword, haname⟩ := isIdentifier_render_col ha
        rw [h] at hword haname
        cases hb : (Name.ofText b).needsQuotes d with
        | true => exact absurd hword (not_isIdentifier_of_encloses (encloses_render_col hb))
        | false =>
            obtain ⟨-, hbname⟩ := isIdentifier_render_col hb
            -- either name is what is rendered, or that and a newline
            generalize (col b).render d = word at haname hbname
            obtain rfl | rfl := haname <;> obtain rfl | rfl := hbname
            · exact .inl rfl
            · exact .inr ⟨⟨ha, hb⟩, .inr rfl⟩
            · exact .inr ⟨⟨ha, hb⟩, .inl rfl⟩
            · exact .inl rfl
  · rintro (rfl | ⟨⟨ha, hb⟩, rfl | rfl⟩)
    · rfl
    · exact render_col_of_newline ha hb
    · exact (render_col_of_newline hb ha).symm

end Expr

end Sql

namespace Driver

open Sql.Expr

/-! ## §3. Time zones. -/

/-- A template with one plain place has the zone there, as a text literal. -/
theorem setTimeZone_of_template {d : Driver} {pre post : String}
    (h : d.timeZoneTemplate = some (pre ++ "%s" ++ post)) (hpre : '%' ∉ pre.toList)
    (hpost : '%' ∉ post.toList) (zone : String) :
    ∃ literal : String, d.setTimeZone zone = .ok (some (pre ++ literal ++ post)) ∧
      Encloses '\'' '\'' literal.toList zone.toList := by
  refine ⟨String.ofList (textLiteral zone.toList), ?_, ?_⟩
  · have htemplate : (pre ++ "%s" ++ post).toList = pre.toList ++ '%' :: 's' :: post.toList := by
      rw [String.toList_append, String.toList_append, List.append_assoc]
      rfl
    rw [setTimeZone, h]
    show (fun s => some (String.ofList s)) <$> Template.apply (pre ++ "%s" ++ post).toList _ = _
    rw [htemplate, Template.apply_plain hpre hpost]
    show Except.ok (some (String.ofList _)) = _
    rw [String.ofList_append, String.ofList_append, String.ofList_toList, String.ofList_toList]
  · rw [String.toList_ofList]
    exact encloses_enclose _ _ _

/-! ## §4. Quotes hold. -/

/-- **Quotes hold whatever stands in them.**  A name that a driver quotes is
read from its opening quote on as the name, and ends there, so different names
have different texts.  A column is its name if that is an identifier, or stands
in such quotes, and different columns are written differently; but a newline at
the end of a bare name is lost, and with it the difference.  For HANA and
DuckDB the statement that sets the time zone is the template with one text
literal, which is read as the zone and ends before the rest of the template.

All this holds whichever words the driver's dialect reserves. -/
theorem quotes_hold (d : Driver) (words : SpecialWords) (a b : String) :
    ((d.family ≠ .duckdb → d.dialect.quoteStyle = d.quoteStyle) ∧
      Encloses d.dialect.quoteStyle.quotes.1 d.dialect.quoteStyle.quotes.2
        (d.quoteIdentifier a).toList a.toList ∧
      (d.quoteIdentifier a = d.quoteIdentifier b ↔ a = b)) ∧
    (((IsIdentifier a.toList ∧ (col a).render (d.dialectWith words) = a) ∨
        Encloses d.dialect.quoteStyle.quotes.1 d.dialect.quoteStyle.quotes.2
          ((col a).render (d.dialectWith words)).toList a.toList ↔
        ¬ LosesNewline (d.dialectWith words) a) ∧
      (LosesNewline (d.dialectWith words) a →
        a = (col a).render (d.dialectWith words) ++ "\n") ∧
      ((col a).render (d.dialectWith words) = (col b).render (d.dialectWith words) ↔
        a = b ∨ DifferInNewline (d.dialectWith words) a b)) ∧
    (d ∈ [hana, duckdb] → ∃ pre post : String,
      d.timeZoneTemplate = some (pre ++ "%s" ++ post) ∧ NotAt '\'' post.toList ∧
      ∀ zone : String, ∃ literal : String,
        d.setTimeZone zone = .ok (some (pre ++ literal ++ post)) ∧
        Encloses '\'' '\'' literal.toList zone.toList) := by
  refine ⟨⟨quoteStyle_dialect, d.encloses_quoteIdentifier a, quoteIdentifier_inj⟩,
    ⟨render_col_iff, LosesNewline.eq_render_append, render_col_eq_iff⟩, fun hd => ?_⟩
  -- what follows the literal is no quote, so the last one closes it
  have hsemicolon : NotAt '\'' ";".toList := by
    intro c hc
    obtain rfl := Option.some.inj hc
    decide
  obtain rfl | rfl : d = hana ∨ d = duckdb := by simpa using hd
  · exact ⟨"SET @@session.time_zone = ", ";", rfl, hsemicolon,
      setTimeZone_of_template rfl (by decide) (by decide)⟩
  · exact ⟨"SET TimeZone = ", ";", rfl, hsemicolon,
      setTimeZone_of_template rfl (by decide) (by decide)⟩

/-- The columns `ts` with and without a newline are two and written alike, also
where other words are reserved. -/
theorem newline_of_column_is_lost :
    (col "ts\n").render (standard.dialectWith { reserved := ["array", "when"] })
        = (col "ts").render (standard.dialectWith { reserved := ["array", "when"] }) ∧
      "ts\n" ≠ "ts" := by
  obtain ⟨-, ⟨-, -, halike⟩, -⟩ := quotes_hold standard { reserved := ["array", "when"] }
    "ts\n" "ts"
  exact ⟨halike.2 (.inr ⟨by decide +kernel, .inl rfl⟩), by decide⟩

end Driver

end SqlDialect
