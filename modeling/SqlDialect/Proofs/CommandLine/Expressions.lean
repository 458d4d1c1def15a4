/-
  SqlDialect.Proofs.CommandLine.Expressions
  ────────────────────────────────
  **EXPRESSIONS ON THE COMMAND LINE.**

  Two commands convert an expression that the command line gives as text: to a
  bucket, and to the time that a timestamp stands for.  The text is cut into
  tokens, which are parsed.  A text that has no grammar is refused, but any
  other fault of the tokenizer or the parser stops the command:

      exitCode = 2 ↔ ∃ message, p.Raises dialect text (.grammar message)

  Behind two dashes any word is taken for the expression.
-/
import SqlDialect.Proofs.CommandLine.Described
import SqlDialect.Proofs.Registry.History
import SqlDialect.Proofs.Sql.Scan

namespace SqlDialect.CommandLine

open SqlDialect.Sql

/-! ## §1. Conversions. -/

/-- What is asked of an expression. -/
inductive Conversion where
  | bucket (unit : TemporalUnit)
  | epoch (unit : TimestampUnit)

namespace Conversion

/-- The expression converted by a driver. -/
def convert (d : Driver) (e : Expr) : Conversion → Expr
  | .bucket unit => d.bucket unit e
  | .epoch unit => d.ofTimestamp e unit

/-- The name of the unit. -/
def unitText : Conversion → String
  | .bucket unit => unit.text
  | .epoch unit => unit.text

/-- The command that asks for the conversion of a text. -/
def command (id : String) (format : OutputFormat) (text : String) : Conversion → Command
  | .bucket unit => .bucket id unit text format
  | .epoch unit => .epoch id text unit format

/-- The words that ask for a unit of timestamps. -/
def flags : TimestampUnit → List String
  | .seconds => []
  | .milliseconds => ["--millis"]

/-- The words that name the conversion, up to the text. -/
def words (id : String) : Conversion → List String
  | .bucket unit => ["bucket", id, unit.text]
  | .epoch unit => "epoch" :: id :: flags unit

/-- The line that asks for the conversion of a text. -/
def line (id : String) (format : OutputFormat) (text : String) (c : Conversion) : List String :=
  c.words id ++ ["--format", format.spelling, "--", text]

/-- What is shown of a converted expression. -/
def shown (d : Driver) (dialect : Dialect) (id : String) (format : OutputFormat) (e : Expr)
    (c : Conversion) : String :=
  let sql := (c.convert d e).render dialect
  inFormat format [("driver", .text id), ("unit", .text c.unitText), ("sql", .text sql)] sql

end Conversion

/-! ## §2. The words of a line. -/

/-- No unit is taken for an option. -/
theorem isPlainWord_text (unit : TemporalUnit) : IsPlainWord unit.text := by
  cases unit <;> decide

/-- Behind the format and two dashes any word is an argument. -/
theorem scanFrom_format {shape : CommandShape}
    (hshape : shape.option? "--format" = some formatOption) (s : Scanned) (format : OutputFormat)
    (text : String) :
    scanFrom shape s none ["--format", format.spelling, "--", text]
      = .ok ((s.give formatOption format.spelling).add [text]) := by
  rw [scanFrom, scanWord_of_option (by simp) (by decide) hshape rfl]
  show scanFrom shape (s.give formatOption format.spelling) none ["--", text] = _
  rw [scanFrom, scanWord, if_pos rfl]
  rfl

variable {id : String}

/-- The words of a bucket are read as the command they tell, whatever the
expression starts with. -/
theorem readWords_bucket (environment : Option String) (hid : IsPlainWord id)
    (unit : TemporalUnit) (format : OutputFormat) (text : String) :
    readWords (CommandName.bucket.shape environment) CommandName.bucket.command
        [id, unit.text, "--format", format.spelling, "--", text]
      = .ok (.bucket id unit text format) := by
  have hscan : scan (CommandName.bucket.shape environment)
      [id, unit.text, "--format", format.spelling, "--", text]
        = .ok ⟨[("--format", format.spelling)], [id, unit.text, text]⟩ := by
    rw [scan, scanFrom_cons_of_plain rfl hid, scanFrom_cons_of_plain rfl (isPlainWord_text unit),
      scanFrom_format rfl]
    rfl
  unfold readWords
  rw [hscan]
  -- the words that are left are compared with the names of the units and formats
  cases unit <;> cases format <;> rfl

/-- The words of an epoch are read as the command they tell, whatever the
expression starts with. -/
theorem readWords_epoch (environment : Option String) (hid : IsPlainWord id)
    (unit : TimestampUnit) (format : OutputFormat) (text : String) :
    readWords (CommandName.epoch.shape environment) CommandName.epoch.command
        (id :: Conversion.flags unit ++ ["--format", format.spelling, "--", text])
      = .ok (.epoch id text unit format) := by
  -- the unit is told by the presence of a flag
  cases unit with
  | seconds =>
      have hscan : scan (CommandName.epoch.shape environment)
          [id, "--format", format.spelling, "--", text]
            = .ok ⟨[("--format", format.spelling)], [id, text]⟩ := by
        rw [scan, scanFrom_cons_of_plain rfl hid, scanFrom_format rfl]
        rfl
      unfold readWords
      show (do let s ← scan _ [id, "--format", format.spelling, "--", text]; _) = _
      rw [hscan]
      cases format <;> rfl
  | milliseconds =>
      have hmillis : ∀ s, scanWord (CommandName.epoch.shape environment) s "--millis"
          = .ok (.done (s.give millisOption "")) :=
        scanWord_of_flag (by simp) (by decide) rfl rfl
      have hscan : scan (CommandName.epoch.shape environment)
          [id, "--millis", "--format", format.spelling, "--", text]
            = .ok ⟨[("--millis", ""), ("--format", format.spelling)], [id, text]⟩ := by
        rw [scan, scanFrom_cons_of_plain rfl hid, scanFrom, hmillis]
        show scanFrom _ _ none ["--format", format.spelling, "--", text] = _
        rw [scanFrom_format rfl]
        rfl
      unfold readWords
      show (do let s ← scan _ [id, "--millis", "--format", format.spelling, "--", text]; _) = _
      rw [hscan]
      cases format <;> rfl

/-- **The line asks for the conversion of the text that it gives**, whatever the text. -/
theorem asked_line (s : Surroundings) (hid : IsPlainWord id) (c : Conversion)
    (format : OutputFormat) (text : String) :
    asked s (c.line id format text) = .ok (c.command id format text) := by
  cases c with
  | bucket unit =>
      unfold asked Invocation.ofWords
      rw [Conversion.line, Conversion.words, List.cons_append, scan_of_plain_head rfl (by decide)]
      exact readWords_bucket s.database hid unit format text
  | epoch unit =>
      unfold asked Invocation.ofWords
      rw [Conversion.line, Conversion.words, List.cons_append, scan_of_plain_head rfl (by decide)]
      exact readWords_epoch s.database hid unit format text

/-! ## §3. Drivers. -/

/-- What a command does with a driver is done with the built-in driver of the id. -/
theorem ending_withDriver {id : String} {path : ClassPath} {d : Driver}
    (hpath : Registry.standard.builtins.get? id = some path)
    (hd : Catalogue.standard.driverOf path = .ok d) (next : Driver → Outcome) :
    (withDriver id next).ending = (next d).ending := by
  have hlookup : Registry.standard.lookup .standard id
      = Registry.standard.load .standard id path := by
    rw [Registry.lookup, hpath]
    rfl
  rw [withDriver, hlookup, Registry.load, hd]
  rfl

/-- Every id is that of a built-in driver. -/
theorem exists_driver_of_mem_driverIds {id : String} (h : id ∈ driverIds) :
    ∃ d ∈ builtinDrivers, d.name = id ∧
      ∀ next, (withDriver id next).ending = (next d).ending := by
  rw [driverIds_eq] at h
  simp only [List.mem_cons, List.not_mem_nil, or_false] at h
  obtain rfl | rfl | rfl := h
  · exact ⟨.duckdb, by simp [builtinDrivers], rfl, ending_withDriver rfl Registry.driverOf_duckdb⟩
  · exact ⟨.hana, by simp [builtinDrivers], rfl, ending_withDriver rfl Registry.driverOf_hana⟩
  · exact ⟨.standard, by simp [builtinDrivers], rfl,
      ending_withDriver rfl Registry.driverOf_standard⟩

/-! ## §4. How a conversion ends. -/

/-- How the conversion of a text ends: the expression that the text is read as is
shown as converted; a fault of the grammar is refused; any other fault stops it. -/
inductive Conversion.Ends {Token : Type} (p : SqlParser Token) (d : Driver) (dialect : Dialect)
    (id : String) (format : OutputFormat) (text : String) (c : Conversion) : Ending → Prop
  | shown {e : Expr} : p.Reads dialect text e →
      c.Ends p d dialect id format text (.result (c.shown d dialect id format e))
  | refused {message : String} : p.Raises dialect text (.grammar message) →
      c.Ends p d dialect id format text
        (.refused (.unusable "EXPR" ("Not a SQL expression: " ++ message)))
  | stopped {fault : SqlFault} : p.Raises dialect text fault →
      (∀ message, fault ≠ .grammar message) →
      c.Ends p d dialect id format text (.broken (.expression fault))

namespace Conversion

variable {Token : Type} {p : SqlParser Token} {c : Conversion} {d : Driver} {dialect : Dialect}
  {format : OutputFormat} {text : String} {ending : Ending}

/-- What a command does with the expression that it reads. -/
theorem ends_withExpr {l : SqlLibrary} (hl : l.read = p.read) (c : Conversion) (d : Driver)
    (dialect : Dialect) (id : String) (format : OutputFormat) (text : String) :
    c.Ends p d dialect id format text
      (withExpr l dialect text fun e => .result (c.shown d dialect id format e)).ending := by
  unfold withExpr
  rw [hl]
  split
  next h => exact .shown (SqlParser.reads_iff.2 h)
  next h => exact .refused (SqlParser.raises_iff.2 h)
  next hgrammar h => exact .stopped (SqlParser.raises_iff.2 h) hgrammar

/-- A conversion is shown exactly if the text is read. -/
theorem Ends.exitCode_eq_zero_iff (h : c.Ends p d dialect id format text ending) :
    ending.exitCode = 0 ↔ ∃ e, p.Reads dialect text e := by
  cases h with
  | shown he => exact iff_of_true rfl ⟨_, he⟩
  | refused h => exact iff_of_false nofun fun ⟨_, he⟩ => h.not_reads he
  | stopped h _ => exact iff_of_false nofun fun ⟨_, he⟩ => h.not_reads he

/-- A conversion is refused exactly at a fault of the grammar. -/
theorem Ends.exitCode_eq_two_iff (h : c.Ends p d dialect id format text ending) :
    ending.exitCode = 2 ↔ ∃ message, p.Raises dialect text (.grammar message) := by
  cases h with
  | shown he => exact iff_of_false nofun fun ⟨_, h⟩ => h.not_reads he
  | refused h => exact iff_of_true rfl ⟨_, h⟩
  | stopped h hother => exact iff_of_false nofun fun ⟨_, h'⟩ => hother _ (h.unique h')

/-- A conversion is stopped exactly at any other fault. -/
theorem Ends.exitCode_eq_one_iff (h : c.Ends p d dialect id format text ending) :
    ending.exitCode = 1 ↔
      ∃ fault, p.Raises dialect text fault ∧ ∀ message, fault ≠ .grammar message := by
  cases h with
  | shown he => exact iff_of_false nofun fun ⟨_, h, _⟩ => h.not_reads he
  | refused h => exact iff_of_false nofun fun ⟨_, h', hother⟩ => hother _ (h'.unique h)
  | stopped h hother => exact iff_of_true rfl ⟨_, h, hother⟩

end Conversion

/-- **A conversion is stopped exactly by a fault that is none of the grammar.**
Whatever tokenizer and parser the program is given, a text that they read is
shown, and a fault of the grammar is refused; a quotation mark that is not
closed stops the command, as it leaves no tokens. -/
theorem conversion_stops_at_open_quotes {Token : Type} (p : SqlParser Token) (s : Surroundings)
    (hp : s.sql.read = p.read) (hid : id ∈ driverIds) :
    ∃ d ∈ builtinDrivers, d.name = id ∧
      ∀ (c : Conversion) (format : OutputFormat) (text : String),
        asked s (c.line id format text) = .ok (c.command id format text) ∧
        ∀ words, asked s words = .ok (c.command id format text) →
          c.Ends p d (s.sql.dialect d.dialect) id format text
              (Program.run s words).outcome.ending ∧
          ((Program.run s words).exitCode = 0 ↔
            ∃ e, p.Reads (s.sql.dialect d.dialect) text e) ∧
          ((Program.run s words).exitCode = 2 ↔
            ∃ message, p.Raises (s.sql.dialect d.dialect) text (.grammar message)) ∧
          ((Program.run s words).exitCode = 1 ↔
            ∃ fault, p.Raises (s.sql.dialect d.dialect) text fault ∧
              ∀ message, fault ≠ .grammar message) ∧
          (p.RefusesOpenQuotes → ∀ rest : String, '\'' ∉ rest.toList → text = "'" ++ rest →
            (Program.run s words).exitCode = 1) := by
  obtain ⟨d, hd, hname, hdriver⟩ := exists_driver_of_mem_driverIds hid
  refine ⟨d, hd, hname, fun c format text =>
    ⟨asked_line s (plain_of_mem_driverIds hid).1 c format text, fun words hasked => ?_⟩⟩
  have hends : c.Ends p d (s.sql.dialect d.dialect) id format text
      (Program.run s words).outcome.ending := by
    have hwithExpr := c.ends_withExpr hp d (s.sql.dialect d.dialect) id format text
    rw [outcome_run hasked]
    cases c with
    | bucket unit => exact (hdriver _).symm ▸ hwithExpr
    | epoch unit => exact (hdriver _).symm ▸ hwithExpr
  refine ⟨hends, hends.exitCode_eq_zero_iff, hends.exitCode_eq_two_iff, hends.exitCode_eq_one_iff,
    fun hquotes rest hrest htext => ?_⟩
  -- the tokenizer is reached before the parser and fails
  obtain ⟨message, htokens⟩ := hquotes (s.sql.dialect d.dialect) rest hrest
  rw [← htext] at htokens
  exact hends.exitCode_eq_one_iff.2 ⟨.tokens message, .inl htokens, fun _ h => nomatch h⟩

/-- A quote that is not closed stops the command. -/
theorem open_quote_stops_bucket :
    "sql" ∈ driverIds ∧ ({} : Surroundings).sql.read = SqlParser.plain.read ∧
      SqlParser.plain.RefusesOpenQuotes ∧
      asked {} ["bucket", "sql", "day", "'abc"] = .ok (.bucket "sql" .day "'abc" .text) ∧
      (Program.run {} ["bucket", "sql", "day", "'abc"]).exitCode = 1 := by
  have hid : "sql" ∈ driverIds := by
    rw [driverIds_eq]
    decide
  have hasked : asked {} ["bucket", "sql", "day", "'abc"]
      = .ok (.bucket "sql" .day "'abc" .text) := by
    rw [asked, driverIds_eq]
    rfl
  obtain ⟨d, -, -, hends⟩ := conversion_stops_at_open_quotes SqlParser.plain {} rfl hid
  obtain ⟨-, hrun⟩ := hends (.bucket .day) .text "'abc"
  obtain ⟨-, -, -, -, hstops⟩ := hrun _ hasked
  exact ⟨hid, rfl, SqlParser.refusesOpenQuotes_plain, hasked,
    hstops SqlParser.refusesOpenQuotes_plain "abc" (by decide) rfl⟩

end SqlDialect.CommandLine
