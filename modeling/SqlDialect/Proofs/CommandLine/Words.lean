/-
  SqlDialect.Proofs.CommandLine.Words
  ────────────────────────────────
  **WORDS OF A COMMAND LINE.**

  A word that does not start with a dash is an argument, wherever it stands,
  and the word behind an option that takes a value is its value.  So the
  lines that add a connection and that ask for a descriptor are read as what
  they say, whatever words they are made of.
-/
import SqlDialect.CommandLine.Program

namespace SqlDialect.CommandLine

/-! ## §1. Plain words. -/

/-- The word does not start with a dash. -/
def IsPlainWord (word : String) : Prop := word.toList.head? ≠ some '-'

instance (word : String) : Decidable (IsPlainWord word) :=
  inferInstanceAs (Decidable (word.toList.head? ≠ some '-'))

variable {shape : CommandShape} {word : String} {words : List String}

/-- A plain word is an argument; it ends the options only where these may not
follow. -/
theorem scanWord_of_plain (h : IsPlainWord word) (s : Scanned) :
    scanWord shape s word = .ok (if shape.isMixed then .done (s.add [word]) else .rest true) := by
  have hdashes : word ≠ "--" := by
    rintro rfl
    exact h (by decide)
  have hoption : isOptionLike word = false := by
    unfold isOptionLike
    split
    next hword =>
      refine absurd ?_ h
      rw [hword]
      rfl
    next => rfl
  unfold scanWord
  rw [if_neg hdashes, hoption]
  rfl

/-- A plain word is an argument. -/
theorem scanFrom_cons_of_plain (hshape : shape.isMixed = true) (h : IsPlainWord word)
    (s : Scanned) (words : List String) :
    scanFrom shape s none (word :: words) = scanFrom shape (s.add [word]) none words := by
  rw [scanFrom, scanWord_of_plain h, hshape]
  rfl

/-- Plain words are arguments. -/
theorem scanFrom_of_plain (hshape : shape.isMixed = true) (h : ∀ word ∈ words, IsPlainWord word)
    (s : Scanned) : scanFrom shape s none words = .ok (s.add words) := by
  induction words generalizing s with
  | nil =>
      show Except.ok s = _
      rw [Scanned.add, List.append_nil]
  | cons word words ih =>
      obtain ⟨hword, hwords⟩ := List.forall_mem_cons.1 h
      have hadd : (s.add [word]).add words = s.add (word :: words) := by
        rw [Scanned.add, Scanned.add, List.append_assoc]
        rfl
      rw [scanFrom_cons_of_plain hshape hword, ih hwords, hadd]

/-- Plain words are the arguments in their order. -/
theorem scan_of_plain (hshape : shape.isMixed = true) (h : ∀ word ∈ words, IsPlainWord word) :
    scan shape words = .ok { words := words } :=
  scanFrom_of_plain hshape h {}

/-- Where options stand in front, a plain word ends them. -/
theorem scan_of_plain_head (hshape : shape.isMixed = false) (h : IsPlainWord word) :
    scan shape (word :: words) = .ok { words := word :: words } := by
  rw [scan, scanFrom, scanWord_of_plain h, hshape]
  rfl

/-! ## §2. The line that adds a connection. -/

/-- The line that adds a connection of the given words. -/
def addLine (name id : String) (words : List String) : List String :=
  ["connect", "add", name, id] ++ words

variable {name id : String} {ids : List String}

/-- The words behind the driver are all parameters. -/
theorem bindArguments_add (hid : id ∈ ids) (hne : words ≠ []) :
    bindArguments (ConnectName.add.shape ids).arguments (name :: id :: words)
      = .ok ([("name", .text name), ("driver", .text id),
          ("parameters", .list (words.map .text))], []) := by
  obtain ⟨word, words, rfl⟩ := List.exists_cons_of_ne_nil hne
  have hmem : ids.contains id = true := List.contains_iff_mem.2 hid
  have hchoice : convert "DRIVER" (.choice ids) id = .ok (.text id) := if_pos hmem
  show (convert "DRIVER" (.choice ids) id >>= fun v => _) >>= _ = _
  rw [hchoice]
  rfl

/-- **The line asks for the connection that it says.** -/
theorem ofWords_addLine (environment : Option String) (hid : id ∈ ids)
    (hdriver : IsPlainWord id) (hname : IsPlainWord name) (hne : words ≠ [])
    (hwords : ∀ word ∈ words, IsPlainWord word) :
    Invocation.ofWords environment ids (addLine name id words)
      = ⟨.ok (.addConnection name id words), false⟩ := by
  have hplain : ∀ word ∈ name :: id :: words, IsPlainWord word :=
    List.forall_mem_cons.2 ⟨hname, List.forall_mem_cons.2 ⟨hdriver, hwords⟩⟩
  have hread : readWords (ConnectName.add.shape ids) ConnectName.add.command (name :: id :: words)
      = .ok (.addConnection name id words) := by
    have htexts : (words.map Value.text).map (·.shown) = words := by
      rw [List.map_map]
      exact (List.map_congr_left fun word _ => Value.shown_text word).trans (List.map_id _)
    unfold readWords
    rw [scan_of_plain rfl hplain]
    show (do return ConnectName.add.command (← bind (ConnectName.add.shape ids) _)) = _
    unfold bind
    rw [bindArguments_add hid hne]
    show Except.ok (Command.addConnection name id ((words.map Value.text).map (·.shown))) = _
    rw [htexts]
  -- the name of the group and of the command are taken off first
  have hconnect : readConnect ids ("add" :: name :: id :: words)
      = .ok (.addConnection name id words) := by
    unfold readConnect
    rw [scan_of_plain_head rfl (by decide)]
    exact hread
  unfold Invocation.ofWords addLine
  rw [List.cons_append, scan_of_plain_head rfl (by decide)]
  show Invocation.mk (readConnect ids ("add" :: name :: id :: words)) false = _
  rw [hconnect]

/-! ## §3. The line that asks for a descriptor. -/

/-- An option that takes a value waits for the next word. -/
theorem scanWord_of_option {o : OptionShape} (hdashes : word.startsWith "--" = true)
    (hsplit : isOptionLike word = true ∧ word ≠ "--" ∧ splitOption word = (word, none))
    (ho : shape.option? word = some o) (hkind : o.kind.isSome = true) (s : Scanned) :
    scanWord shape s word = .ok (.awaiting word o) := by
  obtain ⟨hlike, hne, hsplit⟩ := hsplit
  obtain ⟨kind, hkind⟩ := Option.isSome_iff_exists.1 hkind
  unfold scanWord
  rw [if_neg hne, if_pos hlike, hsplit]
  dsimp only
  rw [ho, Option.filter_some, if_pos hdashes]
  dsimp only
  rw [hkind]

/-- An option that takes nothing is given by its word. -/
theorem scanWord_of_flag {o : OptionShape} (hdashes : word.startsWith "--" = true)
    (hsplit : isOptionLike word = true ∧ word ≠ "--" ∧ splitOption word = (word, none))
    (ho : shape.option? word = some o) (hkind : o.kind = none) (s : Scanned) :
    scanWord shape s word = .ok (.done (s.give o "")) := by
  obtain ⟨hlike, hne, hsplit⟩ := hsplit
  unfold scanWord
  rw [if_neg hne, if_pos hlike, hsplit]
  dsimp only
  rw [ho, Option.filter_some, if_pos hdashes]
  dsimp only
  rw [hkind]

/-- How a format is written. -/
def OutputFormat.spelling : OutputFormat → String
  | .text => "text"
  | .json => "json"

/-- The line that asks for the descriptor of a database. -/
def specLine (database : String) (format : OutputFormat) : List String :=
  ["spec", "--db", database, "--format", format.spelling]

/-- **The line asks for the descriptor of the database that it names**, whatever the name. -/
theorem ofWords_specLine (environment : Option String) (ids : List String) (database : String)
    (format : OutputFormat) :
    Invocation.ofWords environment ids (specLine database format)
      = ⟨.ok (.spec database format), false⟩ := by
  -- both options await a word, and take the next one whatever it is
  let given := [("--db", database), ("--format", format.spelling)]
  have hdb : ∀ s, scanWord (CommandName.spec.shape environment) s "--db"
      = .ok (.awaiting "--db" (databaseOption environment)) :=
    scanWord_of_option (by simp) (by decide) rfl rfl
  have hformat : ∀ s, scanWord (CommandName.spec.shape environment) s "--format"
      = .ok (.awaiting "--format" formatOption) :=
    scanWord_of_option (by simp) (by decide) rfl rfl
  have hscan : scan (CommandName.spec.shape environment)
      ["--db", database, "--format", format.spelling] = .ok { given := given } := by
    rw [scan, scanFrom, hdb]
    show scanFrom _ _ none ["--format", format.spelling] = _
    rw [scanFrom, hformat]
    rfl
  have hread : readWords (CommandName.spec.shape environment) CommandName.spec.command
      ["--db", database, "--format", format.spelling] = .ok (.spec database format) := by
    unfold readWords
    rw [hscan]
    cases format <;> rfl
  unfold Invocation.ofWords specLine
  rw [scan_of_plain_head rfl (by decide)]
  show Invocation.mk (readWords (CommandName.spec.shape environment) CommandName.spec.command
    ["--db", database, "--format", format.spelling]) false = _
  rw [hread]

end SqlDialect.CommandLine
