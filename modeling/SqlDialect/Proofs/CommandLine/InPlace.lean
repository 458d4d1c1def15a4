/-
  SqlDialect.Proofs.CommandLine.InPlace
  ────────────────────────────────
  **A FAILING COMMAND LEAVES THE FILE AS IT WAS.**

  A command line that works on the file step by step ends as the program
  does and leaves the file that the program leaves:

      runInPlace s words : s.store ↦ (ending, store) of Program.run s words

  Whatever stops it, the words, the file or another entry in it, stops it
  before the file is touched.
-/
import SqlDialect.CommandLine.Program
import SqlDialect.Proofs.CommandLine.Secrets
import SqlDialect.Proofs.Store.Filing

namespace SqlDialect.CommandLine

variable {s : Surroundings}

/-! ## §1. Commands that only read. -/

/-- The outcome comes without a new file. -/
def WritesNothing (o : Outcome) : Prop := o.written = none

/-- A lookup of a driver writes nothing by itself. -/
theorem writesNothing_withDriver {id : String} {next : Driver → Outcome}
    (h : ∀ d, WritesNothing (next d)) : WritesNothing (withDriver id next) := by
  unfold withDriver
  split
  · exact h _
  · rfl

/-- Reading an expression writes nothing by itself. -/
theorem writesNothing_withExpr {l : Sql.SqlLibrary} {dialect : Sql.Dialect} {text : String}
    {next : Sql.Expr → Outcome} (h : ∀ e, WritesNothing (next e)) :
    WritesNothing (withExpr l dialect text next) := by
  unfold withExpr
  split
  · exact h _
  · rfl
  · rfl

/-- Choosing a connection writes nothing by itself. -/
theorem writesNothing_withConnection {s : Store} {word : String}
    {next : NamedConnection → Driver → Outcome} (h : ∀ c d, WritesNothing (next c d)) :
    WritesNothing (withConnection s word next) := by
  unfold withConnection
  split
  · exact writesNothing_withDriver (h _)
  · rfl

theorem writesNothing_showInterval (id unit : String) (amount : Number.Binary64)
    (format : OutputFormat) (d : Driver) :
    WritesNothing (showInterval id unit amount format d) := by
  unfold showInterval
  split <;> rfl

theorem writesNothing_showTimeZone (id zone : String) (format : OutputFormat) (d : Driver) :
    WritesNothing (showTimeZone id zone format d) := by
  unfold showTimeZone
  split <;> rfl

theorem writesNothing_showDescriptor (format : OutputFormat) (c : NamedConnection) (d : Driver) :
    WritesNothing (showDescriptor format c d) := by
  unfold showDescriptor
  split <;> rfl

/-- A probe writes nothing, however it ends. -/
theorem writesNothing_probe (client? : Option Client) (timeout : Number.Binary64)
    (format : OutputFormat) (c : NamedConnection) (d : Driver) :
    WritesNothing (probe client? timeout format c d) := by
  unfold probe
  split <;> rfl

theorem writesNothing_listConnections (s : Store) : WritesNothing (listConnections s) := by
  unfold listConnections
  split
  · rfl
  · unfold listing
    split <;> rfl

/-- The commands that may write the file. -/
def MayWrite : Command → Prop
  | .addConnection .. | .removeConnection _ => True
  | _ => False

/-- **Only the commands that add and remove write the file.** -/
theorem writesNothing_execute {command : Command} (h : ¬ MayWrite command) :
    WritesNothing (execute s command) := by
  cases command with
  | drivers | version | help => rfl
  | types | classify | fields => exact writesNothing_withDriver fun _ => rfl
  | bucket | epoch =>
      exact writesNothing_withDriver fun _ => writesNothing_withExpr fun _ => rfl
  | interval id unit amount format =>
      exact writesNothing_withDriver (writesNothing_showInterval id unit amount format)
  | timeZone id zone format =>
      exact writesNothing_withDriver (writesNothing_showTimeZone id zone format)
  | spec database format =>
      exact writesNothing_withConnection (writesNothing_showDescriptor format)
  | probe database timeout format =>
      exact writesNothing_withConnection (writesNothing_probe s.client? timeout format)
  | listConnections => exact writesNothing_listConnections s.store
  | addConnection | removeConnection => exact absurd trivial h

/-! ## §2. Commands on the file. -/

/-- The ending of an outcome and the file that it leaves. -/
def Outcome.leaving (o : Outcome) (s : Store) : Ending × Store := (o.ending, o.written.getD s)

/-- The steps that add a connection come to the ending of the command and the
file it leaves. -/
theorem addInPlace_run (s : Store) (name id : String) (words : List String) :
    (addInPlace name id words).run s = (addConnection s name id words).leaving s := by
  unfold addInPlace addConnection
  cases parametersOfWords words with
  | error e => rfl
  | ok parameters =>
      show (endingOf _ ((Filing.save ⟨name, id, parameters⟩).on s).1,
        ((Filing.save ⟨name, id, parameters⟩).on s).2) = _
      rw [Filing.on_save]
      dsimp only
      cases s.save ⟨name, id, parameters⟩ <;> rfl

/-- The steps that remove a connection come to the ending of the command and the
file it leaves. -/
theorem removeInPlace_run (s : Store) (name : String) :
    (removeInPlace name).run s = (removeConnection s name).leaving s := by
  unfold removeInPlace removeConnection
  show (endingOf _ ((Filing.remove name).on s).1, ((Filing.remove name).on s).2) = _
  rw [Filing.on_remove]
  rcases hremove : s.remove name with e | ⟨_ | _, s'⟩
  · rfl
  · -- what is missing is complained of, and the file is not written
    obtain rfl := Filing.eq_of_remove_eq_false hremove
    rfl
  · rfl

/-- A command on the file itself ends as the command does and leaves its file. -/
theorem executeInPlace_run (s : Surroundings) (command : Command) :
    (executeInPlace s command).run s.store = (execute s command).leaving s.store := by
  by_cases h : MayWrite command
  · cases command with
    | addConnection name id words => exact addInPlace_run s.store name id words
    | removeConnection name => exact removeInPlace_run s.store name
    | _ => exact absurd h id
  · have hexecute : (executeInPlace s command).run s.store
        = ((execute s command).ending, s.store) := by
      cases command with
      | addConnection | removeConnection => exact absurd trivial h
      | _ => rfl
    rw [hexecute, Outcome.leaving, writesNothing_execute h]
    rfl

/-- **The program run on the file itself is the program.** -/
theorem runInPlace_run (s : Surroundings) (words : List String) :
    (runInPlace s words).run s.store
      = ((Program.run s words).outcome.ending, (Program.run s words).store) := by
  unfold runInPlace Program.run
  dsimp only
  cases (Invocation.ofWords s.database driverIds words).command with
  | error e => rfl
  | ok command => exact executeInPlace_run s command

/-! ## §3. Failing commands. -/

/-- An outcome that is no result comes without a new file. -/
def WritesOnSuccess (o : Outcome) : Prop := o.ending.exitCode ≠ 0 → WritesNothing o

/-- A connection that is not added leaves the file alone. -/
theorem writesOnSuccess_addConnection (s : Store) (name id : String) (words : List String) :
    WritesOnSuccess (addConnection s name id words) := by
  unfold addConnection
  split
  · exact fun _ => rfl
  · split
    · exact fun _ => rfl
    · exact fun h => absurd rfl h

/-- A connection that is not removed leaves the file alone. -/
theorem writesOnSuccess_removeConnection (s : Store) (name : String) :
    WritesOnSuccess (removeConnection s name) := by
  unfold removeConnection
  split
  · exact fun _ => rfl
  · exact fun _ => rfl
  · exact fun h => absurd rfl h

/-- Every command that writes the file succeeds. -/
theorem writesOnSuccess_execute (s : Surroundings) (command : Command) :
    WritesOnSuccess (execute s command) := by
  by_cases h : MayWrite command
  · cases command with
    | addConnection name id words => exact writesOnSuccess_addConnection s.store name id words
    | removeConnection name => exact writesOnSuccess_removeConnection s.store name
    | _ => exact absurd h id
  · exact fun _ => writesNothing_execute h

/-- A run that fails leaves the store as it was. -/
theorem store_of_failing {s : Surroundings} {words : List String}
    (h : (Program.run s words).exitCode ≠ 0) : (Program.run s words).store = s.store := by
  have hwrites : WritesOnSuccess (Program.run s words).outcome := by
    show WritesOnSuccess (Program.outcomeOf s _)
    cases (Invocation.ofWords s.database driverIds words).command with
    | error e => exact fun _ => rfl
    | ok command => exact writesOnSuccess_execute s command
  show (Program.run s words).outcome.written.getD s.store = s.store
  rw [hwrites h]
  rfl

/-- **What fails leaves the file as it was**, whatever the file holds.  To save
or remove a connection step by step faults before the first step that changes
the file.  The same holds of every command line that does not end with a
result, for reasons of its words or of the file, and each of them ends on the
file itself as the program does. -/
theorem failing_leaves_file (s : Surroundings) :
    (∀ c e, ((Filing.save c).on s.store).1 = .error e →
      ((Filing.save c).on s.store).2 = s.store) ∧
    (∀ name e, ((Filing.remove name).on s.store).1 = .error e →
      ((Filing.remove name).on s.store).2 = s.store) ∧
    ∀ words,
      (runInPlace s words).run s.store
        = ((Program.run s words).outcome.ending, (Program.run s words).store) ∧
      (((runInPlace s words).run s.store).1.exitCode ≠ 0 →
        ((runInPlace s words).run s.store).2 = s.store) := by
  refine ⟨fun c e h => ?_, fun name e h => ?_, fun words => ⟨runInPlace_run s words, fun h => ?_⟩⟩
  · rw [Filing.on_save] at h ⊢
    exact Filing.snd_orBefore_of_error h
  · rw [Filing.on_remove] at h ⊢
    exact Filing.snd_orBefore_of_error h
  · rw [runInPlace_run] at h ⊢
    exact store_of_failing h

/-- A file with an entry beside the tables. -/
def oddFile : Surroundings := { store := ⟨some ⟨"a = 1", .everyone⟩⟩ }

/-- The entry stops what would be written, and the file stays. -/
theorem oddFile_stays :
    ((runInPlace oddFile ["connect", "add", "n", "hana", "host=h"]).run oddFile.store).1.exitCode
        = 1 ∧
      ((runInPlace oddFile ["connect", "add", "n", "hana", "host=h"]).run oddFile.store).2
        = oddFile.store := by
  obtain ⟨-, -, hrun⟩ := failing_leaves_file oddFile
  obtain ⟨hagrees, hkeeps⟩ := hrun ["connect", "add", "n", "hana", "host=h"]
  have hexit : ((runInPlace oddFile ["connect", "add", "n", "hana", "host=h"]).run
      oddFile.store).1.exitCode = 1 := by
    -- the words are understood; the file is what fails
    have hask : asked oddFile ["connect", "add", "n", "hana", "host=h"]
        = .ok (.addConnection "n" "hana" ["host=h"]) := by
      rw [asked, driverIds_eq]
      rfl
    rw [hagrees]
    show (Program.run oddFile ["connect", "add", "n", "hana", "host=h"]).outcome.ending.exitCode = 1
    rw [outcome_run hask]
    decide +kernel
  exact ⟨hexit, hkeeps (by rw [hexit]; decide)⟩

/-! ## §4. Encodings. -/

/-- A text of characters that the encoding has can be encoded. -/
theorem fault?_eq_none_iff {e : Encoding} {text : List Char} :
    e.fault? text = none ↔ ∀ c ∈ text, e.has c = true := by
  unfold Encoding.fault?
  split
  next h => exact iff_of_true rfl (List.all_eq_true.1 h)
  next h => exact iff_of_false nofun fun hall => h (List.all_eq_true.2 hall)

/-- **Where the file is written in an encoding, the program runs as ever, unless
it is to write a character that the encoding lacks.**  Then it breaks down, and
leaves an empty file. -/
theorem runIn_eq (e : Encoding) (s : Surroundings) (words : List String) :
    ((∀ text, (Program.run s words).writtenText? = some text → ∀ c ∈ text.toList, e.has c = true) →
      Program.runIn e s words = Program.run s words) ∧
    ∀ text, (Program.run s words).writtenText? = some text →
      (∃ c ∈ text.toList, e.has c = false) →
      (Program.runIn e s words).exitCode = 1 ∧
        (Program.runIn e s words).store.file.map (·.text) = some "" := by
  unfold Program.runIn
  dsimp only
  -- only a run that writes can fail to encode
  cases (Program.run s words).writtenText? with
  | none => exact ⟨fun _ => rfl, nofun⟩
  | some text =>
      rw [Option.bind_some]
      constructor
      · intro h
        rw [fault?_eq_none_iff.2 (h text rfl)]
      · rintro _ ⟨⟩ ⟨c, hc, hlacks⟩
        cases hfault : e.fault? text.toList with
        | none => exact absurd (fault?_eq_none_iff.1 hfault c hc) (by rw [hlacks]; decide)
        | some fault => exact ⟨rfl, rfl⟩

end SqlDialect.CommandLine
