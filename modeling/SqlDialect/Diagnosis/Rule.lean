/-
  SqlDialect.Diagnosis.Rule
  ────────────────────────────────
  **DIAGNOSES AND THEIR RULES.**

  A diagnosis names the category of a failure and keeps the text of the
  database untouched.  Each category but the last has a text for users;
  without one the raw text is shown.  A rule gives a category to the
  messages that match its pattern as a whole.  Rules are tried in order and
  the first match decides, so narrow rules come before broad ones.
-/
import SqlDialect.Diagnosis.Pattern

namespace SqlDialect

/-! ## §1. Categories. -/

/-- The kinds of connection failure that users can act on. -/
inductive Category where
  | cannotConnect
  | databaseName
  | usernameOrPassword
  | hostname
  | unclassified
  deriving Repr, DecidableEq

namespace Category

/-- All categories. -/
def all : List Category :=
  [.cannotConnect, .databaseName, .usernameOrPassword, .hostname, .unclassified]

/-- The stable name of a category. -/
def text : Category → String
  | .cannotConnect => "cannot_connect_check_host_and_port"
  | .databaseName => "database_name_incorrect"
  | .usernameOrPassword => "username_or_password_incorrect"
  | .hostname => "invalid_hostname"
  | .unclassified => "unclassified"

/-- The category with the given name. -/
def ofText? (s : String) : Option Category :=
  all.find? (·.text == s)

/-- The text for users. -/
def message? : Category → Option String
  | .cannotConnect =>
      some "Couldn't connect to the database. Check that the host and port are correct."
  | .databaseName => some "The database name looks incorrect."
  | .usernameOrPassword => some "The username or password looks incorrect."
  | .hostname => some "The host looks invalid. Double-check it and try again."
  | .unclassified => none

/-- A category is found by its name. -/
@[simp] theorem ofText?_text (c : Category) : ofText? c.text = some c := by
  cases c <;> rfl

end Category

/-! ## §2. Diagnoses. -/

/-- A classified failure with the text of the database. -/
structure Diagnosis where
  category : Category
  message : String
  deriving Repr, DecidableEq

namespace Diagnosis

/-- The failure has a category of its own. -/
def isClassified (d : Diagnosis) : Bool :=
  d.category != .unclassified

/-- The text for users from a table of texts, else the raw text. -/
def humanize (d : Diagnosis) (messages : Category → Option String) : String :=
  (messages d.category).getD d.message

end Diagnosis

/-! ## §3. Rules. -/

/-- A pattern of messages and the category they belong to. -/
structure DiagnosisRule where
  pattern : Pattern
  category : Category
  ignoreCase : Bool := false
  deriving Repr, DecidableEq

namespace DiagnosisRule

/-- The rule applies to the whole message. -/
def applies (r : DiagnosisRule) (message : String) : Bool :=
  r.pattern.matchesAll r.ignoreCase message.toList

end DiagnosisRule

/-- The diagnosis of a message by ordered rules. -/
def diagnose (rules : List DiagnosisRule) (message : String) : Diagnosis :=
  ⟨((rules.find? (·.applies message)).map (·.category)).getD .unclassified, message⟩

/-- The message is kept. -/
@[simp] theorem message_diagnose (rules : List DiagnosisRule) (message : String) :
    (diagnose rules message).message = message := rfl

/-- The first rule that applies decides. -/
theorem diagnose_cons (r : DiagnosisRule) (rules : List DiagnosisRule) (message : String) :
    diagnose (r :: rules) message
      = if r.applies message then ⟨r.category, message⟩ else diagnose rules message := by
  unfold diagnose
  by_cases h : r.applies message <;> simp [h]

end SqlDialect
