/-
  SqlDialect.Transport.Session
  ────────────────────────────────
  **SESSIONS WITH A CLIENT LIBRARY.**

  A session is a sequence of calls; it ends with a value or with the first
  failure.  What `ensuring` asks for is done however the session ends:

      (s.ensuring after).events = s.events ++ after.events
-/
import SqlDialect.Settings
import SqlDialect.Value.Basic

namespace SqlDialect

/-! ## §1. Events. -/

/-- A call to a client library. -/
inductive Event where
  /-- Open a file with a configuration. -/
  | openFile (path : Value) (config : Settings String)
  /-- Connect with the given settings. -/
  | connect (settings : List (String × Value))
  | startTimer (timeout : Value)
  | cancelTimer
  | openCursor
  | execute (sql : String)
  | fetch
  | closeCursor
  | close
  deriving Repr

/-! ## §2. Sessions. -/

/-- How a sequence of calls ends, and the calls. -/
structure Session (ε α : Type) where
  outcome : Except ε α
  events : List Event

namespace Session

variable {ε ε' α β : Type}

/-- No call and a known end. -/
def ofOutcome (outcome : Except ε α) : Session ε α := ⟨outcome, []⟩

/-- One call. -/
def call (event : Event) (outcome : Except ε α) : Session ε α := ⟨outcome, [event]⟩

/-- Go on with the value, if there is one. -/
def andThen (s : Session ε α) (next : α → Session ε β) : Session ε β :=
  match s.outcome with
  | .error e => ⟨.error e, s.events⟩
  | .ok a => ⟨(next a).outcome, s.events ++ (next a).events⟩

instance : Monad (Session ε) where
  pure a := ofOutcome (.ok a)
  bind := andThen

/-- Report failures in another way. -/
def mapError (f : ε → ε') (s : Session ε α) : Session ε' α :=
  ⟨s.outcome.mapError f, s.events⟩

/-- Do `after` however the session ends; its own failure counts more. -/
def ensuring (s : Session ε α) (after : Session ε Unit) : Session ε α :=
  ⟨match after.outcome with
    | .error e => .error e
    | .ok _ => s.outcome, s.events ++ after.events⟩

/-! ## §3. What the operations do to the calls. -/

@[simp] theorem events_ensuring (s : Session ε α) (after : Session ε Unit) :
    (s.ensuring after).events = s.events ++ after.events := rfl

@[simp] theorem events_mapError (f : ε → ε') (s : Session ε α) :
    (s.mapError f).events = s.events := rfl

/-- After a failure nothing more is called. -/
theorem bind_of_error {s : Session ε α} {e : ε} (h : s.outcome = .error e)
    (next : α → Session ε β) : s >>= next = ⟨.error e, s.events⟩ := by
  show s.andThen next = _
  simp [andThen, h]

/-- After a value the next calls follow. -/
theorem bind_of_ok {s : Session ε α} {a : α} (h : s.outcome = .ok a)
    (next : α → Session ε β) :
    s >>= next = ⟨(next a).outcome, s.events ++ (next a).events⟩ := by
  show s.andThen next = _
  simp [andThen, h]

end Session

end SqlDialect
