/-
  SqlDialect.Proofs.Registry.Failing
  ────────────────────────────────
  **A FAILING LOOKUP LEAVES NO TRACE.**

  A lookup step by step answers as the lookup does, and a fault comes before
  the registry is touched:

      (lookup c id).on s = orBefore s (s.registry.lookup c id)

  So the replies to calls among which a lookup fails are those to the other
  calls, with the fault in between.  A fault is one of drivers if the id is
  unknown or the import of its class fails as imports do.  A class that its
  module lacks, and what a class raises when it is called, are reported as they
  are.
-/
import SqlDialect.Proofs.Registry.History
import SqlDialect.Proofs.Steps
import SqlDialect.Registry.Basic

namespace SqlDialect

/-! ## §1. Faults of drivers. -/

/-- What is raised is a fault of drivers. -/
def Raised.isDriverFault : Raised → Bool
  | .driverFault _ => true
  | .importFault _ | .other .. => false

/-- The fault is one of drivers: nobody knows the id, a fault of importing is
reported as one, or it is raised as one. -/
def LookupError.isDriverFault : LookupError → Bool
  | .notRegistered _ | .notLoaded _ (.onImport (.importFault _)) => true
  | .notLoaded _ (.onImport raised) | .notLoaded _ (.onCall raised) => raised.isDriverFault
  | .notLoaded _ (.missingClass _) => false

namespace Catalogue

/-- What comes of a class: its module is not imported, lacks it, or has it and
the call raises something or makes a driver. -/
inductive Gives (c : Catalogue) (path : ClassPath) : Except LoadFault Driver → Prop
  | noModule {raised : Raised} : c.importModule path.module = .error raised →
      Gives c path (.error (.onImport raised))
  | noClass {m : Module} : c.importModule path.module = .ok m → m.call? path.className = none →
      Gives c path (.error (.missingClass path))
  | broken {m : Module} {raised : Raised} : c.importModule path.module = .ok m →
      m.call? path.className = some (.error raised) → Gives c path (.error (.onCall raised))
  | made {m : Module} {d : Driver} : c.importModule path.module = .ok m →
      m.call? path.className = some (.ok d) → Gives c path (.ok d)

/-- **A class gives what its three steps give.** -/
theorem gives_driverOf (c : Catalogue) (path : ClassPath) : Gives c path (c.driverOf path) := by
  unfold driverOf classIn
  cases hm : c.importModule path.module with
  | error raised => exact .noModule hm
  | ok m =>
      show Gives c path (_ >>= fun made : Except Raised Driver => made.mapError .onCall)
      cases hcall : m.call? path.className with
      | none => exact .noClass hm hcall
      | some made =>
          cases made with
          | error raised => exact .broken hm hcall
          | ok d => exact .made hm hcall

/-- The class makes the driver. -/
def Makes (c : Catalogue) (path : ClassPath) (d : Driver) : Prop :=
  ∃ m, c.importModule path.module = .ok m ∧ m.call? path.className = some (.ok d)

/-- The class gives no driver, and that is a fault of drivers: one of importing is
reported so, and the import or the call may raise one. -/
def IsReported (c : Catalogue) (path : ClassPath) : Prop :=
  (∃ message, c.importModule path.module = .error (.importFault message)) ∨
    (∃ message, c.importModule path.module = .error (.driverFault message)) ∨
    ∃ m message, c.importModule path.module = .ok m ∧
      m.call? path.className = some (.error (.driverFault message))

/-- The class gives no driver, and that is no fault of drivers: the import raises
something else, the module lacks the class, or the call raises something else. -/
def Escapes (c : Catalogue) (path : ClassPath) : Prop :=
  (∃ kind message, c.importModule path.module = .error (.other kind message)) ∨
    ∃ m, c.importModule path.module = .ok m ∧ (m.call? path.className = none ∨
      ∃ raised, m.call? path.className = some (.error raised) ∧ raised.isDriverFault = false)

/-- A driver comes from the class that makes it. -/
theorem driverOf_eq_ok_iff {c : Catalogue} {path : ClassPath} {d : Driver} :
    c.driverOf path = .ok d ↔ c.Makes path d := by
  constructor
  · intro h
    have hgives := gives_driverOf c path
    rw [h] at hgives
    cases hgives with
    | made hm hcall => exact ⟨_, hm, hcall⟩
  · rintro ⟨m, hm, hcall⟩
    rw [driverOf, hm]
    show (classIn path m >>= fun made : Except Raised Driver => made.mapError .onCall) = _
    rw [classIn, hcall]
    rfl

/-- **A class makes a driver, or its fault is one of drivers or escapes**, each
exactly as told. -/
theorem driverOf_cases (c : Catalogue) (id : String) (path : ClassPath) :
    (∃ d, c.driverOf path = .ok d ∧ ¬ c.IsReported path ∧ ¬ c.Escapes path) ∨
      ∃ e, c.driverOf path = .error e ∧
        ((LookupError.notLoaded id e).isDriverFault = true ↔ c.IsReported path) ∧
        ((LookupError.notLoaded id e).isDriverFault = false ↔ c.Escapes path) := by
  have h := gives_driverOf c path
  generalize c.driverOf path = r at h
  -- a module may be missing, a class may be, or calling it may fail
  cases h with
  | @noModule raised hm =>
      refine .inr ⟨_, rfl, ?_⟩
      cases raised <;>
        simp [IsReported, Escapes, hm, LookupError.isDriverFault, Raised.isDriverFault]
  | noClass hm hcall =>
      refine .inr ⟨_, rfl, ?_⟩
      simp [IsReported, Escapes, hm, hcall, LookupError.isDriverFault]
  | @broken m raised hm hcall =>
      refine .inr ⟨_, rfl, ?_⟩
      cases raised <;>
        simp [IsReported, Escapes, hm, hcall, LookupError.isDriverFault,
          Raised.isDriverFault]
  | made hm hcall =>
      refine .inl ⟨_, rfl, ?_⟩
      simp [IsReported, Escapes, hm, hcall]

end Catalogue

/-! ## §2. One lookup. -/

namespace Loading

/-- A driver with the registry that it comes with, or a fault with the one
before. -/
def orBefore (s : InUse) : Except LookupError Found → Except LookupError Registered × InUse
  | .ok found => (.ok found.entry, ⟨found.registry, s.log ++ found.log⟩)
  | .error e => (.error e, s)

/-- A lookup comes to the entry it found, or to its failure. -/
theorem fst_orBefore (s : InUse) (r : Except LookupError Found) :
    (orBefore s r).1 = (·.entry) <$> r := by
  cases r <;> rfl

theorem on_get (next : InUse → Loading Registered) (s : InUse) :
    (do next (← get) : Loading Registered).on s = (next s).on s := rfl

/-- A driver that is made and kept has the next number. -/
theorem on_keep {s : InUse} {id : String} (d : Driver)
    (h : s.registry.registered? id = none) :
    (do keep id (← make d) : Loading Registered).on s =
      orBefore s (.ok ⟨⟨.made s.registry.made, d⟩,
        { s.registry with
          table := s.registry.table.insert id (some ⟨.made s.registry.made, d⟩)
          made := s.registry.made + 1 },
        [Registry.note "Loaded built-in" id]⟩) := by
  show (keep id ⟨.made s.registry.made, d⟩).on
    { s with registry.made := s.registry.made + 1 } = _
  -- to make a driver leaves the table alone, so it is read again as it was
  have hkept : Registry.registered? { s.registry with made := s.registry.made + 1 } id = none := h
  unfold keep
  rw [on_get]
  dsimp only
  rw [hkept]
  rfl

/-- To load step by step is to load. -/
theorem on_load {s : InUse} {id : String} (c : Catalogue) (path : ClassPath)
    (h : s.registry.registered? id = none) :
    (load c id path).on s = orBefore s (s.registry.load c id path) := by
  unfold load Registry.load Catalogue.driverOf
  cases c.importModule path.module with
  | error raised => rfl
  | ok m =>
      -- the import has given the module and changed nothing
      show (ofResult id (Catalogue.classIn path m) >>= _).on s = _
      cases hcall : Catalogue.classIn path m with
      | error e => simp only [Except.mapError, ok_bind, hcall]; rfl
      | ok made =>
          cases made with
          | error raised => simp only [Except.mapError, ok_bind, hcall]; rfl
          | ok d => simp only [Except.mapError, ok_bind, hcall]; exact on_keep d h

/-- **To look up step by step is to look up.** -/
theorem on_lookup (c : Catalogue) (s : InUse) (id : String) :
    (lookup c id).on s = orBefore s (s.registry.lookup c id) := by
  unfold lookup Registry.lookup
  rw [on_get]
  dsimp only
  cases hentry : s.registry.registered? id with
  | some entry =>
      rw [orBefore, List.append_nil]
      rfl
  | none =>
      cases s.registry.builtins.get? id with
      | none => rfl
      | some path => exact on_load c path hentry

/-- **A fault leaves the registry as it was.** -/
theorem on_lookup_of_error {c : Catalogue} {s : InUse} {id : String} {e : LookupError}
    (h : ((lookup c id).on s).1 = .error e) : (lookup c id).on s = (.error e, s) := by
  rw [on_lookup] at h ⊢
  cases hfound : s.registry.lookup c id with
  | error e' =>
      rw [hfound] at h
      rw [← h]
      rfl
  | ok found =>
      rw [hfound] at h
      exact absurd h nofun

end Loading

/-! ## §3. Calls and their replies. -/

namespace Registry

/-- What a call is replied to with. -/
inductive Reply where
  | registered
  | driver (result : Except LookupError Registered)
  | ids (ids : List String)

/-- Make a call of a registry in use. -/
def Call.make (c : Catalogue) : Call → StateM InUse Reply
  | .register id entry => modifyGet fun s =>
      let (registry, log) := s.registry.register id (some entry)
      (.registered, ⟨registry, s.log ++ log⟩)
  | .lookup id => do return .driver (← (Loading.lookup c id).run)
  | .ids => do return .ids (← get).registry.ids

/-- The replies to calls made one after another. -/
def replies (c : Catalogue) : List Call → StateM InUse (List Reply)
  | [] => return []
  | call :: later => do
      let reply ← call.make c
      return reply :: (← replies c later)

/-- A registry of built-in classes that has not been used. -/
def fresh (builtins : Settings ClassPath) : InUse := ⟨{ builtins }, []⟩

variable {c : Catalogue} {builtins : Settings ClassPath} {id : String} {s : InUse}

/-- The first call is replied to first. -/
theorem replies_cons (c : Catalogue) (call : Call) (later : List Call) (s : InUse) :
    (replies c (call :: later)).run s =
      (((call.make c).run s).1 :: ((replies c later).run ((call.make c).run s).2).1,
        ((replies c later).run ((call.make c).run s).2).2) := rfl

/-- Calls go on with the registry that the earlier ones have left. -/
theorem replies_append (c : Catalogue) (earlier later : List Call) (s : InUse) :
    (replies c (earlier ++ later)).run s =
      (((replies c earlier).run s).1 ++ ((replies c later).run ((replies c earlier).run s).2).1,
        ((replies c later).run ((replies c earlier).run s).2).2) := by
  induction earlier generalizing s with
  | nil => rfl
  | cons call earlier ih => rw [List.cons_append, replies_cons, replies_cons, ih]; rfl

/-- Every call is replied to once. -/
theorem length_replies (c : Catalogue) (calls : List Call) (s : InUse) :
    ((replies c calls).run s).1.length = calls.length := by
  induction calls generalizing s with
  | nil => rfl
  | cons call later ih => rw [replies_cons, List.length_cons, List.length_cons, ih]

/-- **A failing lookup among other calls changes no other reply**, and not what they
leave. -/
theorem replies_around_failing {earlier : List Call} {e : LookupError}
    (h : ((Loading.lookup c id).on ((replies c earlier).run s).2).1 = .error e)
    (later : List Call) :
    ∃ before after s', before.length = earlier.length ∧
      (replies c (earlier ++ later)).run s = (before ++ after, s') ∧
      (replies c (earlier ++ .lookup id :: later)).run s
        = (before ++ .driver (.error e) :: after, s') := by
  have hlookup := Loading.on_lookup_of_error h
  have hmake : (Call.make c (.lookup id)).run ((replies c earlier).run s).2
      = (.driver (.error e), ((replies c earlier).run s).2) := by
    show (Reply.driver ((Loading.lookup c id).on _).1, ((Loading.lookup c id).on _).2) = _
    rw [hlookup]
  refine ⟨_, _, _, length_replies c earlier s, replies_append c earlier later s, ?_⟩
  rw [replies_append, replies_cons, hmake]

/-- A call does to the registry what it is told to. -/
theorem registry_make (c : Catalogue) (call : Call) (s : InUse) :
    ((call.make c).run s).2.registry = call.run c s.registry := by
  cases call with
  | register id entry => rfl
  | ids => rfl
  | lookup id =>
      show ((Loading.lookup c id).on s).2.registry = _
      rw [Loading.on_lookup, Call.run]
      cases s.registry.lookup c id <;> rfl

/-- The calls leave the registry that they tell of. -/
theorem registry_replies (c : Catalogue) (builtins : Settings ClassPath) (calls : List Call) :
    ((replies c calls).run (fresh builtins)).2.registry = after c builtins calls.reverse := by
  induction calls using List.reverseRecOn with
  | nil => rfl
  | append_singleton calls call ih =>
      -- the history has the latest call first
      rw [replies_append, List.reverse_append, replies_cons]
      show ((call.make c).run _).2.registry = call.run c (after c builtins calls.reverse)
      rw [registry_make, ih]

/-! ## §4. Registries with broken classes. -/

/-- How a lookup ends. -/
inductive LooksUp (c : Catalogue) (r : Registry) (id : String) :
    Except LookupError Found → Prop
  | kept {entry : Registered} :
      r.registered? id = some entry → LooksUp c r id (.ok ⟨entry, r, []⟩)
  | made {path : ClassPath} {d : Driver} :
      r.registered? id = none → r.builtins.get? id = some path →
        c.driverOf path = .ok d →
          LooksUp c r id (.ok ⟨⟨.made r.made, d⟩,
            { r with table := r.table.insert id (some ⟨.made r.made, d⟩), made := r.made + 1 },
            [note "Loaded built-in" id]⟩)
  | broken {path : ClassPath} {e : LoadFault} :
      r.registered? id = none → r.builtins.get? id = some path →
        c.driverOf path = .error e → LooksUp c r id (.error (.notLoaded id e))
  | unknown :
      r.registered? id = none → r.builtins.get? id = none →
        LooksUp c r id (.error (.notRegistered id))

/-- One lookup ends so. -/
theorem looksUp_lookup (c : Catalogue) (r : Registry) (id : String) :
    LooksUp c r id (r.lookup c id) := by
  unfold Registry.lookup load
  cases hentry : r.registered? id with
  | some entry => exact .kept hentry
  | none =>
      cases hpath : r.builtins.get? id with
      | none => exact .unknown hentry hpath
      | some path =>
          dsimp only
          cases hd : c.driverOf path with
          | error e => exact .broken hentry hpath hd
          | ok d => exact .made hentry hpath hd

/-- No call changes the built-in classes. -/
theorem builtins_run (c : Catalogue) (call : Call) (r : Registry) :
    (call.run c r).builtins = r.builtins := by
  cases call with
  | register id entry => rfl
  | ids => rfl
  | lookup id =>
      rw [Call.run]
      have h := looksUp_lookup c r id
      generalize r.lookup c id = found at h
      cases h <;> rfl

/-- The built-in classes stay what they are. -/
theorem builtins_after (c : Catalogue) (builtins : Settings ClassPath) (history : List Call) :
    (after c builtins history).builtins = builtins := by
  induction history with
  | nil => rfl
  | cons call history ih => rw [after, builtins_run, ih]

/-- No built-in driver can be made for the id. -/
def HasNoBuiltin (c : Catalogue) (builtins : Settings ClassPath) (id : String) : Prop :=
  ∀ path d, builtins.get? id = some path → c.driverOf path ≠ .ok d

variable {history : List Call}

/-- A class that does not load leaves its id without a built-in driver. -/
theorem HasNoBuiltin.of_path {path : ClassPath} (hpath : builtins.get? id = some path)
    (hd : ∀ d, c.driverOf path ≠ .ok d) : HasNoBuiltin c builtins id := by
  intro path' d hpath'
  obtain rfl := Option.some.inj (hpath.symm.trans hpath')
  exact hd d

/-- A class with a fault makes no driver. -/
theorem HasNoBuiltin.of_fault {path : ClassPath} (hpath : builtins.get? id = some path)
    (h : c.IsReported path ∨ c.Escapes path) : HasNoBuiltin c builtins id := by
  refine .of_path hpath fun d hd => ?_
  obtain ⟨_, -, hreported, hescapes⟩ | ⟨e, he, -⟩ := c.driverOf_cases id path
  · exact h.elim hreported hescapes
  · exact absurd (hd.symm.trans he) nofun

/-- There is no built-in driver under another id. -/
theorem HasNoBuiltin.of_none (hpath : builtins.get? id = none) : HasNoBuiltin c builtins id :=
  fun _ _ hpath' => absurd (hpath.symm.trans hpath') nofun

/-- **Nothing but what is registered is kept under an id without a built-in
driver.** -/
theorem registered?_after (h : HasNoBuiltin c builtins id) :
    (after c builtins history).registered? id = registeredLast? id history := by
  induction history with
  | nil => rfl
  | cons call history ih =>
      rw [after]
      cases call with
      | register i entry =>
          show ((after c builtins history).register i (some entry)).1.registered? id = _
          rw [registered?_register, ih, registeredLast?]
      | ids => exact ih
      | lookup i =>
          rw [Call.run]
          have hfound := looksUp_lookup c (after c builtins history) i
          generalize (after c builtins history).lookup c i = found at hfound
          cases hfound with
          | kept => exact ih
          | broken => exact ih
          | unknown => exact ih
          | made _ hpath hd =>
              -- a driver is made for another id only
              rw [builtins_after] at hpath
              have hne : i ≠ id := by
                rintro rfl
                exact h _ _ hpath hd
              rw [registered?, Settings.get?_insert, if_neg hne]
              exact ih

/-- What a lookup answers after some calls. -/
inductive Answers (c : Catalogue) (builtins : Settings ClassPath) (history : List Call)
    (id : String) : Except LookupError Registered → Prop
  | found {entry : Registered} :
      ¬ (registeredLast? id history = none ∧ HasNoBuiltin c builtins id) →
        Answers c builtins history id (.ok entry)
  | broken {path : ClassPath} {e : LoadFault} :
      registeredLast? id history = none → builtins.get? id = some path →
        c.driverOf path = .error e →
          Answers c builtins history id (.error (.notLoaded id e))
  | unknown :
      registeredLast? id history = none → builtins.get? id = none →
        Answers c builtins history id (.error (.notRegistered id))

/-- **A lookup gives a driver** unless nothing is registered under the id and no
built-in driver can be made for it. -/
theorem answers_answer (c : Catalogue) (builtins : Settings ClassPath) (history : List Call)
    (id : String) : Answers c builtins history id (answer c builtins history id) := by
  have hfound := looksUp_lookup c (after c builtins history) id
  unfold answer
  generalize (after c builtins history).lookup c id = found at hfound
  cases hfound with
  | kept hentry =>
      -- what is kept is registered, or has been made for a class that is found
      refine .found ?_
      rintro ⟨hlast, hbuiltin⟩
      rw [registered?_after hbuiltin, hlast] at hentry
      exact absurd hentry nofun
  | made _ hpath hd =>
      rw [builtins_after] at hpath
      exact .found fun h => h.2 _ _ hpath hd
  | broken hnone hpath he =>
      rw [builtins_after] at hpath
      have hbuiltin := HasNoBuiltin.of_path hpath fun d hd => absurd (hd.symm.trans he) nofun
      exact .broken (registered?_after hbuiltin ▸ hnone) hpath he
  | unknown hnone hpath =>
      rw [builtins_after] at hpath
      exact .unknown (registered?_after (HasNoBuiltin.of_none hpath) ▸ hnone) hpath

/-- **What a lookup answers**, exactly: a driver if one is registered under the id or
its built-in class makes one; else a fault that is none of drivers if the class has
such a fault, and one of drivers if its class has one or the id is not built in. -/
theorem answer_iff (c : Catalogue) (builtins : Settings ClassPath) (history : List Call)
    (id : String) :
    ((∃ entry, answer c builtins history id = .ok entry) ↔
      registeredLast? id history ≠ none ∨
        ∃ path d, builtins.get? id = some path ∧ c.Makes path d) ∧
    ((∃ e, answer c builtins history id = .error e ∧ e.isDriverFault = false) ↔
      registeredLast? id history = none ∧
        ∃ path, builtins.get? id = some path ∧ c.Escapes path) ∧
    ((∃ e, answer c builtins history id = .error e ∧ e.isDriverFault = true) ↔
      registeredLast? id history = none ∧
        (builtins.get? id = none ∨
          ∃ path, builtins.get? id = some path ∧ c.IsReported path)) := by
  have h := answers_answer c builtins history id
  generalize answer c builtins history id = reply at h
  cases h with
  | @found entry hnot =>
      refine ⟨iff_of_true ⟨_, rfl⟩ ?_, iff_of_false (fun ⟨_, he, _⟩ => absurd he nofun) ?_,
        iff_of_false (fun ⟨_, he, _⟩ => absurd he nofun) ?_⟩
      · by_contra hnone
        rw [not_or, not_not] at hnone
        exact hnot ⟨hnone.1, fun path d hpath hd =>
          hnone.2 ⟨path, d, hpath, Catalogue.driverOf_eq_ok_iff.1 hd⟩⟩
      · rintro ⟨hlast, path, hpath, hfault⟩
        exact hnot ⟨hlast, .of_fault hpath (.inr hfault)⟩
      · rintro ⟨hlast, hpath | ⟨path, hpath, hfault⟩⟩
        · exact hnot ⟨hlast, .of_none hpath⟩
        · exact hnot ⟨hlast, .of_fault hpath (.inl hfault)⟩
  | @broken path e hlast hpath he =>
      have hmakes : ∀ d, ¬ c.Makes path d := fun d hd =>
        nomatch he.symm.trans (Catalogue.driverOf_eq_ok_iff.2 hd)
      obtain ⟨d, hd, -⟩ | ⟨e', he', hdriver, hother⟩ := c.driverOf_cases id path
      · exact absurd (hd.symm.trans he) nofun
      · obtain rfl := Except.error.inj (he.symm.trans he')
        simp [hlast, hpath, hdriver, hother, hmakes]
  | unknown hlast hpath => simp [hlast, hpath, LookupError.isDriverFault]

/-! ## §5. No trace. -/

/-- **A lookup that fails leaves no trace.**  Whatever modules can be imported, and
whatever their classes do when they are called: after any calls of a registry with
any built-in classes, a lookup step by step answers as the lookup does.  It gives a
driver exactly if one is registered under the id or its built-in class makes one.
Its fault is none of drivers exactly if nothing is registered and the fault of the
class escapes; it is one of drivers exactly if nothing is registered and the id is
not built in or the fault of its class is reported.  Whatever the fault, the
registry is the same afterwards, so that all later replies, those to `ids`
included, are what they are without the call. -/
theorem lookup_fails_without_trace (c : Catalogue) (builtins : Settings ClassPath)
    (earlier : List Call) (id : String) :
    let s := ((replies c earlier).run (fresh builtins)).2
    let reply := ((Loading.lookup c id).on s).1
    reply = answer c builtins earlier.reverse id ∧
    ((∃ entry, reply = .ok entry) ↔
      registeredLast? id earlier.reverse ≠ none ∨
        ∃ path d, builtins.get? id = some path ∧ c.Makes path d) ∧
    ((∃ e, reply = .error e ∧ e.isDriverFault = false) ↔
      registeredLast? id earlier.reverse = none ∧
        ∃ path, builtins.get? id = some path ∧ c.Escapes path) ∧
    ((∃ e, reply = .error e ∧ e.isDriverFault = true) ↔
      registeredLast? id earlier.reverse = none ∧
        (builtins.get? id = none ∨
          ∃ path, builtins.get? id = some path ∧ c.IsReported path)) ∧
    ∀ e, reply = .error e → ((Loading.lookup c id).on s).2 = s ∧
      ∀ later, ∃ before after s', before.length = earlier.length ∧
        (replies c (earlier ++ later)).run (fresh builtins) = (before ++ after, s') ∧
        (replies c (earlier ++ .lookup id :: later)).run (fresh builtins)
          = (before ++ .driver (.error e) :: after, s') := by
  intro s reply
  -- a lookup after some calls answers what they give
  have hreply : reply = answer c builtins earlier.reverse id := by
    show ((Loading.lookup c id).on s).1 = _
    rw [Loading.on_lookup, Loading.fst_orBefore, registry_replies, answer]
  have hanswer := answer_iff c builtins earlier.reverse id
  rw [← hreply] at hanswer
  refine ⟨hreply, hanswer.1, hanswer.2.1, hanswer.2.2, fun e he =>
    ⟨?_, replies_around_failing he⟩⟩
  exact congrArg Prod.snd (Loading.on_lookup_of_error he)

/-- A class that its module lacks is a fault when it is asked for, but not one of
drivers. -/
theorem missing_class_is_no_driver_fault :
    ∃ e, ((Loading.lookup .standard "ghost").on (fresh
        (.ofList [("ghost", ⟨"dbdialects.drivers.generic", "Ghost"⟩)]))).1 = .error e ∧
      e.isDriverFault = false := by
  have himport : Catalogue.standard.importModule "dbdialects.drivers.generic"
      = .ok (Catalogue.moduleOf [("GenericSQLDriver", .standard)]) := by
    have hdot : "dbdialects.drivers.generic".startsWith "." = false := by simp
    simp only [Catalogue.standard, hdot]
    rfl
  exact (lookup_fails_without_trace .standard _ [] "ghost").2.2.1.2
    ⟨rfl, _, rfl, .inr ⟨_, himport, .inl rfl⟩⟩

end Registry

end SqlDialect
