/-
  SqlDialect.Proofs.Steps
  ────────────────────────────────
  **STEPS THAT MAY FAIL.**

  Steps give a value if each of them gives one, and fail with the first that
  does.  A step that gives a value for every item of a list gives the list of
  the values; a step that fails for one item fails for the list:

      (∀ a ∈ as, f a = pure (g a)) → as.mapM f = pure (as.map g)
-/

namespace SqlDialect

variable {α β ε : Type}

/-! ## §1. One step after another. -/

theorem ok_bind (a : α) (next : α → Except ε β) : (Except.ok a >>= next) = next a :=
  rfl

/-- Steps that give a value have given one each. -/
theorem exists_of_bind_eq_ok {x : Except ε α} {next : α → Except ε β} {b : β}
    (h : x >>= next = .ok b) : ∃ a, x = .ok a ∧ next a = .ok b := by
  cases x with
  | error e => exact absurd h nofun
  | ok a => exact ⟨a, rfl, h⟩

/-- A fault of steps is that of one of them. -/
theorem error_of_bind_eq_error {x : Except ε α} {next : α → Except ε β} {e : ε}
    (h : x >>= next = .error e) : x = .error e ∨ ∃ a, x = .ok a ∧ next a = .error e := by
  cases x with
  | error e' => exact .inl (congrArg Except.error (Except.error.inj h))
  | ok a => exact .inr ⟨a, rfl, h⟩

/-- A value that is changed comes without the fault it would have come with. -/
theorem eq_error_of_map_eq_error {f : α → β} {x : Except ε α} {e : ε}
    (h : f <$> x = .error e) : x = .error e := by
  cases x with
  | error e' => exact congrArg Except.error (Except.error.inj h)
  | ok a => exact absurd h nofun

/-- A value comes without the fault that would have been reported otherwise. -/
theorem ok_of_mapError_eq_ok {ε' : Type} {f : ε → ε'} {x : Except ε α} {a : α}
    (h : x.mapError f = .ok a) : x = .ok a := by
  cases x with
  | error e => exact absurd h nofun
  | ok b => exact congrArg Except.ok (Except.ok.inj h)

/-- A fault that is reported as another is there. -/
theorem exists_of_mapError_eq_error {ε' : Type} {f : ε → ε'} {x : Except ε α} {e' : ε'}
    (h : x.mapError f = .error e') : ∃ e, x = .error e ∧ e' = f e := by
  cases x with
  | error e => exact ⟨e, rfl, (Except.error.inj h).symm⟩
  | ok a => exact absurd h nofun

/-- A result that is there was no failure. -/
theorem eq_ok_of_toOption_eq_some {x : Except ε α} {a : α} (h : x.toOption = some a) :
    x = .ok a := by
  cases x with
  | error e => exact absurd h nofun
  | ok b => exact congrArg Except.ok (Option.some.inj h)

/-- Steps that agree up to the fault give the same up to the fault. -/
theorem toOption_bind_congr {x y : Except ε α} {next next' : α → Except ε β}
    (h : x.toOption = y.toOption) (hnext : ∀ a, (next a).toOption = (next' a).toOption) :
    (x >>= next).toOption = (y >>= next').toOption := by
  cases x with
  | error e =>
      cases y with
      | error e' => rfl
      | ok b => exact absurd h nofun
  | ok a =>
      cases y with
      | error e' => exact absurd h nofun
      | ok b =>
          obtain rfl : a = b := Option.some.inj h
          exact hnext a

/-! ## §2. The same step for every item. -/

/-- Steps that each succeed succeed together. -/
theorem mapM_eq_pure {m : Type → Type} [Monad m] [LawfulMonad m] {f : α → m β} {g : α → β} :
    ∀ {as : List α}, (∀ a ∈ as, f a = pure (g a)) → as.mapM f = pure (as.map g)
  | [], _ => by rw [List.mapM_nil, List.map_nil]
  | a :: as, h => by
      have ih := mapM_eq_pure fun (x : α) (hx : x ∈ as) => h x (by simp [hx])
      rw [List.mapM_cons, h a (by simp), ih]
      simp

/-- A step that can give one value only gives the list of these values. -/
theorem eq_map_of_mapM_eq_ok {f : α → Except ε β} {g : α → β}
    (hg : ∀ a b, f a = .ok b → b = g a) : ∀ {as : List α} {bs : List β},
      as.mapM f = .ok bs → bs = as.map g ∧ ∀ a ∈ as, f a = .ok (g a)
  | [], bs, h => by
      rw [List.mapM_nil] at h
      exact ⟨(Except.ok.inj h).symm, fun _ ha => absurd ha List.not_mem_nil⟩
  | a :: as, bs, h => by
      rw [List.mapM_cons] at h
      obtain ⟨b, hb, h⟩ := exists_of_bind_eq_ok h
      obtain ⟨bs', hbs, h⟩ := exists_of_bind_eq_ok h
      obtain rfl := hg a b hb
      obtain ⟨rfl, hrest⟩ := eq_map_of_mapM_eq_ok hg hbs
      exact ⟨(Except.ok.inj h).symm, List.forall_mem_cons.2 ⟨hb, hrest⟩⟩

/-- One step without a result leaves the list without one. -/
theorem mapM_eq_none {f : α → Option β} {a : α} (h : f a = none) :
    ∀ {as : List α}, a ∈ as → as.mapM f = none
  | b :: as, hmem => by
      rw [List.mapM_cons]
      obtain rfl | hrest := List.mem_cons.1 hmem
      · rw [h]
        rfl
      · rw [mapM_eq_none h hrest]
        cases f b <;> rfl

/-- Steps fail with the fault of one of them. -/
theorem exists_of_mapM_eq_error {f : α → Except ε β} {e : ε} : ∀ {as : List α},
    as.mapM f = .error e → ∃ a ∈ as, f a = .error e
  | [], h => by
      rw [List.mapM_nil] at h
      cases h
  | a :: as, h => by
      rw [List.mapM_cons] at h
      obtain ha | ⟨b, -, h⟩ := error_of_bind_eq_error h
      · exact ⟨a, List.mem_cons_self .., ha⟩
      · obtain has | ⟨bs, -, h⟩ := error_of_bind_eq_error h
        · obtain ⟨x, hx, hfail⟩ := exists_of_mapM_eq_error has
          exact ⟨x, List.mem_cons_of_mem a hx, hfail⟩
        · cases h

/-- The steps fail as soon as one of them does. -/
theorem mapM_eq_error_iff {f : α → Except ε β} : ∀ {as : List α},
    (∃ e, as.mapM f = .error e) ↔ ∃ a ∈ as, ∃ e, f a = .error e
  | [] => by
      rw [List.mapM_nil]
      exact iff_of_false (fun ⟨_, h⟩ => nomatch h) (fun ⟨_, h, _⟩ => nomatch h)
  | a :: as => by
      have ih : (∃ e, as.mapM f = .error e) ↔ ∃ a ∈ as, ∃ e, f a = .error e :=
        mapM_eq_error_iff
      rw [List.mapM_cons]
      cases ha : f a with
      | error e => exact iff_of_true ⟨e, rfl⟩ ⟨a, by simp, e, ha⟩
      | ok b =>
          -- what is put in front makes no difference to a failure
          have hstep : (∃ e, (do let bs ← as.mapM f; pure (b :: bs) : Except ε (List β))
              = .error e) ↔ ∃ e, as.mapM f = .error e := by
            cases as.mapM f with
            | error e => exact iff_of_true ⟨e, rfl⟩ ⟨e, rfl⟩
            | ok bs => exact iff_of_false (fun ⟨_, h⟩ => nomatch h) (fun ⟨_, h⟩ => nomatch h)
          show (∃ e, (do let bs ← as.mapM f; pure (b :: bs) : Except ε (List β)) = .error e) ↔ _
          rw [hstep, ih]
          constructor
          · rintro ⟨x, hx, hfail⟩
            exact ⟨x, List.mem_cons_of_mem a hx, hfail⟩
          · rintro ⟨x, hx, e, hfail⟩
            obtain rfl | hx := List.mem_cons.1 hx
            · exact absurd (ha.symm.trans hfail) nofun
            · exact ⟨x, hx, e, hfail⟩

end SqlDialect
