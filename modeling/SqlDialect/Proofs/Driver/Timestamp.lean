/-
  SqlDialect.Proofs.Driver.Timestamp
  ────────────────────────────────
  **TIMES OF TIMESTAMPS IN MILLISECONDS.**

  A timestamp in milliseconds is divided without parentheses, so its text
  divides what the last operand is and not always the whole:

      a + b  ↦  epoch + (a + b / 1000) * INTERVAL '1' SECOND

  The count of seconds is the whole divided exactly if no sum and no
  concatenation is outermost.
-/
import SqlDialect.Proofs.Driver.Bucket
import SqlDialect.Proofs.Sql.Division

namespace SqlDialect.Driver

open SqlDialect.Sql SqlDialect.Text SqlDialect.Number

variable {d : Driver} {dialect : Dialect} {e e' : Expr}

/-! ## §1. Seconds behind the epoch. -/

/-- The epoch is spelled alike in all dialects. -/
theorem respelled_epoch (d : Driver) : d.epoch.respelled dialect = d.epoch := by
  have hcast : (Expr.cast (.text "1970-01-01") ⟨.timestamp, []⟩).respelled dialect
      = .cast (.text "1970-01-01") ⟨.timestamp, []⟩ := by
    obtain ⟨system, words⟩ := dialect
    cases system <;> rfl
  unfold epoch
  split
  · rfl
  · exact hcast
  · exact hcast

/-- The epoch is read as it is. -/
theorem isReadAs_epoch (d : Driver) (hd : dialect.quoteStyle = .ansi) :
    d.epoch.IsReadAs dialect unaryLevel d.epoch := by
  have h := (safe_epoch d).isReadAs hd
  rw [respelled_epoch, tightness_epoch] at h
  exact h

/-- The seconds stand alone, so they are what their text is read as. -/
theorem isReadAs_addSeconds (hd : dialect.quoteStyle = .ansi)
    (h : e.IsReadAs dialect 0 e') :
    (d.addSeconds d.epoch e).IsReadAs dialect 0 (d.addSeconds d.epoch e') := by
  have hsum : (Expr.add d.epoch (.mul (.paren e) .oneSecond)).IsReadAs dialect 0
      (.add d.epoch (.mul (.paren e') .oneSecond)) := by
    -- the parentheses shield the seconds from the product
    have hproduct : (Expr.mul (.paren e) .oneSecond).IsReadAs dialect Operator.mul.level
        (.mul (.paren e') .oneSecond) :=
      (h.paren.loosen (Nat.le_refl _) (by decide)).binary Expr.isReadAs_oneSecond
    have hepoch := (isReadAs_epoch d hd).loosen (Nat.le_refl _)
      (Nat.le_of_lt (level_lt_unaryLevel .add))
    exact (hepoch.binary hproduct).loosen (by decide) (Nat.zero_le _)
  -- arguments are read at any level
  have hcall : (Expr.call "ADD_SECONDS" [d.epoch, e]).IsReadAs dialect 0
      (.call "ADD_SECONDS" [d.epoch, e']) := by
    have hepoch := (isReadAs_epoch d hd).loosen (Nat.le_refl _) (Nat.zero_le _)
    have hargs : List.Forall₂ (Expr.IsReadAs dialect · 0 ·) [d.epoch, e] [d.epoch, e'] :=
      .cons hepoch (.cons h .nil)
    exact (Expr.IsReadAs.call (isFunctionName_of_mem (by decide)) hargs).loosen (Nat.le_refl _)
      (Nat.zero_le _)
  unfold addSeconds
  split
  · exact hcall
  · exact hsum
  · exact hsum

/-- The rendered sum needs no trimming. -/
theorem tight_addSeconds (hd : dialect.quoteStyle = .ansi) (e : Expr) :
    StartsTight ((d.addSeconds d.epoch e).renderChars dialect) ∧
      EndsTight ((d.addSeconds d.epoch e).renderChars dialect) := by
  have hsum : StartsTight ((Expr.add d.epoch (.mul (.paren e) .oneSecond)).renderChars dialect) ∧
      EndsTight ((Expr.add d.epoch (.mul (.paren e) .oneSecond)).renderChars dialect) :=
    ⟨Expr.startsTight_binary .add ((safe_epoch d).tight hd).1 _,
      Expr.endsTight_binary .add _ (Expr.endsTight_binary .mul _ Expr.tight_oneSecond.2)⟩
  unfold addSeconds
  split
  · exact Expr.tight_call (isFunctionName_of_mem (by decide)) _
  · exact hsum
  · exact hsum

/-- Seconds behind the epoch are read as such. -/
theorem read_addSeconds (d : Driver) (hd : dialect.quoteStyle = .ansi)
    (h : e.IsReadAs dialect 0 e') :
    Expr.read dialect ((d.addSeconds d.epoch e).render dialect)
      = .ok (d.addSeconds d.epoch e') :=
  (isReadAs_addSeconds hd h).read_render (tight_addSeconds hd e).1 (tight_addSeconds hd e).2

/-- Other seconds give another time. -/
theorem addSeconds_inj {a b : Expr} (h : d.addSeconds d.epoch a = d.addSeconds d.epoch b) :
    a = b := by
  unfold addSeconds at h
  split at h
  · simpa using h
  · simpa [Expr.add, Expr.mul] using h
  · simpa [Expr.add, Expr.mul] using h

/-! ## §2. Milliseconds. -/

/-- **A timestamp in milliseconds has its last operand divided.**  It is the
epoch and the whole divided exactly if the outermost operator binds as tightly
as a division; in parentheses the whole always is. -/
theorem milliseconds_divide_last_operand (hd : dialect.quoteStyle = .ansi)
    (h : Expr.read dialect (e.render dialect) = .ok e') :
    Expr.read dialect ((d.ofTimestamp e .milliseconds).render dialect)
        = .ok (d.addSeconds d.epoch (e'.dividedBehind 1000)) ∧
      (Expr.read dialect ((d.ofTimestamp e .milliseconds).render dialect)
          = .ok (d.addSeconds d.epoch (.div e' (.ofNat 1000)))
        ↔ Operator.div.level ≤ e'.tightness) ∧
      Expr.read dialect
          ((d.ofTimestamp (.div (.paren e) (.ofNat 1000)) .seconds).render dialect)
        = .ok (d.addSeconds d.epoch (.div (.paren e') (.ofNat 1000))) := by
  -- what `e` is read as by itself, it is read as behind the epoch
  have he := isReadAs_of_read h
  have hmillis := read_addSeconds d hd (he.div 1000)
  have hparens := read_addSeconds d hd ((he.paren.loosen (Nat.le_refl _) (Nat.zero_le _)).div 1000)
  refine ⟨hmillis, ?_, hparens⟩
  rw [show d.ofTimestamp e .milliseconds = d.addSeconds d.epoch (.div e (.ofNat 1000)) from rfl,
    hmillis, ← dividedBehind_eq_div_iff (n := 1000)]
  constructor
  · intro hsame
    exact addSeconds_inj (Except.ok.inj hsame)
  · intro hsame
    rw [hsame]

/-- Of a sum in milliseconds only the second number is divided. -/
theorem milliseconds_of_sum :
    standard.dialect.quoteStyle = .ansi ∧
      Expr.read standard.dialect ((Expr.add (.col "a") (.col "b")).render standard.dialect)
        = .ok (.add (.col "a") (.col "b")) ∧
      (standard.ofTimestamp (.add (.col "a") (.col "b")) .milliseconds).render standard.dialect
        = "CAST('1970-01-01' AS TIMESTAMP) + (a + b / 1000) * INTERVAL '1' SECOND" ∧
      Expr.read standard.dialect
          "CAST('1970-01-01' AS TIMESTAMP) + (a + b / 1000) * INTERVAL '1' SECOND"
        = .ok (standard.addSeconds standard.epoch
            (.add (.col "a") (.div (.col "b") (.ofNat 1000)))) ∧
      Expr.read standard.dialect
          "CAST('1970-01-01' AS TIMESTAMP) + (a + b / 1000) * INTERVAL '1' SECOND"
        ≠ .ok (standard.addSeconds standard.epoch
            (.div (.add (.col "a") (.col "b")) (.ofNat 1000))) := by
  -- neither column is named like a keyword
  have hcol : ∀ name ∈ ["a", "b"], (Expr.col name).PrecedenceSafe standard.dialect := by
    have hnames : ∀ name ∈ ["a", "b"], standard.dialect.isKeyword name = false ∧
        name.toList.getLast? ≠ some '\n' := by
      decide +kernel
    exact fun name hname => .col ⟨(hnames name hname).1, fun _ => (hnames name hname).2⟩
  have hsafe : (Expr.add (.col "a") (.col "b")).PrecedenceSafe standard.dialect :=
    safe_binary (hcol "a" (by simp)) (hcol "b" (by simp)) rfl rfl
  have hread : Expr.read standard.dialect
      ((Expr.add (.col "a") (.col "b")).render standard.dialect)
        = .ok (.add (.col "a") (.col "b")) := hsafe.read_render rfl
  have htext : (standard.ofTimestamp (.add (.col "a") (.col "b")) .milliseconds).render
      standard.dialect
        = "CAST('1970-01-01' AS TIMESTAMP) + (a + b / 1000) * INTERVAL '1' SECOND" := by
    decide +kernel
  obtain ⟨hmillis, hwhole, -⟩ := milliseconds_divide_last_operand (d := standard) rfl hread
  rw [htext] at hmillis hwhole
  exact ⟨rfl, hread, htext, hmillis, fun h => absurd (hwhole.1 h) (by decide)⟩

end SqlDialect.Driver
