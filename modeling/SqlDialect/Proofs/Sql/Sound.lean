/-
  SqlDialect.Proofs.Sql.Sound
  ────────────────────────────────
  **WHAT IS READ HAS BEEN SPELLED.**

  Reading takes the lexemes of a phrase off the front and leaves the rest:

      readLevel d n level ls = .ok (e, rest) →
        ∃ ms, ls = ms ++ rest ∧ Spells d (expr level e) ms

  The induction is on the bound, for all five reading functions at once.
-/
import SqlDialect.Proofs.Sql.Grammar
import SqlDialect.Proofs.Steps

namespace SqlDialect.Sql

variable {d : Dialect}

/-! ## §1. Parts. -/

/-- The mark that is expected stands in front. -/
theorem eq_of_expectMark {m : Mark} {ls rest : List Lexeme}
    (h : expectMark m ls = .ok rest) : ls = .mark m :: rest := by
  unfold expectMark at h
  split at h
  next l t =>
    split at h
    next hl =>
      cases h
      rw [hl]
    next => exact absurd h nofun
  next => exact absurd h nofun

/-- The keyword that is expected stands in front, in some casing. -/
theorem eq_of_expectKeyword {keyword : String} {ls rest : List Lexeme}
    (h : expectKeyword keyword ls = .ok rest) :
    ∃ l, ls = l :: rest ∧ isKeyword keyword l = true := by
  unfold expectKeyword at h
  split at h
  next l t =>
    split at h
    next hl =>
      cases h
      exact ⟨l, rfl, hl⟩
    next => exact absurd h nofun
  next => exact absurd h nofun

/-- Lexemes that are no dot and a name end the path. -/
theorem readPath_of_not_startsWithDot (path : List Name) (name : Name) {rest : List Lexeme}
    (h : startsWithDot rest = false) :
    readPath path name rest = .ok (.column path name, rest) := by
  unfold readPath
  split
  next => exact absurd h (by simp [startsWithDot])
  next => exact absurd h (by simp [startsWithDot])
  next => rfl

/-- A path is spelled by the lexemes it took, and those are read alike before
anything but a dot. -/
theorem exists_of_readPath : ∀ (ls : List Lexeme) {path : List Name} {name : Name} {e : Expr}
    {rest : List Lexeme}, readPath path name ls = .ok (e, rest) →
    ∃ ms, ls = ms ++ rest ∧ (startsWithDot ms = true ∨ ms = []) ∧
      ∀ more, startsWithDot more = false → readPath path name (ms ++ more) = .ok (e, more)
  | [], path, name, e, rest, h => by
      cases h
      exact ⟨[], rfl, .inr rfl, fun more hmore => readPath_of_not_startsWithDot _ _ hmore⟩
  | [l], path, name, e, rest, h => by
      by_cases hdot : startsWithDot [l] = true
      · obtain rfl : l = .mark .dot := by simpa [startsWithDot] using hdot
        exact absurd h nofun
      · rw [Bool.not_eq_true] at hdot
        rw [readPath_of_not_startsWithDot _ _ hdot] at h
        cases h
        exact ⟨[], rfl, .inr rfl, fun more hmore => readPath_of_not_startsWithDot _ _ hmore⟩
  | l :: l' :: ls, path, name, e, rest, h => by
      by_cases hdot : startsWithDot (l :: l' :: ls) = true
      · obtain rfl : l = .mark .dot := by simpa [startsWithDot] using hdot
        rw [readPath] at h
        split at h
        -- a dot and a name lengthen the path, and the rest is shorter
        next n hname =>
          obtain ⟨ms, rfl, -, hms⟩ := exists_of_readPath ls h
          refine ⟨.mark .dot :: l' :: ms, rfl, .inl rfl, fun more hmore => ?_⟩
          show readPath path name (.mark .dot :: l' :: (ms ++ more)) = _
          rw [readPath, hname]
          exact hms more hmore
        next => exact absurd h nofun
      · rw [Bool.not_eq_true] at hdot
        rw [readPath_of_not_startsWithDot _ _ hdot] at h
        cases h
        exact ⟨[], rfl, .inr rfl, fun more hmore => readPath_of_not_startsWithDot _ _ hmore⟩

/-- The arguments of a type end with their parenthesis. -/
theorem exists_of_readTypeArguments : ∀ (ls : List Lexeme) {as : List String}
    {rest : List Lexeme}, readTypeArguments ls = .ok (as, rest) →
    ∃ ms, ls = ms ++ rest ∧ ∀ more, readTypeArguments (ms ++ more) = .ok (as, more)
  | [], _, _, h => absurd h nofun
  | [_], _, _, h => absurd h nofun
  | l :: l' :: ls, as, rest, h => by
      cases l'
      case mark m =>
        unfold readTypeArguments at h
        simp only at h
        split at h
        -- the last argument
        next a hl =>
          cases h
          refine ⟨[l, .mark .closeParen], rfl, fun more => ?_⟩
          show readTypeArguments (l :: .mark .closeParen :: more) = _
          unfold readTypeArguments
          simp only [hl]
        -- an argument before others
        next a hl =>
          obtain ⟨⟨as', rest'⟩, hrest, hcons⟩ := exists_of_bind_eq_ok h
          obtain ⟨rfl, rfl⟩ : a :: as' = as ∧ rest' = rest := by cases hcons; exact ⟨rfl, rfl⟩
          obtain ⟨ms, rfl, hms⟩ := exists_of_readTypeArguments ls hrest
          refine ⟨l :: .mark .comma :: ms, rfl, fun more => ?_⟩
          show readTypeArguments (l :: .mark .comma :: (ms ++ more)) = _
          unfold readTypeArguments
          simp only [hl, hms]
          rfl
        next => exact absurd h nofun
      all_goals exact absurd h nofun

/-- The words of a type end before a mark. -/
theorem exists_of_takeWords : ∀ {ls rest : List Lexeme} {ws : List (List Char)},
    takeWords ls = (ws, rest) → ∃ ms, ls = ms ++ rest ∧
      ∀ m more, takeWords (ms ++ .mark m :: more) = (ws, .mark m :: more)
  | [], _, _, h => by
      cases h
      exact ⟨[], rfl, fun _ _ => rfl⟩
  | l :: ls, rest, ws, h => by
      cases l
      -- a word is taken, and the words behind it
      case word s =>
        cases hls : takeWords ls with
        | mk ws' rest' =>
            obtain ⟨ms, rfl, hms⟩ := exists_of_takeWords hls
            rw [takeWords, hls] at h
            cases h
            refine ⟨.word s :: ms, rfl, fun m more => ?_⟩
            rw [List.cons_append, takeWords, hms]
      all_goals
        cases h
        exact ⟨[], rfl, fun _ _ => rfl⟩

/-- The words of a type come before its arguments. -/
theorem readType_eq {ls ls' : List Lexeme} {ws : List (List Char)}
    (h : takeWords ls = (ws, ls')) :
    readType d ls = (readOptionalArguments ls' >>= fun r =>
      match DataType.ofWords? d ws r.1 with
      | some t => .ok (t, r.2)
      | none => .error .malformed) := by
  rw [readType, h]
  rfl

/-- A type before a closing parenthesis. -/
theorem exists_of_readType {ls rest : List Lexeme} {t : DataType}
    (h : readType d ls = .ok (t, .mark .closeParen :: rest)) :
    ∃ ms, ls = ms ++ .mark .closeParen :: rest ∧ SpellsType d ms t := by
  cases hwords : takeWords ls with
  | mk ws ls' =>
      obtain ⟨ms, rfl, hms⟩ := exists_of_takeWords hwords
      rw [readType_eq hwords] at h
      obtain ⟨⟨as, rest'⟩, harguments, hname⟩ := exists_of_bind_eq_ok h
      have htype : DataType.ofWords? d ws as = some t ∧ rest' = .mark .closeParen :: rest := by
        simp only at hname
        split at hname
        next t' ht => cases hname; exact ⟨ht, rfl⟩
        next => exact absurd hname nofun
      obtain ⟨ht, rfl⟩ := htype
      -- the words and the arguments are read alike in any place
      have hread : ∀ ns, (∀ more, readOptionalArguments (ns ++ .mark .closeParen :: more)
            = .ok (as, .mark .closeParen :: more)) →
          (∃ m ns', ∀ more, ns ++ .mark .closeParen :: more = .mark m :: (ns' ++ more)) →
          SpellsType d (ms ++ ns) t := by
        rintro ns hns ⟨m, ns', hmark⟩ more
        have htake := hms m (ns' ++ more)
        rw [← hmark more] at htake
        rw [List.append_assoc, readType_eq htake, hns]
        simp only [bind, Except.bind, ht]
      unfold readOptionalArguments at harguments
      split at harguments
      next ls'' =>
        obtain ⟨ns, rfl, hns⟩ := exists_of_readTypeArguments ls'' harguments
        refine ⟨ms ++ .mark .openParen :: ns, by simp, hread _ (fun more => hns _) ?_⟩
        exact ⟨.openParen, ns ++ [.mark .closeParen], fun more => by simp⟩
      next =>
        cases harguments
        refine ⟨ms, rfl, ?_⟩
        have htype := hread [] (fun more => rfl) ⟨.closeParen, [], fun more => rfl⟩
        rw [List.append_nil] at htype
        exact htype

/-- The lexemes behind the plus signs at the front. -/
theorem exists_of_dropPluses : ∀ ls : List Lexeme,
    ∃ ps, ArePluses ps ∧ ls = ps ++ dropPluses ls
  | [] => ⟨[], fun _ h => absurd h (by simp), rfl⟩
  | l :: ls => by
      by_cases hl : l = .mark (.op .add)
      · subst hl
        obtain ⟨ps, hps, hls⟩ := exists_of_dropPluses ls
        refine ⟨.mark (.op .add) :: ps, ?_, congrArg _ hls⟩
        rintro x (_ | ⟨_, hx⟩)
        · rfl
        · exact hps x hx
      · refine ⟨[], fun _ h => absurd h (by simp), ?_⟩
        unfold dropPluses
        split
        next heq => exact absurd (List.cons.inj heq).1 hl
        next => rfl

/-! ## §2. The reading functions. -/

/-- What is read within the bound has been spelled. -/
structure SoundUpTo (d : Dialect) (bound : Nat) : Prop where
  level : ∀ {level : Nat} {ls rest : List Lexeme} {e : Expr}, level ≤ unaryLevel →
    readLevel d bound level ls = .ok (e, rest) →
    ∃ ms, ls = ms ++ rest ∧ Spells d (.expr level e) ms
  rest : ∀ {level : Nat} {left e : Expr} {ks ls rest : List Lexeme},
    Spells d (.expr level left) ks → readRest d bound level left ls = .ok (e, rest) →
    ∃ ms, ls = ms ++ rest ∧ Spells d (.expr level e) (ks ++ ms)
  signed : ∀ {ls rest : List Lexeme} {e : Expr}, readSigned d bound ls = .ok (e, rest) →
    ∃ ms, ls = ms ++ rest ∧ Spells d (.expr unaryLevel e) ms
  operand : ∀ {ls rest : List Lexeme} {e : Expr}, readOperand d bound ls = .ok (e, rest) →
    ∃ ms, ls = ms ++ rest ∧ Spells d (.expr unaryLevel e) ms
  items : ∀ {afterComma : Bool} {ls rest : List Lexeme} {i : Items},
    readItems d bound afterComma ls = .ok (i, rest) →
    ∃ ms, ls = ms ++ rest ∧ Spells d (.items afterComma i) ms

variable {bound : Nat}

/-- An expression that is read at a level is spelled by the lexemes it took. -/
theorem SoundUpTo.level_succ (h : SoundUpTo d bound) {level : Nat} {ls rest : List Lexeme}
    {e : Expr} (hlevel : level ≤ unaryLevel)
    (hread : readLevel d (bound + 1) level ls = .ok (e, rest)) :
    ∃ ms, ls = ms ++ rest ∧ Spells d (.expr level e) ms := by
  rw [readLevel] at hread
  split at hread
  next hunary =>
    obtain rfl : level = unaryLevel := Nat.le_antisymm hlevel hunary
    exact h.signed hread
  next hlt =>
    obtain ⟨⟨left, ls'⟩, hleft, hrest⟩ := exists_of_bind_eq_ok hread
    -- an operand of the next level stands at this level by itself
    obtain ⟨ks, rfl, hks⟩ := h.level (by omega) hleft
    obtain ⟨ms, rfl, hms⟩ := h.rest (.looser (by omega) hks) hrest
    exact ⟨ks ++ ms, (List.append_assoc _ _ _).symm, hms⟩

/-- What the loop of a level adds is spelled behind what was read before. -/
theorem SoundUpTo.rest_succ (h : SoundUpTo d bound) {level : Nat} {left e : Expr}
    {ks ls rest : List Lexeme} (hks : Spells d (.expr level left) ks)
    (hread : readRest d (bound + 1) level left ls = .ok (e, rest)) :
    ∃ ms, ls = ms ++ rest ∧ Spells d (.expr level e) (ks ++ ms) := by
  have hstop : ∀ {ls'}, Except.ok (left, ls') = Except.ok (ε := ReadFault) (e, rest) →
      ∃ ms, ls' = ms ++ rest ∧ Spells d (.expr level e) (ks ++ ms) := by
    rintro ls' ⟨⟩
    exact ⟨[], rfl, by rw [List.append_nil]; exact hks⟩
  rw [readRest.eq_def] at hread
  simp only at hread
  split at hread
  next o ls' =>
    split at hread
    next ho =>
      subst ho
      obtain ⟨⟨right, ls''⟩, hright, hrest⟩ := exists_of_bind_eq_ok hread
      obtain ⟨ms, rfl, hms⟩ := h.level (by cases o <;> decide) hright
      -- the loop goes on with what has been read as its left operand
      obtain ⟨ns, rfl, hns⟩ := h.rest (.binary hks hms) hrest
      refine ⟨.mark (.op o) :: (ms ++ ns), by simp, ?_⟩
      simpa using hns
    next => exact hstop hread
  next => exact hstop hread

/-- An operand with its signs is spelled by the lexemes it took. -/
theorem SoundUpTo.signed_succ (h : SoundUpTo d bound) {ls rest : List Lexeme} {e : Expr}
    (hread : readSigned d (bound + 1) ls = .ok (e, rest)) :
    ∃ ms, ls = ms ++ rest ∧ Spells d (.expr unaryLevel e) ms := by
  rw [readSigned.eq_def] at hread
  simp only at hread
  split at hread
  next ls' =>
    obtain ⟨⟨e', rest'⟩, hsigned, hneg⟩ := exists_of_bind_eq_ok hread
    obtain ⟨rfl, rfl⟩ : Expr.neg e' = e ∧ rest' = rest := by cases hneg; exact ⟨rfl, rfl⟩
    obtain ⟨ms, rfl, hms⟩ := h.signed hsigned
    exact ⟨_, rfl, .neg hms⟩
  next ls' =>
    obtain ⟨ms, rfl, hms⟩ := h.signed hread
    exact ⟨_, rfl, .plus hms⟩
  next => exact h.operand hread

/-- Items are spelled by the lexemes they took. -/
theorem SoundUpTo.items_succ (h : SoundUpTo d bound) {afterComma : Bool} {ls rest : List Lexeme}
    {i : Items} (hread : readItems d (bound + 1) afterComma ls = .ok (i, rest)) :
    ∃ ms, ls = ms ++ rest ∧ Spells d (.items afterComma i) ms := by
  obtain ⟨ps, hps, hls⟩ := exists_of_dropPluses ls
  rw [readItems] at hread
  split at hread
  next ls' hdrop =>
    -- without plus signs the parenthesis comes first
    have hhead : (ls.head? == some (.mark .closeParen)) = ps.isEmpty := by
      rw [hls, hdrop]
      cases ps with
      | nil => rfl
      | cons l ps =>
          rw [hps l (by simp)]
          rfl
    rw [hhead] at hread
    cases hread
    refine ⟨ps ++ [.mark .closeParen], ?_, .close hps⟩
    rw [hls, hdrop, List.append_assoc]
    rfl
  next ls' hdrop =>
    obtain ⟨ms, rfl, hms⟩ := h.items hread
    refine ⟨ps ++ .mark .comma :: ms, ?_, .comma hps hms⟩
    rw [hls, hdrop, List.append_assoc]
    rfl
  next =>
    obtain ⟨⟨e, ls'⟩, hexpr, hnext⟩ := exists_of_bind_eq_ok hread
    obtain ⟨ms, rfl, hms⟩ := h.level (Nat.zero_le _) hexpr
    simp only at hnext
    split at hnext
    next ls'' =>
      obtain ⟨⟨i', rest'⟩, hitems, hcons⟩ := exists_of_bind_eq_ok hnext
      cases hcons
      obtain ⟨ns, rfl, hns⟩ := h.items hitems
      exact ⟨ms ++ .mark .comma :: ns, by simp, .next hms hns⟩
    next =>
      obtain ⟨rest', hclose, hone⟩ := exists_of_bind_eq_ok hnext
      cases hone
      rw [eq_of_expectMark hclose]
      exact ⟨ms ++ [.mark .closeParen], by simp, .last hms⟩

/-- A cast that is read is spelled by the lexemes it took. -/
theorem SoundUpTo.cast (h : SoundUpTo d bound) {f : String} {ls rest : List Lexeme} {e : Expr}
    (hf : isKeyword "CAST" (.word f) = true)
    (hread : (do
      let (e, rest) ← readLevel d bound 0 ls
      let (t, rest) ← readType d (← expectKeyword "AS" rest)
      return (.cast e t, ← expectMark .closeParen rest) : Except ReadFault _) = .ok (e, rest)) :
    ∃ ms, .word f :: .mark .openParen :: ls = ms ++ rest ∧ Spells d (.expr unaryLevel e) ms := by
  obtain ⟨⟨e', ls₁⟩, hexpr, hread⟩ := exists_of_bind_eq_ok hread
  obtain ⟨ls₂, hkeyword, hread⟩ := exists_of_bind_eq_ok hread
  obtain ⟨⟨t, ls₃⟩, htype, hread⟩ := exists_of_bind_eq_ok hread
  obtain ⟨ls₄, hclose, hcast⟩ := exists_of_bind_eq_ok hread
  cases hcast
  obtain ⟨as, rfl, has⟩ := eq_of_expectKeyword hkeyword
  obtain rfl := eq_of_expectMark hclose
  obtain ⟨ns, rfl, hns⟩ := exists_of_readType htype
  obtain ⟨ms, rfl, hms⟩ := h.level (Nat.zero_le _) hexpr
  exact ⟨_, by simp, .cast hf has hms hns⟩

/-- An extraction that is read is spelled by the lexemes it took. -/
theorem SoundUpTo.extract (h : SoundUpTo d bound) {f part : String} {ls rest : List Lexeme}
    {e : Expr} (hcast : isKeyword "CAST" (.word f) = false)
    (hf : isKeyword "EXTRACT" (.word f) = true)
    (hread : (do
      let (e, rest) ← readLevel d bound 0 (← expectKeyword "FROM" ls)
      return (.extract part e, ← expectMark .closeParen rest) : Except ReadFault _)
        = .ok (e, rest)) :
    ∃ ms, .word f :: .mark .openParen :: .word part :: ls = ms ++ rest ∧
      Spells d (.expr unaryLevel e) ms := by
  obtain ⟨ls₁, hkeyword, hread⟩ := exists_of_bind_eq_ok hread
  obtain ⟨⟨e', ls₂⟩, hexpr, hread⟩ := exists_of_bind_eq_ok hread
  obtain ⟨ls₃, hclose, hextract⟩ := exists_of_bind_eq_ok hread
  cases hextract
  obtain ⟨fr, rfl, hfrom⟩ := eq_of_expectKeyword hkeyword
  obtain rfl := eq_of_expectMark hclose
  obtain ⟨ms, rfl, hms⟩ := h.level (Nat.zero_le _) hexpr
  exact ⟨_, by simp, .extract hcast hf hfrom hms⟩

/-- An operand is spelled by the lexemes it took, whichever rule read it. -/
theorem SoundUpTo.operand_succ (h : SoundUpTo d bound) {ls rest : List Lexeme} {e : Expr}
    (hread : readOperand d (bound + 1) ls = .ok (e, rest)) :
    ∃ ms, ls = ms ++ rest ∧ Spells d (.expr unaryLevel e) ms := by
  rw [readOperand.eq_def] at hread
  simp only at hread
  -- the first lexeme tells which rule has read the operand
  split at hread
  next => cases hread; exact ⟨_, rfl, .number _⟩
  next => cases hread; exact ⟨_, rfl, .fraction _⟩
  next => cases hread; exact ⟨_, rfl, .text _⟩
  next =>
    obtain ⟨ms, rfl, -, hms⟩ := exists_of_readPath _ hread
    exact ⟨_, rfl, .quotedName hms⟩
  next =>
    obtain ⟨⟨i, ls'⟩, hitems, hparens⟩ := exists_of_bind_eq_ok hread
    cases hparens
    obtain ⟨ms, rfl, hms⟩ := h.items hitems
    exact ⟨_, rfl, .parens hms⟩
  -- a word before a parenthesis: a form of its own, or else a call
  next f ls' =>
    split at hread
    next hcast => exact h.cast hcast hread
    next hcast =>
      rw [Bool.not_eq_true] at hcast
      split at hread
      next hextract =>
        split at hread
        next part ls'' => exact h.extract hcast hextract hread
        next => exact absurd hread nofun
      next hextract =>
        rw [Bool.not_eq_true] at hextract
        obtain ⟨⟨i, ls''⟩, hitems, hcall⟩ := exists_of_bind_eq_ok hread
        cases hcall
        obtain ⟨ms, rfl, hms⟩ := h.items hitems
        exact ⟨_, rfl, .call hcast hextract hms⟩
  -- a word alone: the interval, or the start of a path
  next w ls' _ =>
    split at hread
    next rest' hsecond =>
      cases hread
      unfold takeSecond? at hsecond
      split at hsecond
      next n u =>
        split at hsecond
        next hall =>
          cases hsecond
          simp only [Bool.and_eq_true, beq_iff_eq] at hall
          obtain ⟨⟨hw, rfl⟩, hu⟩ := hall
          exact ⟨_, rfl, .second hw hu⟩
        next => exact absurd hsecond nofun
      next => exact absurd hsecond nofun
    next name _ hname =>
      obtain ⟨ms, rfl, hdot, hms⟩ := exists_of_readPath _ hread
      exact ⟨_, rfl, .word hname hdot hms⟩
    next => exact absurd hread nofun
  next => exact absurd hread nofun

/-- **What is read has been spelled.** -/
theorem soundUpTo : ∀ bound, SoundUpTo d bound
  | 0 => ⟨fun _ h => absurd h nofun, fun _ h => absurd h nofun, fun h => absurd h nofun,
      fun h => absurd h nofun, fun h => absurd h nofun⟩
  | bound + 1 => by
      have h := soundUpTo bound
      exact ⟨h.level_succ, h.rest_succ, h.signed_succ, h.operand_succ, h.items_succ⟩

end SqlDialect.Sql
