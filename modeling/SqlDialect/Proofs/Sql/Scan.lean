/-
  SqlDialect.Proofs.Sql.Scan
  ────────────────────────────────
  **SCANNING, PIECE BY PIECE.**

  A piece of text is scanned as its lexemes before anything that ends a
  lexeme, so pieces are scanned one after another:

      Piece s ls → EndsLexeme t → Scans t ms → Scans (s ++ t) (ls ++ ms)

  Text that is scanned by itself is such a piece.
-/
import Mathlib.Data.List.TakeWhile
import SqlDialect.Proofs.Sql.Word
import SqlDialect.Proofs.Steps
import SqlDialect.Proofs.Text.Delimited
import SqlDialect.Sql.Reader

namespace SqlDialect.Sql

open SqlDialect.Text

/-! ## §1. What ends a lexeme. -/

/-- The character ends words and numbers. -/
def isLexemeEnd (c : Char) : Bool := isBlank c || c == '(' || c == ')' || c == ','

/-- The text is at its end or at a character that ends a lexeme. -/
def EndsLexeme (t : List Char) : Prop := ∀ c ∈ t.head?, isLexemeEnd c = true

theorem endsLexeme_nil : EndsLexeme [] := fun _ h => absurd h nofun

theorem endsLexeme_cons {c : Char} (h : isLexemeEnd c = true) (t : List Char) :
    EndsLexeme (c :: t) := by
  intro x hx
  obtain rfl : c = x := by simpa using hx
  exact h

/-- White space ends every lexeme. -/
theorem endsLexeme_blank {c : Char} (h : isBlank c = true) (t : List Char) :
    EndsLexeme (c :: t) :=
  endsLexeme_cons (by rw [isLexemeEnd, h]; rfl) t

/-- What ends a lexeme is no character of a word, of a number or of quotes. -/
theorem of_isLexemeEnd {c : Char} (h : isLexemeEnd c = true) :
    isInWord c = false ∧ c.isDigit = false ∧
      ∀ x ∈ ['.', '+', '-', 'e', 'E', '\'', '"'], c ≠ x := by
  simp only [isLexemeEnd, Bool.or_eq_true, beq_iff_eq] at h
  -- white space, or one of three marks
  rcases h with ((hblank | rfl) | rfl) | rfl
  · refine ⟨by rw [isInWord, hblank]; rfl, ?_, ?_⟩
    · rw [Bool.eq_false_iff]
      intro hd
      have hcode := toNat_of_isDigit hd
      simp only [isBlank, isSpace, Bool.or_eq_true, Bool.and_eq_true, decide_eq_true_eq,
        beq_iff_eq] at hblank
      omega
    · rintro x hx rfl
      have hnone : ['.', '+', '-', 'e', 'E', '\'', '"'].all (!isBlank ·) = true := by decide
      have hx := List.all_eq_true.1 hnone _ hx
      rw [hblank] at hx
      exact absurd hx Bool.false_ne_true
  · exact ⟨by decide, by decide, by simp⟩
  · exact ⟨by decide, by decide, by simp⟩
  · exact ⟨by decide, by decide, by simp⟩

/-- No quote follows, so a closing quote is not taken for half of a doubled one. -/
theorem EndsLexeme.notAt {t : List Char} (h : EndsLexeme t) {q : Char} (hq : q = '\'' ∨ q = '"') :
    Delimited.NotAt q t := by
  intro c hc
  have hmark := (of_isLexemeEnd (h c hc)).2.2
  rcases hq with rfl | rfl
  · exact hmark _ (by decide)
  · exact hmark _ (by decide)

/-! ## §2. Lexemes before what ends them. -/

variable {t : List Char}

/-- The scanner of numbers never looks past the end of a number. -/
theorem takeNumber_append (ht : EndsLexeme t) : ∀ (s : List Char) (n : NumberState),
    takeNumber n (s ++ t) = ((takeNumber n s).1, (takeNumber n s).2 ++ t) ∧
      (takeNumber n s).2.length ≤ s.length
  | [], n => by
      cases t with
      | nil => exact ⟨rfl, Nat.le_refl _⟩
      | cons c u =>
          obtain ⟨-, hdigit, hmark⟩ := of_isLexemeEnd (ht c rfl)
          have hnone : n.next? c u = none := by
            simp [NumberState.next?, hdigit, hmark '.' (by decide), hmark '+' (by decide),
              hmark '-' (by decide), hmark 'e' (by decide), hmark 'E' (by decide)]
          have hstop : takeNumber n (c :: u) = ([], c :: u) := by rw [takeNumber, hnone]
          exact ⟨hstop, Nat.le_refl _⟩
  | x :: s, n => by
      -- a sign is looked behind for a digit, and none ends a lexeme
      have hnext : n.next? x (s ++ t) = n.next? x s := by
        cases s with
        | cons y s => rfl
        | nil =>
            cases t with
            | nil => rfl
            | cons c u =>
                have hdigit : c.isDigit = false := (of_isLexemeEnd (ht c rfl)).2.1
                simp [NumberState.next?, hdigit]
      rw [List.cons_append, takeNumber, takeNumber, hnext]
      cases n.next? x s with
      | none => exact ⟨rfl, Nat.le_refl _⟩
      | some m =>
          obtain ⟨hs, hlen⟩ := takeNumber_append ht s m
          simp only [hs]
          exact ⟨trivial, Nat.le_succ_of_le hlen⟩

/-- A mark is taken whatever stands behind it, and is never empty. -/
theorem takeMark?_append {s u : List Char} {m : Mark} (h : takeMark? s = some (m, u))
    (t : List Char) : takeMark? (s ++ t) = some (m, u ++ t) ∧ u.length < s.length := by
  unfold takeMark? at h
  split at h
  all_goals first
    | cases h
      simp only [List.length_cons]
      exact ⟨rfl, by omega⟩
    | exact absurd h nofun

/-- A word ends where it did, whatever ends it. -/
theorem takeWhile_append (ht : EndsLexeme t) : ∀ s : List Char,
    (s ++ t).takeWhile isInWord = s.takeWhile isInWord ∧
      (s ++ t).dropWhile isInWord = s.dropWhile isInWord ++ t
  | [] => by
      cases t with
      | nil => exact ⟨rfl, rfl⟩
      | cons c t =>
          have hc : ¬ isInWord c = true := by simp [(of_isLexemeEnd (ht c rfl)).1]
          exact ⟨List.takeWhile_cons_of_neg hc, List.dropWhile_cons_of_neg hc⟩
  | x :: s => by
      obtain ⟨htake, hdrop⟩ := takeWhile_append ht s
      rw [List.cons_append]
      by_cases hx : isInWord x = true
      · rw [List.takeWhile_cons_of_pos hx, List.dropWhile_cons_of_pos hx,
          List.takeWhile_cons_of_pos hx, List.dropWhile_cons_of_pos hx, htake, hdrop]
        exact ⟨rfl, rfl⟩
      · rw [List.takeWhile_cons_of_neg hx, List.dropWhile_cons_of_neg hx,
          List.takeWhile_cons_of_neg hx, List.dropWhile_cons_of_neg hx]
        exact ⟨rfl, rfl⟩

/-- What is in a class without quotes is no quote. -/
theorem ne_quotes {p : Char → Bool} (hp : p '\'' = false ∧ p '"' = false) {c : Char}
    (hc : p c = true) : c ≠ '\'' ∧ c ≠ '"' := by
  constructor
  · rintro rfl
    exact Bool.false_ne_true (hp.1.symm.trans hc)
  · rintro rfl
    exact Bool.false_ne_true (hp.2.symm.trans hc)

/-- A lexeme that starts with no quote. -/
theorem takeLexeme_cons {x : Char} (hquote : x ≠ '\'') (hquotes : x ≠ '"') (s : List Char) :
    takeLexeme (x :: s) =
      if x.isDigit = true then
        .ok (.number (String.ofList (takeNumber {} (x :: s)).1), (takeNumber {} (x :: s)).2)
      else if isInWord x = true then
        .ok (.word (String.ofList ((x :: s).takeWhile isInWord)), (x :: s).dropWhile isInWord)
      else match takeMark? (x :: s) with
        | some (m, rest) => .ok (.mark m, rest)
        | none => .error .malformed := by
  unfold takeLexeme
  split
  next heq => exact absurd heq nofun
  next heq => exact absurd (List.cons.inj heq).1 hquote
  next heq => exact absurd (List.cons.inj heq).1 hquotes
  next heq =>
    obtain ⟨rfl, -⟩ := List.cons.inj heq
    rfl

/-- A lexeme is taken alike before what ends one. -/
theorem takeLexeme_append {s u : List Char} {l : Lexeme} (h : takeLexeme s = .ok (l, u))
    (ht : EndsLexeme t) :
    takeLexeme (s ++ t) = .ok (l, u ++ t) ∧ u.length < s.length := by
  cases s with
  | nil =>
      rw [takeLexeme] at h
      cases h
  | cons x s =>
      by_cases hquote : x = '\''
      · subst hquote
        rw [takeLexeme] at h
        split at h
        next w u hscan =>
          cases h
          obtain ⟨happend, hlen⟩ := Delimited.scan_append (ht.notAt (.inl rfl)) hscan
          rw [List.cons_append, takeLexeme, happend]
          exact ⟨rfl, Nat.lt_succ_of_lt hlen⟩
        next => cases h
      by_cases hquotes : x = '"'
      · subst hquotes
        rw [takeLexeme] at h
        split at h
        next w u hscan =>
          cases h
          obtain ⟨happend, hlen⟩ := Delimited.scan_append (ht.notAt (.inr rfl)) hscan
          rw [List.cons_append, takeLexeme, happend]
          exact ⟨rfl, Nat.lt_succ_of_lt hlen⟩
        next => cases h
      rw [takeLexeme_cons hquote hquotes] at h
      rw [List.cons_append, takeLexeme_cons hquote hquotes, ← List.cons_append]
      by_cases hdigit : x.isDigit = true
      · rw [if_pos hdigit] at h ⊢
        cases h
        -- the digit itself is taken, so something is
        have hnext : NumberState.next? {} x s = some {} := if_pos hdigit
        have hlen := (takeNumber_append ht s {}).2
        rw [(takeNumber_append ht (x :: s) {}).1]
        refine ⟨rfl, ?_⟩
        rw [takeNumber, hnext]
        exact Nat.lt_succ_of_le hlen
      rw [if_neg hdigit] at h ⊢
      by_cases hword : isInWord x = true
      · rw [if_pos hword] at h ⊢
        cases h
        obtain ⟨htake, hdrop⟩ := takeWhile_append ht (x :: s)
        rw [htake, hdrop]
        refine ⟨rfl, ?_⟩
        rw [List.dropWhile_cons_of_pos hword]
        exact Nat.lt_succ_of_le (List.dropWhile_sublist _).length_le
      rw [if_neg hword] at h ⊢
      split at h
      next m rest hmark =>
        cases h
        obtain ⟨happend, hlen⟩ := takeMark?_append hmark t
        rw [happend]
        exact ⟨rfl, hlen⟩
      next => cases h

/-! ## §3. Texts of one lexeme. -/

/-- **A bare word is one lexeme.** -/
theorem takeLexeme_word {s : List Char} (hs : IsBareWord s) :
    takeLexeme s = .ok (.word (String.ofList s), []) := by
  obtain ⟨c, s, rfl, hdigit⟩ := hs.first
  have hc : isInWord c = true := hs.inWord c (by simp)
  have hquotes := ne_quotes (p := isInWord) (by decide) hc
  have htake : (c :: s).takeWhile isInWord = c :: s := List.takeWhile_eq_self_iff.2 hs.inWord
  have hdrop : (c :: s).dropWhile isInWord = [] := List.dropWhile_eq_nil_iff.2 hs.inWord
  rw [takeLexeme_cons hquotes.1 hquotes.2, if_neg (by simp [hdigit]), if_pos hc, htake, hdrop]

/-- A whole number in digits. -/
def IsDigits (s : List Char) : Prop := s ≠ [] ∧ ∀ c ∈ s, c.isDigit = true

/-- A run of digits is taken as a whole. -/
theorem takeNumber_digits : ∀ {s : List Char}, (∀ c ∈ s, c.isDigit = true) →
    takeNumber {} s = (s, [])
  | [], _ => rfl
  | c :: s, h => by
      have hc : NumberState.next? {} c s = some {} := if_pos (h c (by simp))
      have hs : takeNumber {} s = (s, []) := takeNumber_digits fun x hx => h x (by simp [hx])
      rw [takeNumber, hc]
      simp only [hs]

/-- A run of digits is one number. -/
theorem takeLexeme_number {s : List Char} (hs : IsDigits s) :
    takeLexeme s = .ok (.number (String.ofList s), []) := by
  obtain ⟨c, s, rfl⟩ := List.exists_cons_of_ne_nil hs.1
  have hc : c.isDigit = true := hs.2 c (by simp)
  have hquotes := ne_quotes (p := Char.isDigit) (by decide) hc
  rw [takeLexeme_cons hquotes.1 hquotes.2, if_pos hc, takeNumber_digits hs.2]

/-- A text literal is scanned as the text it encloses. -/
theorem takeLexeme_text (s : String) :
    takeLexeme (textLiteral s.toList) = .ok (.text s, []) := by
  have hread := Delimited.scan_encode s.toList (endsLexeme_nil.notAt (.inl rfl))
  have hsplit : textLiteral s.toList = '\'' :: (Delimited.encode '\'' s.toList ++ ['\'']) := by
    simp [textLiteral, Delimited.enclose]
  rw [hsplit, takeLexeme, hread]
  simp

/-- A quoted name is scanned as the name it encloses. -/
theorem takeLexeme_quotedName (s : String) :
    takeLexeme (Name.quote .ansi s.toList) = .ok (.quotedName s, []) := by
  have hread := Delimited.scan_encode s.toList (endsLexeme_nil.notAt (.inr rfl))
  have hsplit : Name.quote .ansi s.toList
      = '"' :: (Delimited.encode '"' s.toList ++ ['"']) := by
    simp [Name.quote, Delimited.enclose, QuoteStyle.quotes]
  rw [hsplit, takeLexeme, hread]
  simp

/-- A mark is scanned as itself, whatever follows. -/
theorem takeLexeme_mark (m : Mark) (t : List Char) :
    takeLexeme (m.spell ++ t) = .ok (.mark m, t) := by
  cases m
  case op o => cases o <;> rfl
  all_goals rfl

/-! ## §4. Texts. -/

theorem scanUpTo_nil (n : Nat) : scanUpTo n [] = .ok [] := by
  cases n <;> rfl

/-- White space between lexemes is skipped. -/
theorem scanUpTo_blank {c : Char} (hc : isBlank c = true) (n : Nat) (s : List Char) :
    scanUpTo (n + 1) (c :: s) = scanUpTo (n + 1) s := by
  rw [scanUpTo, scanUpTo, List.dropWhile_cons_of_pos hc]

/-- What is scanned from a lexeme on. -/
theorem scanUpTo_cons {c : Char} (hc : isBlank c = false) (n : Nat) (s : List Char) :
    scanUpTo (n + 1) (c :: s) = match takeLexeme (c :: s) with
      | .ok (l, rest) => scanUpTo n rest >>= fun ls => .ok (l :: ls)
      | .error .unterminated => .error .unterminated
      | .error .malformed => scanUpTo n s >>= fun _ => .error .malformed := by
  rw [scanUpTo, List.dropWhile_cons_of_neg (by simp [hc])]
  dsimp only [List.isEmpty_cons]
  rw [if_neg Bool.false_ne_true]
  rcases takeLexeme (c :: s) with ⟨⟨⟩⟩ | ⟨l, rest⟩ <;> rfl

/-- The text is scanned as the lexemes, whatever bound the scanner is given
that is longer than the text. -/
def Scans (s : List Char) (ls : List Lexeme) : Prop :=
  ∀ n, s.length < n → scanUpTo n s = .ok ls

theorem scans_nil : Scans [] [] := fun n _ => scanUpTo_nil n

/-- White space before a text adds no lexeme. -/
theorem Scans.blank {c : Char} (hc : isBlank c = true) {t : List Char} {ls : List Lexeme}
    (h : Scans t ls) : Scans (c :: t) ls := fun n hn => by
  rw [List.length_cons] at hn
  obtain ⟨m, rfl⟩ : ∃ m, n = m + 1 := ⟨n - 1, by omega⟩
  rw [scanUpTo_blank hc, h (m + 1) (by omega)]

/-- A text is scanned as its first lexeme and those of the rest. -/
theorem Scans.lexeme {s t : List Char} {l : Lexeme} {ls : List Lexeme}
    (hfirst : ∀ c ∈ s.head?, isBlank c = false) (hl : takeLexeme s = .ok (l, t))
    (hlen : t.length < s.length) (h : Scans t ls) : Scans s (l :: ls) := fun n hn => by
  obtain ⟨m, rfl⟩ : ∃ m, n = m + 1 := ⟨n - 1, by omega⟩
  cases s with
  | nil => exact absurd hlen (by simp)
  | cons c s =>
      rw [scanUpTo_cons (hfirst c rfl), hl]
      dsimp only
      rw [h m (by omega)]
      rfl

/-- The piece of text is scanned as the lexemes before anything that ends a
lexeme. -/
def Piece (s : List Char) (ls : List Lexeme) : Prop :=
  ∀ t ms, EndsLexeme t → Scans t ms → Scans (s ++ t) (ls ++ ms)

/-- A piece stands alone too. -/
theorem Piece.scans {s : List Char} {ls : List Lexeme} (h : Piece s ls) : Scans s ls := by
  have hend := h [] [] endsLexeme_nil scans_nil
  rw [List.append_nil, List.append_nil] at hend
  exact hend

/-- A piece before a gap or a mark. -/
theorem Piece.append {c : Char} {s u : List Char} {ls ls' : List Lexeme} (h : Piece s ls)
    (h' : Piece (c :: u) ls') (hc : isLexemeEnd c = true := by rfl) :
    Piece (s ++ c :: u) (ls ++ ls') := by
  intro t ms ht hms
  rw [List.append_assoc, List.append_assoc]
  exact h _ _ (endsLexeme_cons hc _) (h' t ms ht hms)

theorem piece_nil : Piece [] [] := fun _ _ _ h => h

/-- A gap before a piece adds no lexeme. -/
theorem Piece.gap {s : List Char} {ls : List Lexeme} (h : Piece s ls) : Piece (' ' :: s) ls :=
  fun t ms ht hms => Scans.blank rfl (h t ms ht hms)

/-- A mark needs no gap behind it. -/
theorem Piece.mark (m : Mark) {s : List Char} {ls : List Lexeme} (h : Piece s ls) :
    Piece (m.spell ++ s) (.mark m :: ls) := fun t ms ht hms => by
  obtain ⟨c, u, hspell, hblank⟩ : ∃ c u, m.spell = c :: u ∧ isBlank c = false := by
    cases m
    case op o => cases o <;> exact ⟨_, _, rfl, rfl⟩
    all_goals exact ⟨_, _, rfl, rfl⟩
  rw [List.append_assoc]
  refine Scans.lexeme ?_ (takeLexeme_mark m (s ++ t)) ?_ (h t ms ht hms)
  · rw [hspell]
    rintro x ⟨⟩
    exact hblank
  · simp only [hspell, List.length_append, List.length_cons]
    omega

/-- A text of one lexeme is a piece. -/
theorem piece_of_takeLexeme {s : List Char} {l : Lexeme}
    (hfirst : ∀ c ∈ s.head?, isBlank c = false) (h : takeLexeme s = .ok (l, [])) :
    Piece s [l] := by
  intro t ms ht hms
  obtain ⟨happend, hlen⟩ := takeLexeme_append h ht
  obtain ⟨c, s, rfl⟩ := List.exists_cons_of_length_pos hlen
  refine Scans.lexeme (fun x hx => hfirst x hx) happend ?_ hms
  rw [List.nil_append, List.length_append]
  omega

/-- No character of a word is white space. -/
theorem isBlank_of_isInWord {c : Char} (h : isInWord c = true) : isBlank c = false := by
  rw [isInWord, Bool.and_eq_true, Bool.not_eq_true'] at h
  exact h.1

/-- No digit is white space. -/
theorem isBlank_of_isDigit {c : Char} (h : c.isDigit = true) : isBlank c = false := by
  rw [Bool.eq_false_iff]
  intro hb
  have hend : isLexemeEnd c = true := by rw [isLexemeEnd, hb]; rfl
  rw [(of_isLexemeEnd hend).2.1] at h
  exact absurd h nofun

/-- A bare word is a piece of one lexeme. -/
theorem piece_word {s : String} (h : IsBareWord s.toList) : Piece s.toList [.word s] := by
  refine piece_of_takeLexeme (fun x hx => ?_) ?_
  · exact isBlank_of_isInWord (h.inWord x (List.mem_of_mem_head? hx))
  · rw [takeLexeme_word h, String.ofList_toList]

/-- A run of digits is a piece of one lexeme. -/
theorem piece_number {s : String} (h : IsDigits s.toList) : Piece s.toList [.number s] := by
  refine piece_of_takeLexeme (fun x hx => ?_) ?_
  · exact isBlank_of_isDigit (h.2 x (List.mem_of_mem_head? hx))
  · rw [takeLexeme_number h, String.ofList_toList]

/-- A text literal is a piece of one lexeme, whatever it encloses. -/
theorem piece_text (s : String) : Piece (textLiteral s.toList) [.text s] :=
  piece_of_takeLexeme (by rintro x ⟨⟩; rfl) (takeLexeme_text s)

/-- A quoted name is a piece of one lexeme, whatever it encloses. -/
theorem piece_quotedName (s : String) : Piece (Name.quote .ansi s.toList) [.quotedName s] :=
  piece_of_takeLexeme (by rintro x ⟨⟩; rfl) (takeLexeme_quotedName s)

/-! ## §5. Scanned text. -/

/-- Two texts are scanned one after the other if the second one starts where a
lexeme ends. -/
theorem scans_append_of_scanUpTo (ht : EndsLexeme t) {ms : List Lexeme} (hms : Scans t ms) :
    ∀ {n : Nat} {s : List Char} {ls : List Lexeme},
      s.length < n → scanUpTo n s = .ok ls → Scans (s ++ t) (ls ++ ms)
  | n + 1, [], ls, _, h => by
      cases h
      exact hms
  | n + 1, x :: s, ls, hn, h => by
      rw [List.length_cons] at hn
      by_cases hx : isBlank x = true
      · rw [scanUpTo_blank hx] at h
        exact (scans_append_of_scanUpTo ht hms (by omega) h).blank hx
      · rw [Bool.not_eq_true] at hx
        rw [scanUpTo_cons hx] at h
        split at h
        next l u hl =>
          obtain ⟨ls', hls', h⟩ := exists_of_bind_eq_ok h
          cases h
          -- every lexeme takes a character, so the bound lasts for what is left
          obtain ⟨happend, hlen⟩ := takeLexeme_append hl ht
          rw [List.length_cons] at hlen
          refine Scans.lexeme ?_ happend ?_ (scans_append_of_scanUpTo ht hms (by omega) hls')
          · rintro y hy
            obtain rfl : x = y := by simpa using hy
            exact hx
          · simp only [List.length_append, List.length_cons]
            omega
        next => exact nomatch h
        next =>
          obtain ⟨-, -, h⟩ := exists_of_bind_eq_ok h
          exact nomatch h

/-- **What is scanned by itself is a piece.** -/
theorem piece_of_scan {s : List Char} {ls : List Lexeme} (h : scan s = .ok ls) : Piece s ls :=
  fun _ _ ht hms => scans_append_of_scanUpTo ht hms (Nat.lt_succ_self _) h

/-! ## §6. Tokenizers and parsers. -/

namespace SqlParser

variable {Token : Type} {p : SqlParser Token} {d : Dialect} {text : String}

/-- An expression that is read comes out of both stages. -/
theorem reads_iff {e : Expr} : p.Reads d text e ↔ p.read d text = .ok e := by
  constructor
  · rintro ⟨tokens, htokens, he⟩
    rw [SqlParser.read, htokens]
    exact he
  · exact exists_of_bind_eq_ok

/-- A fault comes out of one of the stages. -/
theorem raises_iff {fault : SqlFault} :
    p.Raises d text fault ↔ p.read d text = .error fault := by
  constructor
  · rintro (htokens | ⟨tokens, htokens, hfault⟩)
    · rw [SqlParser.read, htokens]
      rfl
    · rw [SqlParser.read, htokens]
      exact hfault
  · exact error_of_bind_eq_error

/-- A text that raises a fault is not read, -/
theorem Raises.not_reads {fault : SqlFault} (h : p.Raises d text fault) {e : Expr} :
    ¬ p.Reads d text e := by
  intro he
  exact nomatch (reads_iff.1 he).symm.trans (raises_iff.1 h)

/-- and raises no other one. -/
theorem Raises.unique {fault fault' : SqlFault} (h : p.Raises d text fault)
    (h' : p.Raises d text fault') : fault = fault' :=
  Except.error.inj ((raises_iff.1 h).symm.trans (raises_iff.1 h'))

/-- The parser by precedence refuses open quotes: what they open does not end. -/
theorem refusesOpenQuotes_plain : SqlParser.plain.RefusesOpenQuotes := by
  intro _ s hs
  have hopen : Delimited.scan '\'' s.toList = none := Delimited.scan_eq_none hs
  have hscan : scan ("'" ++ s).toList = .error .unterminated := by
    have htext : ("'" ++ s).toList = '\'' :: s.toList := by
      rw [String.toList_append]
      rfl
    rw [htext, scan, scanUpTo_cons rfl, takeLexeme, hopen]
  refine ⟨"The quotes are not closed", ?_⟩
  show (scan ("'" ++ s).toList).mapError faultOf = _
  rw [hscan]
  rfl

end SqlParser

end SqlDialect.Sql
