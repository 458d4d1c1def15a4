/-
  SqlDialect.Text.Segment
  ────────────────────────────────
  **TRIMMING, CUTTING AND JOINING TEXTS.**

  The spaces are Unicode's white space; the blank characters are the spaces
  together with the four information separators U+001C to U+001F.  `trim`
  takes the blank characters off both ends.  `splitOn` cuts a text at every
  separator and `join` puts the pieces back together; `cut?` cuts at the
  first separator only, as `key=value` asks.
-/

namespace SqlDialect.Text

/-! ## §1. Blank characters. -/

/-- White space by Unicode's property of that name. -/
def isSpace (c : Char) : Bool :=
  let n := c.toNat
  (9 ≤ n && n ≤ 13) || n == 0x20 || n == 0x85 || n == 0xa0 || n == 0x1680
    || (0x2000 ≤ n && n ≤ 0x200a) || n == 0x2028 || n == 0x2029 || n == 0x202f
    || n == 0x205f || n == 0x3000

/-- A space or one of the information separators. -/
def isBlank (c : Char) : Bool :=
  isSpace c || (0x1c ≤ c.toNat && c.toNat ≤ 0x1f)

/-! ## §2. Trimming. -/

/-- Drop the characters in `p` at the end. -/
def dropEndWhile (p : Char → Bool) (s : List Char) : List Char :=
  (s.reverse.dropWhile p).reverse

/-- Drop the characters in `p` at both ends. -/
def trimWhile (p : Char → Bool) (s : List Char) : List Char :=
  dropEndWhile p (s.dropWhile p)

/-- Drop the white space at both ends. -/
def trim (s : List Char) : List Char :=
  trimWhile isBlank s

/-! ## §3. Cutting and joining. -/

/-- The pieces between separators; a text without separators is one piece. -/
def splitOn (sep : Char) : List Char → List (List Char)
  | [] => [[]]
  | c :: rest =>
      if c = sep then [] :: splitOn sep rest
      else match splitOn sep rest with
        | [] => [[c]]
        | piece :: pieces => (c :: piece) :: pieces

/-- The pieces with a separator between neighbours. -/
def join (sep : List Char) : List (List Char) → List Char
  | [] => []
  | [s] => s
  | s :: t :: rest => s ++ sep ++ join sep (t :: rest)

/-- What stands before and after the first separator, if there is one. -/
def cut? (sep : Char) : List Char → Option (List Char × List Char)
  | [] => none
  | c :: rest => if c = sep then some ([], rest) else (cut? sep rest).map fun r => (c :: r.1, r.2)

/-- `t` with `s` taken off its front, if it starts so. -/
def dropFront? : List Char → List Char → Option (List Char)
  | [], t => some t
  | _ :: _, [] => none
  | a :: s, b :: t => if a = b then dropFront? s t else none

/-- A cut text is its two parts around the separator. -/
theorem eq_of_cut? {sep : Char} {s a b : List Char} (h : cut? sep s = some (a, b)) :
    s = a ++ sep :: b := by
  induction s generalizing a with
  | nil => simp [cut?] at h
  | cons c rest ih =>
    unfold cut? at h
    split at h
    · next hc => simp_all
    · next hc =>
      obtain ⟨⟨x, y⟩, hx, hy⟩ := Option.map_eq_some_iff.1 h
      obtain ⟨rfl, rfl⟩ := Prod.mk.inj hy
      simp [ih hx]

/-- A text that is cut in no place holds no separator. -/
theorem cut?_eq_none_iff {sep : Char} {s : List Char} : cut? sep s = none ↔ sep ∉ s := by
  induction s with
  | nil => simp [cut?]
  | cons c rest ih =>
    by_cases h : c = sep
    · simp [cut?, h]
    · simp [cut?, h, ih, Ne.symm h]

end SqlDialect.Text
