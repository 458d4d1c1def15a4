/-
  SqlDialect.Proofs.Text.Template
  ────────────────────────────────
  **TEMPLATES WITH ONE PLAIN PLACE.**

  A template that has one place for a text as it is, and no other percent
  sign, keeps what stands before and behind the place:

      apply (pre ++ "%s" ++ post) value = .ok (pre ++ value ++ post)
-/
import SqlDialect.Text.Template

namespace SqlDialect.Text.Template

variable {value : List Char} {length : Nat}

/-- A plain place takes the value as it is. -/
theorem fillPlace_plain (value : List Char) (length : Nat) (post : List Char) :
    fillPlace value false length ('s' :: post) = .ok (value, post) := by
  have hsetting : takeSetting ('s' :: post) = .ok ({}, 's' :: post) := rfl
  have hshown : Setting.set {} value = value := Setting.set_plain false value
  unfold fillPlace
  rw [hsetting]
  show Except.ok (Setting.set {} value, post) = _
  rw [hshown]

/-- Characters that start no place are kept. -/
theorem fill_append {filled : Bool} (rest : List Char) : ∀ {s : List Char} (bound : Nat),
    '%' ∉ s → fill value length (s.length + bound) filled (s ++ rest)
      = (s ++ ·) <$> fill value length bound filled rest
  | [], bound, _ => by
      rw [List.length_nil, Nat.zero_add, List.nil_append]
      cases fill value length bound filled rest <;> rfl
  | c :: s, bound, h => by
      obtain ⟨hc, hs⟩ := not_or.1 (mt List.mem_cons.2 h)
      have hlength : (c :: s).length + bound = s.length + bound + 1 := by
        rw [List.length_cons]
        omega
      rw [hlength, List.cons_append, fill, fill_append rest bound hs]
      · cases fill value length bound filled rest <;> rfl
      · exact fun hpercent => hc hpercent.symm

/-- **The place is filled and all else stays.** -/
theorem apply_plain {pre post : List Char} (hpre : '%' ∉ pre) (hpost : '%' ∉ post)
    (value : List Char) :
    apply (pre ++ '%' :: 's' :: post) value = .ok (pre ++ value ++ post) := by
  have htail : ∀ length, fill value length (post.length + 1) true post = .ok post := by
    intro length
    have hkept : fill value length (post.length + 1) true (post ++ [])
        = (post ++ ·) <$> fill value length 1 true [] := fill_append [] 1 hpost
    rw [List.append_nil] at hkept
    rw [hkept]
    show Except.ok (post ++ []) = _
    rw [List.append_nil]
  have hplace : ∀ length, fill value length (post.length + 1 + 1) false ('%' :: 's' :: post)
      = .ok (value ++ post) := by
    intro length
    rw [fill]
    · show (fillPlace value false length ('s' :: post) >>= fun r =>
        fill value length (post.length + 1) true r.2 >>= fun t => pure (r.1 ++ t)) = _
      rw [fillPlace_plain]
      show (fill value length (post.length + 1) true post >>= fun t => pure (value ++ t)) = _
      rw [htail]
      rfl
    · exact nofun
  unfold apply
  have hlength : (pre ++ '%' :: 's' :: post).length = pre.length + (post.length + 1 + 1) := by
    simp
  -- the bound is the length of the template, and each character costs one
  generalize (pre ++ '%' :: 's' :: post).length = length at hlength
  rw [hlength, fill_append _ _ hpre, hplace]
  show Except.ok (pre ++ (value ++ post)) = _
  rw [List.append_assoc]

end SqlDialect.Text.Template
