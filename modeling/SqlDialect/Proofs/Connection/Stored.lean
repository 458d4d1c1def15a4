/-
  SqlDialect.Proofs.Connection.Stored
  ────────────────────────────────
  **FORMS OF STORED SETTINGS.**

  A value is stored as itself or as the text that it shows.  A form takes a
  text, an option and a truth value from either alike.  It takes a port
  from either alike unless the port is a floating-point number: such a port
  is cut to a whole number, and its text is none.

      (ofSettings (s.mapValues storedValue)).toOption = (ofSettings s).toOption
-/
import SqlDialect.Proofs.Connection.Form
import SqlDialect.Proofs.Toml.Contents
import SqlDialect.Proofs.Toml.Scalar

namespace SqlDialect

open SqlDialect.Toml SqlDialect.Number SqlDialect.Calendar

/-! ## §1. Stored values. -/

/-- A value shows the same text after it is stored. -/
theorem shown_storedValue (v : Value) : (storedValue v).shown = v.shown := by
  cases v with
  | bool | int => rfl
  | _ => exact Value.shown_text _

/-- A value that can be written can be written again. -/
theorem isWritable_storedValue {v : Value} (h : v.isWritable = true) :
    (storedValue v).isWritable = true := by
  cases v with
  | int => exact h
  | _ => rfl

/-- No stored value is infinite. -/
theorem infiniteSign?_storedValue (v : Value) : (storedValue v).infiniteSign? = none := by
  cases v <;> rfl

/-- A value shows the same characters after it is stored. -/
theorem shownChars_storedValue (v : Value) : (storedValue v).shownChars = v.shownChars := by
  have h := congrArg String.toList (shown_storedValue v)
  rwa [Value.shown, Value.shown, String.toList_ofList, String.toList_ofList] at h

/-! ## §2. Texts of values that are no whole numbers. -/

/-- A padded number starts with a digit. -/
theorem paddedText_eq_cons (width n : Nat) :
    ∃ d ds, paddedText width n = d :: ds ∧ d.isDigit = true := by
  unfold paddedText
  cases hzeros : List.replicate (width - (natText n).length) '0' with
  | nil =>
      obtain ⟨d, ds, hd⟩ := List.exists_cons_of_ne_nil (natText_ne_nil n)
      exact ⟨d, ds, hd, isDigit_of_mem_natText (by rw [hd]; simp)⟩
  | cons c cs =>
      have hc : c ∈ List.replicate (width - (natText n).length) '0' := by rw [hzeros]; simp
      exact ⟨c, cs ++ natText n, rfl, by rw [List.eq_of_mem_replicate hc]; rfl⟩

/-- Nothing that starts with a date is a whole number. -/
theorem readInt?_dateText (d : Date) (s : List Char) : readInt? (d.text ++ s) = none := by
  obtain ⟨c, cs, hc, hdigit⟩ := paddedText_eq_cons 4 d.year
  rw [Date.text, hc]
  exact readInt?_eq_none_of_minus hdigit (by simp)

/-- Floating-point notation has a point or an exponent. -/
theorem exists_mark_floatText (d : Scaled) : ∃ c ∈ d.floatText, c = '.' ∨ c = 'e' := by
  unfold Scaled.floatText
  dsimp only
  split
  next => exact ⟨'e', by simp, .inr rfl⟩
  next =>
    refine ⟨'.', ?_, .inl rfl⟩
    split
    · simp
    · split <;> simp

/-- A number in floating-point notation, infinity and no number each have a
mark that no whole number has. -/
theorem exists_mark_text (x : Binary64) : ∃ c ∈ x.text, c = '.' ∨ c = 'e' ∨ c = 'n' := by
  cases x with
  | nan => exact ⟨'n', by decide, .inr (.inr rfl)⟩
  | infinity negative => exact ⟨'n', by cases negative <;> decide, .inr (.inr rfl)⟩
  | finite negative m q =>
      rw [Binary64.text]
      by_cases hm : m = 0
      · rw [if_pos hm]
        exact ⟨'.', List.mem_append_right _ (by decide), .inl rfl⟩
      · rw [if_neg hm]
        obtain ⟨c, hmem, hc⟩ := exists_mark_floatText (shortest m q)
        exact ⟨c, List.mem_append_right _ hmem, hc.imp_right .inl⟩

/-- **Of what a document holds, only texts, truth values and whole numbers
show as a whole number or as nothing.** -/
theorem readInt?_shownChars {v : Value} (hv : IsHeld v) (hstored : storedValue v ≠ v) :
    v.shownChars ≠ [] ∧ readInt? v.shownChars = none := by
  have hmark : ∀ c ∈ v.shownChars, isNumeral c = false →
      v.shownChars ≠ [] ∧ readInt? v.shownChars = none := fun c hmem hc =>
    ⟨List.ne_nil_of_mem hmem, readInt?_eq_none_of_mem hmem hc⟩
  cases hv with
  | bool | int => exact absurd rfl hstored
  | text s => exact absurd (congrArg Value.text (Value.shown_text s)) hstored
  | float x =>
      obtain ⟨c, hmem, hc⟩ := exists_mark_text x
      refine hmark c hmem ?_
      rcases hc with rfl | rfl | rfl <;> decide
  | date d =>
      -- the minus sign behind the year, which may be any number
      have h := readInt?_dateText d []
      rw [List.append_nil] at h
      exact ⟨by simp [Value.shownChars, Date.text], h⟩
  | time c o => exact hmark ':' (by simp [Value.shownChars, Clock.text]) (by decide)
  | moment m => exact hmark ':' (by simp [Value.shownChars, Moment.text, Clock.text]) (by decide)
  | list items => exact hmark '[' (by simp [Value.shownChars, Value.literalChars]) (by decide)
  | map s => exact hmark '{' (by simp [Value.shownChars, Value.literalChars]) (by decide)

/-! ## §3. Forms. -/

namespace Form

/-- A value that can be written is read as the text it shows. -/
theorem readText_of_isWritable {v : Value} (hw : v.isWritable = true) (hv : v ≠ .null) :
    readText v = .ok (some v.shown) := by
  unfold readText
  split
  next => exact absurd rfl hv
  next =>
    rw [written_of_isWritable hw]
    rfl

/-- A text is read alike before and after. -/
theorem readText_storedValue {v : Value} (hw : v.isWritable = true) (hv : v ≠ .null) :
    readText (storedValue v) = readText v := by
  have hnull : storedValue v ≠ .null := by
    cases v <;> nofun
  rw [readText_of_isWritable (isWritable_storedValue hw) hnull, readText_of_isWritable hw hv,
    shown_storedValue]

/-- The truth value of a word. -/
def truthOf? (word : String) : Option Bool :=
  if trueWords.contains word then some true
  else if falseWords.contains word then some false
  else none

/-- A value that is no flag is one exactly if the text it shows is. -/
theorem toOption_readBool {v : Value} (hw : v.isWritable = true) (hv : ∀ b, v ≠ .bool b) :
    (readBool v).toOption
      = truthOf? (String.ofList (Text.lower (Text.trim v.shownChars))) := by
  unfold readBool truthOf?
  split
  next b => exact absurd rfl (hv b)
  next =>
    rw [written_of_isWritable hw]
    show (if _ then _ else if _ then _ else _ : Except FormError Bool).toOption = _
    split
    · rfl
    · split <;> rfl

/-- A truth value is read alike before and after. -/
theorem toOption_readBool_storedValue {v : Value} (hw : v.isWritable = true) :
    (readBool (storedValue v)).toOption = (readBool v).toOption := by
  by_cases hv : ∃ b, v = .bool b
  · obtain ⟨b, rfl⟩ := hv
    rfl
  · have hv : ∀ b, v ≠ .bool b := fun b hb => hv ⟨b, hb⟩
    -- what is stored as a text is read by its letters, as it was before
    have hstored : ∀ b, storedValue v ≠ .bool b := by
      intro b hb
      cases v <;> first | exact hv _ rfl | exact absurd hb nofun
    rw [toOption_readBool (isWritable_storedValue hw) hstored, toOption_readBool hw hv,
      shownChars_storedValue]

/-- A text that is no whole number is no port. -/
theorem toOption_readPort_text {s : String} (h : readInt? s.toList = none) (hs : s ≠ "") :
    (readPort (.text s)).toOption = none := by
  have hempty : s.isEmpty = false := by
    rw [Bool.eq_false_iff, ne_eq, String.isEmpty_iff]
    exact hs
  rw [readPort, hempty, if_neg Bool.false_ne_true, h]
  rfl

/-- What is stored as its text is no port afterwards. -/
theorem toOption_readPort_stored {v : Value} (hv : IsHeld v) (hstored : storedValue v ≠ v) :
    (readPort (storedValue v)).toOption = none := by
  obtain ⟨hne, hint⟩ := readInt?_shownChars hv hstored
  have htext : storedValue v = .text v.shown := by
    cases v with
    | bool | int => exact absurd rfl hstored
    | _ => rfl
  have hchars : v.shown.toList = v.shownChars := String.toList_ofList
  rw [htext]
  refine toOption_readPort_text (by rw [hchars]; exact hint) fun hempty => hne ?_
  rw [← hchars, hempty]
  rfl

/-- **A port is read alike before and after, unless it is a floating-point number.** -/
theorem toOption_readPort_storedValue {v : Value} (hv : IsHeld v) (hf : ∀ x, v ≠ .float x) :
    (readPort (storedValue v)).toOption = (readPort v).toOption := by
  by_cases hstored : storedValue v = v
  · rw [hstored]
  · rw [toOption_readPort_stored hv hstored]
    -- what remains is refused as it stands
    have hrefused : ∀ w : Value, none
        = (do throw (.port (← written w)) : Except FormError (Option Int)).toOption := by
      intro w
      cases written w <;> rfl
    cases hv with
    | bool | int => exact absurd rfl hstored
    | text s => exact absurd (congrArg Value.text (Value.shown_text s)) hstored
    | float x => exact absurd rfl (hf x)
    | date | time | moment | list | map => exact hrefused _

/-! ## §4. Forms from stored settings. -/

/-- Which entry gives a parameter does not depend on the values. -/
theorem givenValue_mapValues (f : Value → Value) (s : Settings Value) (p : Parameter) :
    givenValue (s.mapValues f) p = (givenValue s p).map f := by
  unfold givenValue
  show Option.map _ (List.find? _ (s.entries.map fun e => (e.1, f e.2)).reverse) = _
  rw [← List.map_reverse, List.find?_map, Option.map_map, Option.map_map]
  rfl

/-- What gives a parameter is an entry. -/
theorem mem_of_givenValue_eq_some {s : Settings Value} {p : Parameter} {v : Value}
    (h : givenValue s p = some v) : ∃ e ∈ s.entries, e.2 = v := by
  obtain ⟨e, he, hv⟩ := Option.map_eq_some_iff.1 h
  exact ⟨e, List.mem_reverse.1 (List.mem_of_find?_eq_some he), hv⟩

/-- The options are all other entries, each as the text it shows. -/
theorem optionsOf_of_isWritable {s : Settings Value}
    (hw : ∀ e ∈ s.entries, e.2.isWritable = true) :
    optionsOf s = .ok ((s.filterKeys fun k => (Parameter.ofKey? k).isNone).mapValues (·.shown)) :=
  if_pos (List.all_eq_true.2 fun e he => hw e (List.mem_of_mem_filter he))

/-- Options are the same texts before and after. -/
theorem optionsOf_mapValues {s : Settings Value}
    (hw : ∀ e ∈ s.entries, e.2.isWritable = true) :
    optionsOf (s.mapValues storedValue) = optionsOf s := by
  have hstored : ∀ e ∈ (s.mapValues storedValue).entries, e.2.isWritable = true := by
    intro e he
    obtain ⟨e', he', rfl⟩ := List.mem_map.1 he
    exact isWritable_storedValue (hw e' he')
  have hshown : (fun v => (storedValue v).shown) = Value.shown := funext shown_storedValue
  rw [optionsOf_of_isWritable hstored, optionsOf_of_isWritable hw,
    Settings.filterKeys_mapValues, Settings.mapValues_mapValues, hshown]

/-- What a document holds and can be written. -/
structure IsKept (s : Settings Value) : Prop where
  held : ∀ e ∈ s.entries, IsHeld e.2
  writable : ∀ e ∈ s.entries, e.2.isWritable = true

/-- **Stored settings fill in the same form, unless the port is a floating-point number.** -/
theorem toOption_ofSettings_mapValues {s : Settings Value} (hs : IsKept s)
    (hport : ∀ x, s.get? "port" ≠ some (.float x)) :
    (ofSettings (s.mapValues storedValue)).toOption = (ofSettings s).toOption := by
  have htext : ∀ p, (readText ((givenValue (s.mapValues storedValue) p).getD .null)).toOption
      = (readText ((givenValue s p).getD .null)).toOption := by
    intro p
    rw [givenValue_mapValues]
    cases hv : givenValue s p with
    | none => rfl
    | some v =>
        obtain ⟨e, he, rfl⟩ := mem_of_givenValue_eq_some hv
        have hnull : e.2 ≠ .null := fun hnull => absurd (hnull ▸ hs.held e he) nofun
        show (readText (storedValue e.2)).toOption = (readText e.2).toOption
        rw [readText_storedValue (hs.writable e he) hnull]
  have hbool : (readBool ((givenValue (s.mapValues storedValue) .ssl).getD (.bool false))).toOption
      = (readBool ((givenValue s .ssl).getD (.bool false))).toOption := by
    rw [givenValue_mapValues]
    cases hv : givenValue s .ssl with
    | none => rfl
    | some v =>
        obtain ⟨e, he, rfl⟩ := mem_of_givenValue_eq_some hv
        exact toOption_readBool_storedValue (hs.writable e he)
  have hnumber : (readPort ((givenValue (s.mapValues storedValue) .port).getD .null)).toOption
      = (readPort ((givenValue s .port).getD .null)).toOption := by
    rw [givenValue_mapValues, givenValue_port]
    cases hv : s.get? "port" with
    | none => rfl
    | some v =>
        have hheld := hs.held ("port", v) (Settings.get?_eq_some_iff.1 hv)
        exact toOption_readPort_storedValue hheld fun x hx => hport x (hx ▸ hv)
  -- in the order in which the fields are read
  unfold ofSettings
  refine toOption_bind_congr (by rw [optionsOf_mapValues hs.writable]) fun options => ?_
  refine toOption_bind_congr hnumber fun port => ?_
  refine toOption_bind_congr (htext .host) fun host => ?_
  refine toOption_bind_congr (htext .dbname) fun dbname => ?_
  refine toOption_bind_congr (htext .user) fun user => ?_
  refine toOption_bind_congr (htext .password) fun password => ?_
  refine toOption_bind_congr hbool fun ssl => ?_
  exact toOption_bind_congr (htext .additionalOptions) fun _ => rfl

/-- A stored floating-point port fills in no form. -/
theorem toOption_ofSettings_of_float {s : Settings Value} {x : Binary64}
    (hport : s.get? "port" = some (.float x)) :
    (ofSettings (s.mapValues storedValue)).toOption = none := by
  have hnone : (readPort ((givenValue (s.mapValues storedValue) .port).getD .null)).toOption
      = none := by
    rw [givenValue_mapValues, givenValue_port, hport]
    exact toOption_readPort_stored (.float x) nofun
  cases h : ofSettings (s.mapValues storedValue) with
  | error e => rfl
  | ok form =>
      rw [(ofSettings_eq_ok_iff.1 h).port] at hnone
      exact absurd hnone nofun

end Form

end SqlDialect
