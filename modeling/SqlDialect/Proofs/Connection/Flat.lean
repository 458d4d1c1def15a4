/-
  SqlDialect.Proofs.Connection.Flat
  ────────────────────────────────
  **FORMS COME BACK FROM FLAT SETTINGS.**

  Flat settings hold what a form has, each field under one of its spellings and
  each option under its own key, in any order.  The port and the encryption
  switch may stand there as texts.  They fill in the form that they came from:

      IsFlat f s  →  ofSettings s = .ok { f with options := the options of s }

  A key that spells a field spells no other, and no option spells one.
-/
import SqlDialect.Proofs.Connection.Stored
import SqlDialect.Proofs.Number.Digits
import SqlDialect.Proofs.Store.Entry
import SqlDialect.Proofs.Text.Segment

namespace SqlDialect

open SqlDialect.Text SqlDialect.Number

namespace Form

/-! ## §1. Flat settings. -/

/-- The text that a form has for a parameter; the port and the encryption
switch are no texts. -/
def textOf (f : Form) : Parameter → Option String
  | .host => f.host
  | .dbname => f.dbname
  | .user => f.user
  | .password => f.password
  | .additionalOptions => f.additionalOptions
  | .port | .ssl => none

/-- What stands for a field of the form, if anything does. -/
inductive Given (f : Form) : Parameter → Option Value → Prop
  | text {p : Parameter} (hport : p ≠ .port) (hssl : p ≠ .ssl) :
      Given f p ((f.textOf p).map .text)
  | port : Given f .port (f.port.map .int)
  /-- The port in decimal digits. -/
  | portText : Given f .port (f.port.map fun n => .text (String.ofList (intText n)))
  | ssl : Given f .ssl (some (.bool f.ssl))
  /-- The word for the truth value in any case, with blanks around it. -/
  | sslText {a word b : List Char} (ha : ∀ c ∈ a, isBlank c = true)
      (hword : word.map Char.toLower = (if f.ssl then "true" else "false").toList)
      (hb : ∀ c ∈ b, isBlank c = true) :
      Given f .ssl (some (.text (String.ofList (a ++ word ++ b))))

/-- The fields under the chosen spellings, and the options. -/
def flatEntries (f : Form) (spelling : Parameter → String) (given : Parameter → Option Value) :
    List (String × Value) :=
  Parameter.all.filterMap (fun p => (given p).map (spelling p, ·))
    ++ (f.options.mapValues .text).entries

/-- The settings hold the form in any order, each field under a spelling of its own. -/
structure HoldsAs (f : Form) (spelling : Parameter → String) (given : Parameter → Option Value)
    (s : Settings Value) : Prop where
  spelled : ∀ p, spelling p ∈ p.spellings
  stands : ∀ p, Given f p (given p)
  entries : s.entries.Perm (flatEntries f spelling given)

/-- The settings hold the form, however its fields are spelled and given. -/
def IsFlat (f : Form) (s : Settings Value) : Prop :=
  ∃ spelling given, HoldsAs f spelling given s

variable {f : Form} {spelling : Parameter → String} {given : Parameter → Option Value}
  {s : Settings Value}

/-- A flat entry is a parameter that is given, or an option. -/
theorem mem_flatEntries_iff {k : String} {v : Value} :
    (k, v) ∈ flatEntries f spelling given ↔
      (∃ p, k = spelling p ∧ given p = some v) ∨
        (k, v) ∈ (f.options.mapValues .text).entries := by
  rw [flatEntries, List.mem_append, List.mem_filterMap]
  refine or_congr_left ?_
  constructor
  · rintro ⟨p, -, hp⟩
    obtain ⟨w, hw, heq⟩ := Option.map_eq_some_iff.1 hp
    obtain ⟨rfl, rfl⟩ := Prod.mk.inj heq
    exact ⟨p, rfl, hw⟩
  · rintro ⟨p, rfl, hp⟩
    exact ⟨p, p.mem_all, by rw [hp]; rfl⟩

/-! ## §2. The options. -/

/-- No key of an option spells a field. -/
def HasOwnOptions (f : Form) : Prop :=
  ∀ k ∈ f.options.keys, Parameter.ofKey? k = none

/-- No option is taken for a parameter. -/
theorem HasOwnOptions.ofKey?_eq_none (h : HasOwnOptions f) {e : String × Value}
    (he : e ∈ (f.options.mapValues .text).entries) : Parameter.ofKey? e.1 = none := by
  obtain ⟨e', he', rfl⟩ := List.mem_map.1 he
  exact h e'.1 (List.mem_map_of_mem he')

/-- Of the flat entries the options are left. -/
theorem filter_flatEntries (hown : HasOwnOptions f) (hspelling : ∀ p, spelling p ∈ p.spellings)
    (given : Parameter → Option Value) :
    (flatEntries f spelling given).filter (fun e => (Parameter.ofKey? e.1).isNone)
      = (f.options.mapValues .text).entries := by
  have hfields : (Parameter.all.filterMap (fun p => (given p).map (spelling p, ·))).filter
      (fun e => (Parameter.ofKey? e.1).isNone) = [] := by
    rw [List.filter_eq_nil_iff]
    intro e he
    obtain ⟨p, -, hp⟩ := List.mem_filterMap.1 he
    obtain ⟨v, -, rfl⟩ := Option.map_eq_some_iff.1 hp
    rw [p.ofKey?_of_mem (spelling p) (hspelling p)]
    exact nofun
  rw [flatEntries, List.filter_append, hfields, List.nil_append, List.filter_eq_self]
  intro e he
  rw [hown.ofKey?_eq_none he]
  rfl

/-- **The options are found in the order of the settings.** -/
theorem HoldsAs.exists_optionsOf_eq (h : HoldsAs f spelling given s) (hown : HasOwnOptions f) :
    ∃ options, optionsOf s = .ok options ∧ options.entries.Perm f.options.entries ∧
      (options.mapValues .text).entries.Sublist s.entries := by
  let kept := s.filterKeys fun k => (Parameter.ofKey? k).isNone
  have hkept : kept.entries.Perm (f.options.mapValues .text).entries := by
    rw [← filter_flatEntries hown h.spelled given]
    exact h.entries.filter _
  -- so what is kept are texts, which can be written and show themselves
  have htext : ∀ e ∈ kept.entries, ∃ t, e.2 = .text t := by
    intro e he
    obtain ⟨e', -, rfl⟩ := List.mem_map.1 (hkept.mem_iff.1 he)
    exact ⟨e'.2, rfl⟩
  have hwritable : kept.entries.all (·.2.isWritable) = true := by
    rw [List.all_eq_true]
    intro e he
    obtain ⟨t, ht⟩ := htext e he
    rw [ht]
    rfl
  refine ⟨kept.mapValues (·.shown), ?_, ?_, ?_⟩
  · exact if_pos hwritable
  · have hshown := hkept.map fun e => (e.1, e.2.shown)
    have hback : (f.options.mapValues .text).mapValues Value.shown = f.options := by
      rw [Settings.mapValues_mapValues]
      exact Settings.mapValues_eq_self fun e _ => Value.shown_text e.2
    rw [← hback]
    exact hshown
  · rw [Settings.mapValues_mapValues, Settings.mapValues_eq_self]
    · exact List.filter_sublist
    · intro e he
      obtain ⟨t, ht⟩ := htext e he
      rw [ht, Value.shown_text]

/-! ## §3. The fields. -/

/-- A field is given once. -/
theorem HoldsAs.givenValue_eq (h : HoldsAs f spelling given s) (hown : HasOwnOptions f)
    (p : Parameter) : givenValue s p = given p := by
  refine givenValue_of_unique fun v => ?_
  constructor
  · rintro ⟨k, hk, hmem⟩
    have hkey := p.ofKey?_of_mem k hk
    -- a key that spells this field stands for no other and is no option
    rcases mem_flatEntries_iff.1 (h.entries.mem_iff.1 hmem) with ⟨q, rfl, hq⟩ | hoption
    · have hqkey := q.ofKey?_of_mem (spelling q) (h.spelled q)
      rw [Option.some.inj (hkey.symm.trans hqkey)]
      exact hq
    · exact absurd (hkey.symm.trans (hown.ofKey?_eq_none hoption)) nofun
  · intro hv
    exact ⟨spelling p, h.spelled p, h.entries.mem_iff.2 (mem_flatEntries_iff.2 (.inl ⟨p, rfl, hv⟩))⟩

/-- A port given as a text is the number that the text reads as. -/
theorem readPort_text_of_ne {s : List Char} (h : s ≠ []) :
    readPort (.text (String.ofList s)) = match readInt? s with
      | some n => .ok (some n)
      | none => .error (.port (.text (String.ofList s))) := by
  have hempty : (String.ofList s).isEmpty = false := by
    rw [Bool.eq_false_iff, ne_eq, String.isEmpty_iff]
    intro hs
    have hchars := congrArg String.toList hs
    rw [String.toList_ofList] at hchars
    exact h hchars
  have hread : readPort (.text (String.ofList s)) = match readInt? (String.ofList s).toList with
      | some n => .ok (some n)
      | none => .error (.port (.text (String.ofList s))) :=
    if_neg (Bool.eq_false_iff.1 hempty)
  rw [hread, String.toList_ofList]

/-- A port that can be written is read back from its text. -/
theorem readPort_intText {n : Int} (h : Number.isWritable n = true) :
    readPort (.text (String.ofList (intText n))) = .ok (some n) := by
  rw [readPort_text_of_ne (intText_ne_nil n), readInt?, readInt_intText h]
  rfl

/-- A port with too many digits is not read back. -/
theorem readPort_intText_of_long {n : Int} (h : Number.isWritable n = false) :
    readPort (.text (String.ofList (intText n)))
      = .error (.port (.text (String.ofList (intText n)))) := by
  rw [readPort_text_of_ne (intText_ne_nil n), readInt?, readInt_intText_of_long h]
  rfl

/-- The words for true and false are read in any casing and with white space
around them. -/
theorem readBool_word {a word b : List Char} {ssl : Bool} (ha : ∀ c ∈ a, isBlank c = true)
    (hword : word.map Char.toLower = (if ssl then "true" else "false").toList)
    (hb : ∀ c ∈ b, isBlank c = true) :
    readBool (.text (String.ofList (a ++ word ++ b))) = .ok ssl := by
  have hplain : ∀ c ∈ (if ssl then "true" else "false").toList,
      (decide (c.toNat < 128) && !isBlank c) = true := by
    refine List.all_eq_true.1 ?_
    cases ssl <;> decide
  simp only [Bool.and_eq_true, decide_eq_true_iff, Bool.not_eq_true'] at hplain
  have hlower := lower_of_map_toLower hword fun c hc => (hplain c hc).1
  have hblank := isBlank_of_map_toLower hword fun c hc => (hplain c hc).2
  have htruth : truthOf? (String.ofList (if ssl then "true" else "false").toList) = some ssl := by
    cases ssl <;> rfl
  have hread := toOption_readBool (v := .text (String.ofList (a ++ word ++ b))) rfl nofun
  rw [Value.shownChars, String.toList_ofList, trim_append ha hblank hb, hlower, htruth] at hread
  exact eq_ok_of_toOption_eq_some hread

namespace Given

variable {p : Parameter} {v : Option Value}

/-- Each parameter is read as the text that the form has for it. -/
theorem readText_eq (h : Given f p v) (hport : p ≠ .port) (hssl : p ≠ .ssl) :
    readText (v.getD .null) = .ok (f.textOf p) := by
  cases h with
  | text => exact readText_optionalText (f.textOf p)
  | port | portText => exact absurd rfl hport
  | ssl | sslText => exact absurd rfl hssl

/-- A port of any size is read as a number, and as a text if it is not too long. -/
theorem readPort_eq (h : Given f .port v)
    (hdigits : ∀ n t, f.port = some n → v = some (.text t) → Number.isWritable n = true) :
    readPort (v.getD .null) = .ok f.port := by
  cases h with
  | text hport => exact absurd rfl hport
  | port => exact readPort_given f.port
  | portText =>
      cases hn : f.port with
      | none => rfl
      | some n =>
          rw [hn] at hdigits
          exact readPort_intText (hdigits n _ rfl rfl)

/-- The port is no other text than its digits. -/
theorem eq_intText (h : Given f .port v) {n : Int} {t : String} (hn : f.port = some n)
    (ht : v = some (.text t)) : t = String.ofList (intText n) := by
  cases h with
  | text hport => exact absurd rfl hport
  | port =>
      rw [hn] at ht
      exact absurd (Option.some.inj ht) nofun
  | portText =>
      rw [hn] at ht
      exact (Value.text.inj (Option.some.inj ht)).symm

/-- The flag is read as the form has it. -/
theorem readBool_eq (h : Given f .ssl v) : readBool (v.getD (.bool false)) = .ok f.ssl := by
  cases h with
  | text _ hssl => exact absurd rfl hssl
  | ssl => rfl
  | sslText ha hword hb => exact readBool_word ha hword hb

end Given

/-! ## §4. The form. -/

/-- **A form comes back from its flat settings**, in whatever order they are and
however its fields are spelled, unless its port stands there as a text of too
many digits.  The options come in the order of the settings. -/
theorem ofSettings_flat {f : Form} {s : Settings Value} (hown : HasOwnOptions f)
    (hflat : IsFlat f s)
    (hdigits : ∀ n t, f.port = some n → s.get? "port" = some (.text t) →
      Number.isWritable n = true) :
    ∃ options : Settings String, ofSettings s = .ok { f with options } ∧
      options.entries.Perm f.options.entries ∧
      (options.mapValues .text).entries.Sublist s.entries := by
  obtain ⟨spelling, given, hs⟩ := hflat
  obtain ⟨options, hoptions, hperm, horder⟩ := hs.exists_optionsOf_eq hown
  refine ⟨options, ofSettings_eq_ok_iff.2 ?_, hperm, horder⟩
  -- each parameter is found under whichever spelling the settings use
  have hfield : ∀ p, givenValue s p = given p := hs.givenValue_eq hown
  have htext : ∀ p, p ≠ .port → p ≠ .ssl →
      readText ((givenValue s p).getD .null) = .ok (f.textOf p) := by
    intro p hport hssl
    rw [hfield]
    exact (hs.stands p).readText_eq hport hssl
  rw [← givenValue_port, hfield] at hdigits
  exact {
    options := hoptions
    host := htext .host nofun nofun
    dbname := htext .dbname nofun nofun
    user := htext .user nofun nofun
    password := htext .password nofun nofun
    additionalOptions := htext .additionalOptions nofun nofun
    port := by
      rw [hfield]
      exact (hs.stands .port).readPort_eq hdigits
    ssl := by
      rw [hfield]
      exact (hs.stands .ssl).readBool_eq }

/-- What stands for the fields of a form that is written out in texts only. -/
def inWords (f : Form) : Parameter → Option Value
  | .port => f.port.map fun n => .text (String.ofList (intText n))
  | .ssl => some (.text (if f.ssl then "true" else "false"))
  | p => (f.textOf p).map .text

/-- A form may be told in words only. -/
theorem given_inWords (f : Form) (p : Parameter) : Given f p (f.inWords p) := by
  have hnone : ∀ c ∈ ([] : List Char), isBlank c = true := fun c hc => absurd hc List.not_mem_nil
  cases p with
  | port => exact .portText
  | ssl =>
      obtain ⟨word, hword, hspelled⟩ : ∃ word : List Char,
          word.map Char.toLower = (if f.ssl then "true" else "false").toList ∧
            String.ofList ([] ++ word ++ []) = if f.ssl then "true" else "false" := by
        cases f.ssl
        · exact ⟨"false".toList, by decide, rfl⟩
        · exact ⟨"true".toList, by decide, rfl⟩
      have hgiven := Given.sslText hnone hword hnone
      rw [hspelled] at hgiven
      exact hgiven
  | _ => exact .text nofun nofun

/-- A form in words, its options first and one of them called like the port. -/
theorem ofSettings_flat_in_words : ∃ options : Settings String,
    ofSettings (.ofList [("Port", ""), ("", "x"), ("ssl", "true"), ("database", ""), ("port", "-5")])
        = .ok { port := some (-5), dbname := some "", ssl := true, options } ∧
      options.entries.Perm [("", "x"), ("Port", "")] ∧
      (options.mapValues Value.text).entries.Sublist (Settings.ofList
        [("Port", ("" : Value)), ("", "x"), ("ssl", "true"), ("database", ""),
          ("port", "-5")]).entries := by
  refine ofSettings_flat
    (f := { port := some (-5), dbname := some "", ssl := true,
            options := .ofList [("", "x"), ("Port", "")] }) ?_ ?_ ?_
  · show ∀ k ∈ ["", "Port"], Parameter.ofKey? k = none
    decide
  -- every parameter in its last spelling, and the entries in another order
  · refine ⟨fun p => p.spellings.getLastD "", _, fun p => ?_, given_inWords _, ?_⟩
    · cases p <;> decide
    · exact List.reverse_perm
        [("port", ("-5" : Value)), ("database", ""), ("ssl", "true"), ("", "x"), ("Port", "")]
  · rintro n t hn -
    obtain rfl := Option.some.inj hn
    exact Number.isWritable_of_length_le (by decide)

/-! ## §5. The limit. -/

/-- A port that stands there as a text of too many digits is refused. -/
theorem ofSettings_flat_of_long {f : Form} {s : Settings Value} (hown : HasOwnOptions f)
    (hflat : IsFlat f s) {n : Int} {t : String} (hn : f.port = some n)
    (hlong : Number.isWritable n = false) (ht : s.get? "port" = some (.text t)) :
    ofSettings s = .error (.port (.text t)) := by
  obtain ⟨spelling, given, hs⟩ := hflat
  obtain ⟨options, hoptions, -, -⟩ := hs.exists_optionsOf_eq hown
  have hdigits : t = String.ofList (intText n) := by
    rw [← givenValue_port, hs.givenValue_eq hown] at ht
    exact (hs.stands .port).eq_intText hn ht
  refine ofSettings_of_readPort_eq_error hoptions ?_
  rw [givenValue_port, ht, hdigits]
  exact readPort_intText_of_long hlong

/-- **Not every port comes back from its digits**: one of 4301 digits does not. -/
theorem long_port_text_is_refused : ∃ n : Nat, n = Number.power 10 Number.maxDigits ∧
    HasOwnOptions { port := some n } ∧
    IsFlat { port := some n }
      (.ofList [("port", .text (String.ofList (intText n))), ("ssl", "false")]) ∧
    ofSettings (.ofList [("port", .text (String.ofList (intText n))), ("ssl", "false")])
      = .error (.port (.text (String.ofList (intText n)))) := by
  have hlong := Number.isWritable_power_eq_false (Nat.le_refl Number.maxDigits)
  generalize Number.power 10 Number.maxDigits = n at hlong ⊢
  have hown : HasOwnOptions { port := some (n : Int) } := fun k hk => absurd hk List.not_mem_nil
  have hflat : IsFlat { port := some (n : Int) }
      (.ofList [("port", .text (String.ofList (intText n))), ("ssl", "false")]) := by
    refine ⟨Parameter.key, _, fun p => ?_, given_inWords _, List.Perm.refl _⟩
    cases p <;> decide
  exact ⟨n, rfl, hown, hflat, ofSettings_flat_of_long hown hflat rfl hlong rfl⟩

end Form

end SqlDialect
