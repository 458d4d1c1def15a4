/-
  SqlDialect.Proofs.Connection.Options
  ────────────────────────────────
  **OPTIONS ARE READ BACK FROM AN ADDRESS.**

  The options of a descriptor are joined from segments and cut at the same
  separator again.  A segment of a plain option is cut once at its equals
  sign, and the free text is cut as it would be by itself:

      readOptions (optionsText given extra)
        = (defaults with given over them).overlay <$> options of extra
-/
import SqlDialect.Connection.Form
import SqlDialect.Connection.Spec
import SqlDialect.Driver.Builtin
import SqlDialect.Proofs.Number.Digits
import SqlDialect.Proofs.Settings
import SqlDialect.Proofs.Steps
import SqlDialect.Proofs.Text.Segment
import SqlDialect.Transport.Basic

namespace SqlDialect

open SqlDialect.Text

/-! ## §1. Plain options. -/

/-- An option without separators and without blanks around it. -/
structure IsPlainOption (e : String × String) : Prop where
  key_equals : '=' ∉ e.1.toList
  key_separator : '&' ∉ e.1.toList
  key_trimmed : trim e.1.toList = e.1.toList
  value_separator : '&' ∉ e.2.toList
  value_trimmed : trim e.2.toList = e.2.toList

/-- The segment of an option that is a text. -/
def textSegment (e : String × String) : List Char := optionSegment (e.1, .text e.2)

theorem textSegment_eq (e : String × String) :
    textSegment e = e.1.toList ++ '=' :: e.2.toList := rfl

variable {e : String × String}

/-- No separator stands in a plain option. -/
theorem IsPlainOption.notMem_textSegment (h : IsPlainOption e) : '&' ∉ textSegment e := by
  rw [textSegment_eq, List.mem_append, List.mem_cons]
  rintro (hkey | heq | hvalue)
  · exact h.key_separator hkey
  · exact absurd heq (by decide)
  · exact h.value_separator hvalue

/-- **A plain option is read back from its segment.** -/
theorem IsPlainOption.readOption_textSegment (h : IsPlainOption e) (library : String) :
    readOption library (textSegment e) = .ok e := by
  rw [textSegment_eq, readOption, cut?_append h.key_equals]
  show Except.ok (String.ofList (trim e.1.toList), String.ofList (trim e.2.toList)) = _
  rw [h.key_trimmed, h.value_trimmed, String.ofList_toList, String.ofList_toList]

/-! ## §2. The text of options. -/

/-- The parts of a free text that are read as options. -/
def freeParts (extra : List Char) : List (List Char) :=
  (splitOn '&' (trimOptions extra)).filter (!·.isEmpty)

/-- The default options with the given ones over them. -/
def Driver.plainOptions (d : Driver) (given : Settings String) : Settings String :=
  d.defaultOptions.overlay given.entries

variable {d : Driver} {given : Settings String}

/-- Plain defaults and plain options stay plain together. -/
theorem plain_plainOptions (hd : ∀ e ∈ d.defaultOptions.entries, IsPlainOption e)
    (hg : ∀ e ∈ given.entries, IsPlainOption e) :
    ∀ e ∈ (d.plainOptions given).entries, IsPlainOption e := by
  intro e he
  have hget := Settings.get?_eq_some_iff.2 he
  rw [Driver.plainOptions, Settings.get?_overlay, Option.or_eq_some_iff] at hget
  rcases hget with hgiven | ⟨-, hdefault⟩
  · exact hg e (Settings.get?_eq_some_iff.1 hgiven)
  · exact hd e (Settings.get?_eq_some_iff.1 hdefault)

/-- The segments of texts with the free text behind them. -/
theorem optionSegments_texts (d : Driver) (given : Settings String) (extra : List Char) :
    d.optionSegments (given.mapValues .text) extra
      = (d.plainOptions given).entries.map textSegment
        ++ if (trimOptions extra).isEmpty then [] else [trimOptions extra] := by
  have hmerged : d.mergedOptions (given.mapValues .text)
      = (d.plainOptions given).mapValues .text :=
    (Settings.mapValues_overlay Value.text given.entries d.defaultOptions).symm
  rw [Driver.optionSegments, hmerged, Settings.mapValues, List.map_map]
  rfl

/-- The text is cut into the segments of the options and the free parts. -/
theorem filter_splitOn_optionsText (hstyle : d.separatorStyle = .url)
    (hplain : ∀ e ∈ (d.plainOptions given).entries, IsPlainOption e) (extra : List Char) :
    (splitOn '&' (d.optionsText (given.mapValues .text) extra)).filter (!·.isEmpty)
      = (d.plainOptions given).entries.map textSegment ++ freeParts extra := by
  have hkeep : ((d.plainOptions given).entries.map textSegment).filter (!·.isEmpty)
      = (d.plainOptions given).entries.map textSegment := by
    rw [List.filter_eq_self]
    intro s hs
    obtain ⟨e, -, rfl⟩ := List.mem_map.1 hs
    rw [textSegment_eq]
    simp
  have hsep : ∀ s ∈ (d.plainOptions given).entries.map textSegment, '&' ∉ s := by
    intro s hs
    obtain ⟨e, he, rfl⟩ := List.mem_map.1 hs
    exact (hplain e he).notMem_textSegment
  have htext : d.optionsText (given.mapValues .text) extra
      = join ['&'] (d.optionSegments (given.mapValues .text) extra) := by
    rw [Driver.optionsText, hstyle]
    rfl
  rw [htext, optionSegments_texts, freeParts]
  by_cases hextra : (trimOptions extra).isEmpty = true
  · rw [if_pos hextra, List.append_nil, List.isEmpty_iff.1 hextra]
    show _ = _ ++ []
    rw [List.append_nil]
    -- without free text the last option is the last piece
    rcases List.eq_nil_or_concat ((d.plainOptions given).entries.map textSegment) with
      hnil | ⟨front, last, hlast⟩
    · rw [hnil]
      rfl
    · rw [List.concat_eq_append] at hlast
      rw [hlast] at hkeep hsep ⊢
      have hlastSep : '&' ∉ last := hsep last (by simp)
      have hfront : ∀ s ∈ front, '&' ∉ s := fun s hs => hsep s (by simp [hs])
      rw [splitOn_join last hfront, splitOn_of_notMem hlastSep]
      exact hkeep
  · rw [if_neg hextra, splitOn_join _ hsep, List.filter_append, hkeep]

/-- **The options of an address are read back**, those of the free text over
the others. -/
theorem readOptions_optionsText (hstyle : d.separatorStyle = .url)
    (hplain : ∀ e ∈ (d.plainOptions given).entries, IsPlainOption e) (extra : List Char)
    (library : String) :
    readOptions library (String.ofList (d.optionsText (given.mapValues .text) extra))
      = (d.plainOptions given).overlay <$> (freeParts extra).mapM (readOption library) := by
  -- the segments give the options back, so only the free parts can fail
  have hsegments : ((d.plainOptions given).entries.map textSegment).mapM (readOption library)
      = .ok (d.plainOptions given).entries := by
    rw [List.mapM_map]
    have hread := mapM_eq_pure (m := Except TransportError) (f := readOption library ∘ textSegment)
      (g := id) fun e he => (hplain e he).readOption_textSegment library
    rw [List.map_id] at hread
    exact hread
  unfold readOptions
  rw [String.toList_ofList, filter_splitOn_optionsText hstyle hplain]
  show Settings.ofList <$> List.mapM (readOption library) (_ ++ freeParts extra) = _
  rw [List.mapM_append, hsegments]
  cases (freeParts extra).mapM (readOption library) with
  | error e => rfl
  | ok ps =>
      show Except.ok (Settings.ofList ((d.plainOptions given).entries ++ ps)) = _
      rw [Settings.ofList, Settings.overlay_append]
      show Except.ok ((Settings.ofList _).overlay ps) = _
      rw [Settings.ofList_entries]
      rfl

/-- Reading fails for a part without an equals sign, and for no other reason. -/
theorem mapM_freeParts_eq_error_iff (extra : List Char) (library : String) :
    (∃ e, (freeParts extra).mapM (readOption library) = .error e)
      ↔ ∃ part ∈ splitOn '&' (trimOptions extra), part ≠ [] ∧ '=' ∉ part := by
  have hpart : ∀ part, (∃ e, readOption library part = .error e) ↔ '=' ∉ part := by
    intro part
    rw [← cut?_eq_none_iff, readOption]
    cases cut? '=' part with
    | none => exact iff_of_true ⟨_, rfl⟩ rfl
    | some r => exact iff_of_false (fun ⟨_, h⟩ => nomatch h) nofun
  rw [mapM_eq_error_iff]
  constructor
  · rintro ⟨part, hmem, hfail⟩
    obtain ⟨hsplit, hne⟩ := List.mem_filter.1 hmem
    exact ⟨part, hsplit, by simpa using hne, (hpart part).1 hfail⟩
  · rintro ⟨part, hsplit, hne, hequals⟩
    exact ⟨part, List.mem_filter.2 ⟨hsplit, by simpa using hne⟩, (hpart part).2 hequals⟩

/-! ## §3. The options of a descriptor. -/

namespace Driver

/-- The options that are written; the path of a file is none of them. -/
def sentOptions (d : Driver) (f : Form) : Settings String :=
  match d.family with
  | .duckdb => f.options.erase "path"
  | .standard | .hana => f.options

/-- The free text of a form. -/
def freeText (f : Form) : List Char := (f.additionalOptions.map (·.toList)).getD []

/-- The free options of a form are its text, or none. -/
theorem extraOptions_toParameters (f : Form) :
    extraOptions f.toParameters.additionalOptions = .ok (freeText f) := by
  obtain ⟨_, _, _, _, _, _, _, additional⟩ := f
  cases additional <;> rfl

/-- The path of a form is a text. -/
theorem exists_pathOf_eq (d : Driver) (f : Form) : ∃ s, d.pathOf f.toParameters = .text s := by
  have hoptional : ∀ o : Option String, (Form.optionalText o).isTruthy = true →
      ∃ s, Form.optionalText o = .text s := by
    rintro (_ | s) h
    · exact absurd h nofun
    · exact ⟨s, rfl⟩
  have hoption : (f.toParameters.options.get? "path").getD .null
      = Form.optionalText (f.options.get? "path") := by
    show ((f.options.mapValues Value.text).get? "path").getD .null = _
    rw [Settings.get?_mapValues]
    rfl
  -- the path is an option, else the database, else the default
  unfold pathOf
  rw [hoption]
  show ∃ s, (if (Form.optionalText (f.options.get? "path")).isTruthy = true then
    Form.optionalText (f.options.get? "path")
    else if (Form.optionalText f.dbname).isTruthy = true then Form.optionalText f.dbname
    else .text d.defaultPath) = .text s
  split
  next htrue => exact hoptional _ htrue
  next =>
    split
    next htrue => exact hoptional _ htrue
    next => exact ⟨_, rfl⟩

/-- Options can be put behind every path that is a text. -/
theorem pathWithOptions_text (d : Driver) (path : String) (options : List Char) :
    ∃ v, d.pathWithOptions (.text path) options = .ok v := by
  unfold pathWithOptions
  split
  · exact ⟨_, rfl⟩
  · cases d.separatorStyle <;> exact ⟨_, rfl⟩

/-- Databases other than DuckDB are on a host. -/
theorem descriptor_of_family_ne (h : d.family ≠ .duckdb) (p : Parameters) :
    d.descriptor p = d.hostDescriptor p := by
  unfold descriptor
  cases hfamily : d.family with
  | duckdb => exact absurd hfamily h
  | standard => rfl
  | hana => rfl

/-- A host's descriptor has the host's address. -/
theorem address_of_hostDescriptor {p : Parameters} {desc : Descriptor}
    (h : d.hostDescriptor p = .ok desc) : desc.host = d.hostOf p ∧ desc.port = d.portOf p := by
  unfold hostDescriptor at h
  obtain ⟨extra, -, h⟩ := exists_of_bind_eq_ok h
  split at h
  · exact absurd h nofun
  · obtain rfl := Except.ok.inj h
    exact ⟨rfl, rfl⟩

/-- The names that properties of a descriptor have. -/
def propertyNames (d : Driver) : List String :=
  ["path", "user", "password", d.databaseProperty, d.encryptProperty]

/-- Setting an expected name leaves all names expected ones. -/
theorem mem_keys_insert {α : Type} {s : Settings α} {names : List String} {name : String} (v : α)
    (hname : name ∈ names) (hs : ∀ k ∈ s.keys, k ∈ names) :
    ∀ k ∈ (s.insert name v).keys, k ∈ names := by
  intro k hk
  rw [Settings.keys_insert] at hk
  split at hk
  · exact hs k hk
  · rcases List.mem_append.1 hk with hold | hnew
    · exact hs k hold
    · exact List.mem_singleton.1 hnew ▸ hname

/-- A connection has no property but those that its driver names. -/
theorem mem_propertyNames_of_connectionProperties (d : Driver) (p : Parameters) :
    ∀ k ∈ (d.connectionProperties p).keys, k ∈ d.propertyNames := by
  have huser : ∀ k ∈ (Settings.empty.insert "user" (orDefault p.user (.text d.defaultUser))).keys,
      k ∈ d.propertyNames :=
    mem_keys_insert _ (by simp [propertyNames]) fun _ h => absurd h (by simp)
  unfold connectionProperties
  refine mem_keys_insert _ (by simp [propertyNames]) ?_
  -- password and database are named only if they are given
  split
  case' h_2 => refine mem_keys_insert _ (by simp [propertyNames]) ?_
  all_goals
    split
    · exact huser
    · exact mem_keys_insert _ (by simp [propertyNames]) huser

/-- The driver gives a descriptor of the form, whose options are those that
are written, unless the port of a host has too many digits. -/
theorem descriptor_toParameters (d : Driver) (f : Form) :
    (d.family ≠ .duckdb ∧ (d.portOf f.toParameters).isWritable = false ∧
      d.descriptor f.toParameters = .error .tooManyDigits) ∨
    ∃ desc, d.descriptor f.toParameters = .ok desc ∧
      desc.options = String.ofList
        (d.optionsText ((d.sentOptions f).mapValues .text) (freeText f)) ∧
      ∀ k ∈ desc.properties.keys, k ∈ d.propertyNames := by
  -- a file needs no port, so nothing can be too long to write there
  by_cases hfamily : d.family = .duckdb
  · right
    obtain ⟨path, hpath⟩ := d.exists_pathOf_eq f
    obtain ⟨subname, hsubname⟩ := d.pathWithOptions_text path
      (d.optionsText ((d.sentOptions f).mapValues .text) (freeText f))
    have hsent : d.sentOptions f = f.options.erase "path" := by
      rw [sentOptions, hfamily]
    have herase : f.toParameters.options.erase "path"
        = (d.sentOptions f).mapValues .text := by
      rw [hsent]
      exact Settings.erase_mapValues Value.text f.options "path"
    rw [descriptor, hfamily]
    show ∃ desc, d.fileDescriptor f.toParameters = .ok desc ∧ _
    unfold fileDescriptor
    rw [extraOptions_toParameters, hpath, herase]
    show ∃ desc, (d.pathWithOptions (.text path) _ >>= fun subname => pure _) = .ok desc ∧ _
    rw [hsubname]
    exact ⟨_, rfl, rfl, mem_keys_insert _ (by simp [propertyNames]) fun _ h => absurd h (by simp)⟩
  · have hsent : d.sentOptions f = f.options := by
      unfold sentOptions
      split
      next h => exact absurd h hfamily
      · rfl
      · rfl
    rw [descriptor_of_family_ne hfamily, hsent]
    unfold hostDescriptor
    rw [extraOptions_toParameters]
    cases hport : (d.portOf f.toParameters).isWritable
    · exact .inl ⟨hfamily, rfl, rfl⟩
    · exact .inr ⟨_, rfl, rfl, d.mem_propertyNames_of_connectionProperties _⟩

/-- A host's port with more digits than are written gives none. -/
theorem descriptor_of_long_port {f : Form} (hfamily : d.family ≠ .duckdb)
    (hport : (d.portOf f.toParameters).isWritable = false) :
    d.descriptor f.toParameters = .error .tooManyDigits := by
  rw [descriptor_of_family_ne hfamily, hostDescriptor, extraOptions_toParameters, hport]
  rfl

/-- The default port of HANA can be written. -/
theorem isWritable_portOf_hana {f : Form} (h : f.port = none) :
    (Driver.hana.portOf f.toParameters).isWritable ≠ false := by
  have hport : Driver.hana.portOf f.toParameters = .int 30015 := by
    show orDefault ((f.port.map Value.int).getD .null) (.int 30015) = _
    rw [h]
    rfl
  rw [hport, ne_eq, Bool.not_eq_false]
  exact Number.isWritable_of_length_le (n := 30015) (by decide)

end Driver

end SqlDialect
