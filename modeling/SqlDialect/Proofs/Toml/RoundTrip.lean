/-
  SqlDialect.Proofs.Toml.RoundTrip
  ────────────────────────────────
  **WRITTEN TABLES ARE READ BACK.**

  The lines of a table read as its statements, and the statements put the
  table into the document.  So tables with different names are read back in
  their order, each with its entries as they are stored:

      read (write tables) = .ok (.ofList (storedTables tables))
-/
import SqlDialect.Proofs.Toml.Document

namespace SqlDialect.Toml

open SqlDialect.Text SqlDialect.Number

/-! ## §1. The lines of a table. -/

/-- Lines with an assignment each. -/
theorem lines_assignments : ∀ {es : List (String × Value)},
    (∀ e ∈ es, e.2.isWritable = true) →
      Lines (es.map fun e => assignmentLine e.1.toList e.2) (assignments es)
  | [], _ => .nil
  | e :: es, h => by
      have hline := readsAs_assignment e.1.toList (h e (by simp))
      rw [String.ofList_toList] at hline
      exact .statement hline (lines_assignments fun e' he' => h e' (by simp [he']))

/-- The options are a blank line, a header and a line each, or nothing. -/
theorem optionsLines_eq (name : String) (entry : Settings Value) :
    optionsLines name entry
      = if (optionEntries entry).isEmpty then []
        else [] :: ('[' :: writtenName name ++ ".options]".toList)
          :: (optionEntries entry).map fun e => assignmentLine e.1.toList e.2 := by
  unfold optionsLines optionEntries
  cases hget : entry.get? optionsName with
  | none => rfl
  | some v =>
      cases v
      case map options =>
        cases options with
        | nil => rfl
        | cons e options => simp [Value.shown]
      all_goals rfl

/-- Each option of an entry that can be written can be. -/
theorem isWritable_of_mem_optionEntries {entry : Settings Value}
    (h : isWritable entry = true) : ∀ e ∈ optionEntries entry, e.2.isWritable = true := by
  have hopt := (Bool.and_eq_true_iff.1 h).2
  intro e he
  unfold optionEntries at he
  split at he
  next options hget =>
    rw [hget] at hopt
    obtain ⟨e', he', rfl⟩ := List.mem_map.1 he
    exact List.all_eq_true.1 hopt e' he'
  next => exact absurd he (by simp)

/-- Each plain entry of one that can be written can be. -/
theorem isWritable_of_mem_plainEntries {entry : Settings Value}
    (h : isWritable entry = true) : ∀ e ∈ plainEntries entry, e.2.isWritable = true :=
  List.all_eq_true.1 (Bool.and_eq_true_iff.1 h).1

/-- An entry can be written if each part of it can. -/
theorem isWritable_of_entries {entry : Settings Value}
    (hplain : ∀ e ∈ plainEntries entry, e.2.isWritable = true)
    (hoptions : ∀ e ∈ optionEntries entry, e.2.isWritable = true) : isWritable entry = true := by
  refine Bool.and_eq_true_iff.2 ⟨List.all_eq_true.2 hplain, ?_⟩
  unfold optionEntries at hoptions
  cases hget : entry.get? optionsName with
  | none => rfl
  | some v =>
      rw [hget] at hoptions
      cases v with
      | map options =>
          exact List.all_eq_true.2 fun e he => hoptions (e.1.shown, e.2) (List.mem_map_of_mem he)
      | _ => rfl

/-- The lines of a table are read as its statements. -/
theorem lines_tableLines (name : String) {entry : Settings Value}
    (h : isWritable entry = true) :
    Lines (tableLines name entry) (tableStatements name entry) := by
  have hplain := Lines.statement (readsAs_header name)
    (lines_assignments (isWritable_of_mem_plainEntries h))
  have hoptions := Lines.blank (.statement (readsAs_optionsHeader name)
    (lines_assignments (isWritable_of_mem_optionEntries h)))
  have hend : Lines [[]] [] := .blank .nil
  rw [tableLines, tableStatements, optionsLines_eq,
    ← List.append_nil (.table [name] :: assignments (plainEntries entry) ++ _)]
  split
  · exact (hplain.append .nil).append hend
  · exact (hplain.append hoptions).append hend

/-- The lines of all tables are read as their statements. -/
theorem lines_tables : ∀ {tables : List (String × Settings Value)},
    (∀ e ∈ tables, isWritable e.2 = true) →
      Lines (tables.flatMap fun e => tableLines e.1 e.2)
        (tables.flatMap fun e => tableStatements e.1 e.2)
  | [], _ => .nil
  | e :: tables, h => by
      rw [List.flatMap_cons, List.flatMap_cons]
      exact (lines_tableLines e.1 (h e (by simp))).append
        (lines_tables fun e' he' => h e' (by simp [he']))

/-! ## §2. The text of lines. -/

/-- What stands between joined lines stands in one or in the separator. -/
theorem mem_join {sep : List Char} {x : Char} : ∀ {ls : List (List Char)},
    x ∈ join sep ls → x ∈ sep ∨ ∃ l ∈ ls, x ∈ l
  | [l], h => .inr ⟨l, by simp, h⟩
  | l :: l' :: ls, h => by
      rw [join, List.mem_append, List.mem_append] at h
      rcases h with (hl | hsep) | hrest
      · exact .inr ⟨l, by simp, hl⟩
      · exact .inl hsep
      · obtain hsep | ⟨m, hm, hx⟩ := mem_join hrest
        · exact .inl hsep
        · exact .inr ⟨m, List.mem_cons_of_mem l hm, hx⟩

/-- No control character is written. -/
theorem isControl_of_mem_writtenValue {v : Value} {x : Char} (h : x ∈ writtenValue v) :
    isControl x = false := by
  cases v
  case bool b =>
    have hnone : ∀ b : Bool, (writtenValue (.bool b)).all (!isControl ·) = true := by decide
    simpa using List.all_eq_true.1 (hnone b) x h
  case int n =>
    replace h : x ∈ intText n := h
    rw [intText_eq, List.mem_append] at h
    obtain hsign | hdigit := h
    · split at hsign
      · obtain rfl := List.mem_singleton.1 hsign
        rfl
      · exact absurd hsign (by simp)
    · have hcode := toNat_of_isDigit (isDigit_of_mem_natText hdigit)
      simp only [isControl, Bool.or_eq_false_iff, Bool.and_eq_false_iff, decide_eq_false_iff_not,
        beq_eq_false_iff_ne]
      omega
  all_goals exact isControl_of_mem_writtenText h

/-- No control character stands in the line of an entry. -/
theorem isControl_of_mem_assignmentLine {name : List Char} {v : Value} {x : Char}
    (h : x ∈ assignmentLine name v) : isControl x = false := by
  simp only [assignmentLine, List.mem_append, List.mem_cons] at h
  rcases h with hname | rfl | rfl | rfl | hv
  · exact isControl_of_mem_writtenText hname
  · rfl
  · rfl
  · rfl
  · exact isControl_of_mem_writtenValue hv

/-- A written line holds no control character. -/
theorem isControl_of_mem_tableLines {name : String} {entry : Settings Value}
    {l : List Char} {x : Char} (hl : l ∈ tableLines name entry) (hx : x ∈ l) :
    isControl x = false := by
  have hheader : ∀ ends : List Char, ends.all (!isControl ·) = true →
      x ∈ '[' :: writtenName name ++ ends → isControl x = false := by
    intro ends hends hmem
    rw [List.mem_append, List.mem_cons] at hmem
    rcases hmem with (rfl | hname) | hend
    · rfl
    · exact isControl_of_mem_writtenText hname
    · simpa using List.all_eq_true.1 hends x hend
  have hassign : ∀ es : List (String × Value),
      l ∈ es.map (fun e => assignmentLine e.1.toList e.2) → isControl x = false := by
    intro es hmem
    obtain ⟨e, -, rfl⟩ := List.mem_map.1 hmem
    exact isControl_of_mem_assignmentLine hx
  rw [tableLines, optionsLines_eq, List.mem_append, List.mem_append, List.mem_cons] at hl
  -- a header, the entries, the options below theirs, and a blank line
  rcases hl with ((rfl | hplain) | hoptions) | hend
  · exact hheader _ (by decide) hx
  · exact hassign _ hplain
  · split at hoptions
    · exact absurd hoptions (by simp)
    · rw [List.mem_cons, List.mem_cons] at hoptions
      rcases hoptions with rfl | rfl | hmem
      · exact absurd hx (by simp)
      · exact hheader _ (by decide) hx
      · exact hassign _ hmem
  · obtain rfl := List.mem_singleton.1 hend
    exact absurd hx (by simp)

/-- Each line takes a character at least. -/
theorem length_le_length_below : ∀ ls : List (List Char), ls.length ≤ (below ls).length
  | [] => Nat.le_refl 0
  | l :: ls => by
      have ih := length_le_length_below ls
      show (l :: ls).length ≤ ('\n' :: join ['\n'] (l :: ls)).length
      rw [join_cons, List.length_cons, List.length_cons, List.length_append]
      omega

/-- There are no more lines than characters, since the first line is a header. -/
theorem length_tables_le (tables : List (String × Settings Value)) :
    (tables.flatMap fun e => tableLines e.1 e.2).length
      ≤ (join ['\n'] (tables.flatMap fun e => tableLines e.1 e.2)).length := by
  cases tables with
  | nil => exact Nat.le_refl 0
  | cons e tables =>
      obtain ⟨c, l, ls, hls⟩ : ∃ c l ls, (e :: tables).flatMap (fun e => tableLines e.1 e.2)
          = (c :: l) :: ls := ⟨_, _, _, by rw [List.flatMap_cons]; rfl⟩
      have hbelow := length_le_length_below ls
      rw [hls, join_cons, List.length_cons, List.cons_append, List.length_cons,
        List.length_append]
      omega

/-! ## §3. The document. -/

/-- Named values make the settings with these entries. -/
theorem toSettings_named (es : List (String × Value)) :
    Table.toSettings (es.map fun e => (.text e.1, e.2)) = .ofList es := by
  rw [Table.toSettings, List.filterMap_map]
  congr 1
  exact List.filterMap_eq_map_iff_forall_eq_some.2 (fun _ _ => rfl) |>.trans (List.map_id es)

/-- **Written tables are read back**, each with its entries as they are stored. -/
theorem read_write {tables : List (String × Settings Value)}
    (hnd : (tables.map (·.1)).Nodup) (hw : ∀ e ∈ tables, isWritable e.2 = true)
    (hopt : ∀ e ∈ tables, ((optionEntries e.2).map (·.1)).Nodup) :
    read (write tables) = .ok (.ofList (storedTables tables)) := by
  -- no carriage return is written, so the line ends stay as they are
  have hreturn : '\r' ∉ join ['\n'] (tables.flatMap fun e => tableLines e.1 e.2) := by
    intro hmem
    obtain hsep | ⟨l, hl, hx⟩ := mem_join hmem
    · exact absurd hsep (by decide)
    · obtain ⟨e, -, hl⟩ := List.mem_flatMap.1 hl
      exact absurd (isControl_of_mem_tableLines hl hx) (by decide)
  have hstatements := readStatements_join (lines_tables hw) _
    (Nat.lt_succ_of_le (length_tables_le tables))
  -- the tables are new and have different names
  obtain ⟨opened, header, hfollow⟩ := followAll?_tables tables [] [] []
    hnd hopt fun _ _ => ⟨rfl, fun _ hkey => absurd hkey (by simp)⟩
  unfold read
  rw [write, String.toList_ofList, unifyLineEnds_of_notMem hreturn]
  simp only [hstatements]
  show ofStatements _ none = _
  have hstart : State.followAll? {} (tables.flatMap fun e => tableStatements e.1 e.2) = _ :=
    hfollow
  unfold ofStatements
  simp only [hstart, List.nil_append]
  exact congrArg Except.ok (toSettings_named _)

end SqlDialect.Toml
