/-
  SqlDialect.Proofs.Connection.Seams
  ────────────────────────────────
  **WHERE OPTIONS MEET.**

  The options of an address are pieces with one separator between neighbours:
  a segment for each option, and what is left of the free text.  No piece starts
  or ends with a mark, so no separator is doubled where two pieces meet, nor
  where the address meets its options:

      options = [separator].intercalate (segments ++ [free text])
      subname = address ++ lead :: options
-/
import SqlDialect.Driver.Builtin
import SqlDialect.Proofs.Connection.Options
import SqlDialect.Proofs.Number.Digits
import SqlDialect.Proofs.Text.Segment

namespace SqlDialect

open SqlDialect.Text

/-! ## §1. Pieces. -/

/-- No mark stands in the key or in the value. -/
def IsMarkFree (e : String × String) : Prop :=
  (∀ c ∈ e.1.toList, isOptionMark c = false) ∧ ∀ c ∈ e.2.toList, isOptionMark c = false

/-- The default options in their order with the values given for them, then the
other options that are given. -/
def Driver.orderedOptions (d : Driver) (given : Settings String) : List (String × String) :=
  d.defaultOptions.entries.map (fun e => (e.1, (given.get? e.1).getD e.2))
    ++ given.entries.filter fun e => !d.defaultOptions.contains e.1

/-- A segment for each option, and the free text if there is any. -/
def optionPieces (options : List (String × String)) (extra : List Char) : List (List Char) :=
  options.map textSegment ++ if extra = [] then [] else [extra]

variable {d : Driver} {given : Settings String} {e : String × String}

/-- A mark-free option is a mark-free segment. -/
theorem IsMarkFree.notMark_textSegment (h : IsMarkFree e) :
    ∀ c ∈ textSegment e, isOptionMark c = false := by
  intro c hc
  rw [textSegment_eq, List.mem_append, List.mem_cons] at hc
  rcases hc with hkey | rfl | hvalue
  · exact h.1 c hkey
  · rfl
  · exact h.2 c hvalue

/-- Mark-free defaults and mark-free options stay so together. -/
theorem isMarkFree_of_mem_orderedOptions (hd : ∀ e ∈ d.defaultOptions.entries, IsMarkFree e)
    (hg : ∀ e ∈ given.entries, IsMarkFree e) : ∀ e ∈ d.orderedOptions given, IsMarkFree e := by
  intro e he
  rcases List.mem_append.1 he with hdefault | hnew
  · obtain ⟨e, hmem, rfl⟩ := List.mem_map.1 hdefault
    cases hvalue : given.get? e.1 with
    | none => exact hd e hmem
    | some v => exact ⟨(hd e hmem).1, (hg _ (Settings.get?_eq_some_iff.1 hvalue)).2⟩
  · exact hg e (List.mem_filter.1 hnew).1

/-- The segments of the options are pieces: each option, and the free text if
any is left of it. -/
theorem optionSegments_eq_pieces (d : Driver) (given : Settings String) (free : List Char) :
    d.optionSegments (given.mapValues .text) free
      = optionPieces (d.orderedOptions given) (trimOptions free) := by
  rw [optionSegments_texts, Driver.plainOptions, Settings.entries_overlay]
  simp only [optionPieces, List.isEmpty_iff]
  rfl

/-! ## §2. Pieces put together. -/

/-- The library's joining puts one separator between neighbours. -/
theorem join_eq_intercalate (sep : List Char) : ∀ pieces : List (List Char),
    join sep pieces = sep.intercalate pieces
  | [] => rfl
  | [s] => List.intercalate_singleton.symm
  | s :: t :: pieces => by
      rw [join, join_eq_intercalate sep (t :: pieces), List.intercalate_cons_cons]

/-- A piece that is not empty and has no character in `p` at its ends. -/
structure IsTightPiece (p : Char → Bool) (s : List Char) : Prop where
  nonempty : s ≠ []
  tight : IsTightFor p s

/-- What stands between two pieces does not matter at the ends. -/
theorem IsTightPiece.append {p : Char → Bool} {s t : List Char} (hs : IsTightPiece p s)
    (ht : IsTightPiece p t) (between : List Char) : IsTightPiece p (s ++ between ++ t) := by
  refine ⟨List.append_ne_nil_of_right_ne_nil _ ht.nonempty, fun c hc => ?_, fun c hc => ?_⟩
  · rw [List.append_assoc, List.head?_append_of_ne_nil _ hs.nonempty] at hc
    exact hs.tight.1 c hc
  · rw [List.getLast?_append_of_ne_nil _ ht.nonempty] at hc
    exact ht.tight.2 c hc

/-- Tight pieces together are one. -/
theorem isTightPiece_intercalate {p : Char → Bool} (sep : List Char) :
    ∀ {pieces : List (List Char)}, pieces ≠ [] → (∀ s ∈ pieces, IsTightPiece p s) →
      IsTightPiece p (sep.intercalate pieces)
  | [], hne, _ => absurd rfl hne
  | [s], _, h => by
      rw [List.intercalate_singleton]
      exact h s (by simp)
  | s :: t :: pieces, _, h => by
      obtain ⟨hs, hrest⟩ := List.forall_mem_cons.1 h
      rw [List.intercalate_cons_cons]
      exact hs.append (isTightPiece_intercalate sep (List.cons_ne_nil t pieces) hrest) sep

/-- Pieces that are tight stay so with separators between them. -/
theorem isTightFor_intercalate {p : Char → Bool} (sep : List Char) {pieces : List (List Char)}
    (h : ∀ s ∈ pieces, IsTightPiece p s) : IsTightFor p (sep.intercalate pieces) := by
  by_cases hne : pieces = []
  · rw [hne]
    exact ⟨nofun, nofun⟩
  · exact (isTightPiece_intercalate sep hne h).tight

/-- A piece without marks is tight. -/
theorem isTightPiece_of_notMark {s : List Char} (hne : s ≠ [])
    (h : ∀ c ∈ s, isOptionMark c = false) : IsTightPiece isOptionMark s :=
  ⟨hne, isTightFor_of_forall h⟩

/-- Every piece is tight. -/
theorem isTightPiece_optionPieces {options : List (String × String)} {extra : List Char}
    (hoptions : ∀ e ∈ options, IsMarkFree e) (hextra : IsTightFor isOptionMark extra) :
    ∀ s ∈ optionPieces options extra, IsTightPiece isOptionMark s := by
  intro s hs
  rcases List.mem_append.1 hs with hsegment | hfree
  · obtain ⟨e, he, rfl⟩ := List.mem_map.1 hsegment
    refine isTightPiece_of_notMark ?_ (hoptions e he).notMark_textSegment
    rw [textSegment_eq]
    simp
  · split at hfree
    next => exact absurd hfree List.not_mem_nil
    next hne => exact List.mem_singleton.1 hfree ▸ ⟨hne, hextra⟩

/-! ## §3. Descriptors of hosts. -/

namespace Driver

/-- The address of the host that a form names. -/
def addressOf (d : Driver) (f : Form) : List Char :=
  hostAddress (d.hostOf f.toParameters) (d.portOf f.toParameters)

/-- A host's descriptor has the options behind its address. -/
theorem hostDescriptor_toParameters (d : Driver) (hfamily : d.family ≠ .duckdb) (f : Form) :
    ((d.portOf f.toParameters).isWritable = false ∧
      d.descriptor f.toParameters = .error .tooManyDigits) ∨
    ∃ desc, d.descriptor f.toParameters = .ok desc ∧
      desc.options = String.ofList (d.optionsText (f.options.mapValues .text) (freeText f)) ∧
      desc.subname = .text (String.ofList (d.withOptions (d.addressOf f)
        (d.optionsText (f.options.mapValues .text) (freeText f)))) := by
  rw [descriptor_of_family_ne hfamily, hostDescriptor, extraOptions_toParameters]
  cases hport : (d.portOf f.toParameters).isWritable
  · exact .inl ⟨rfl, rfl⟩
  · exact .inr ⟨_, rfl, rfl, rfl⟩

/-- **No separator is doubled at a seam.**  The descriptor of a host has the
options as pieces with one separator between neighbours; no piece starts or ends
with a mark, and no mark stands in a segment.  One mark leads the options, if
there are any. -/
theorem no_separator_is_doubled (d : Driver) (hfamily : d.family ≠ .duckdb) (f : Form)
    (hdefault : ∀ e ∈ d.defaultOptions.entries, IsMarkFree e)
    (hgiven : ∀ e ∈ f.options.entries, IsMarkFree e) :
    ((d.portOf f.toParameters).isWritable = false ∧
      d.descriptor f.toParameters = .error .tooManyDigits) ∨
    ∃ desc trimmed extra options, d.descriptor f.toParameters = .ok desc ∧
      TrimsTo isBlank (freeText f) trimmed ∧ TrimsTo isOptionMark trimmed extra ∧
      options = [d.separatorStyle.separator].intercalate
        (optionPieces (d.orderedOptions f.options) extra) ∧
      (∀ s ∈ optionPieces (d.orderedOptions f.options) extra, IsTightPiece isOptionMark s) ∧
      (∀ e ∈ d.orderedOptions f.options, ∀ c ∈ textSegment e, isOptionMark c = false) ∧
      IsTightFor isOptionMark options ∧ desc.options = String.ofList options ∧
      desc.subname = .text (String.ofList (if options = [] then d.addressOf f else
        d.addressOf f ++ leadMark d.separatorStyle ((d.addressOf f).contains '?') :: options)) := by
  obtain hport | ⟨desc, hdesc, hoptions, hsubname⟩ := d.hostDescriptor_toParameters hfamily f
  · exact .inl hport
  have hfree := isMarkFree_of_mem_orderedOptions hdefault hgiven
  -- blanks are trimmed before marks, so a blank behind a mark stays
  have htrimmed : TrimsTo isBlank (freeText f) (trim (freeText f)) := trimsTo_trimWhile isBlank _
  have hextra : TrimsTo isOptionMark (trim (freeText f)) (trimOptions (freeText f)) :=
    trimsTo_trimWhile isOptionMark _
  have hpieces := isTightPiece_optionPieces hfree hextra.tight
  have htext : d.optionsText (f.options.mapValues .text) (freeText f)
      = [d.separatorStyle.separator].intercalate
          (optionPieces (d.orderedOptions f.options) (trimOptions (freeText f))) := by
    rw [optionsText, join_eq_intercalate, optionSegments_eq_pieces]
  rw [htext] at hoptions hsubname
  refine .inr ⟨desc, _, _, _, hdesc, htrimmed, hextra, rfl, hpieces,
    fun e he => (hfree e he).notMark_textSegment, isTightFor_intercalate _ hpieces, hoptions, ?_⟩
  rw [hsubname, withOptions]
  simp only [List.isEmpty_iff]

/-- A driver of the semicolon style with defaults, one of which is given. -/
def seamDriver : Driver :=
  { standard with
    separatorStyle := .semicolon
    defaultOptions := .ofList [("loginTimeout", "10"), ("a", "0")] }

/-- A form with free text that has blanks and marks at its ends. -/
def seamForm : Form where
  host := some "db"
  port := some 1433
  options := .ofList [("b", "2"), ("a", "1")]
  additionalOptions := some " ;?c=3;& "

/-- The free text loses its ends, and the default option its value. -/
theorem seamForm_has_single_separators :
    seamDriver.family ≠ .duckdb ∧ (∀ e ∈ seamDriver.defaultOptions.entries, IsMarkFree e) ∧
      (∀ e ∈ seamForm.options.entries, IsMarkFree e) ∧
      ∃ desc, seamDriver.descriptor seamForm.toParameters = .ok desc ∧
        desc.options = "loginTimeout=10;a=1;b=2;c=3" ∧
        desc.subname = .text "//db:1433;loginTimeout=10;a=1;b=2;c=3" := by
  have hfamily : seamDriver.family ≠ .duckdb := by decide
  have hdefault : ∀ e ∈ seamDriver.defaultOptions.entries, IsMarkFree e := by
    rintro _ (_ | ⟨_, _ | ⟨_, ⟨⟩⟩⟩) <;> simp [IsMarkFree, isOptionMark]
  have hgiven : ∀ e ∈ seamForm.options.entries, IsMarkFree e := by
    rintro _ (_ | ⟨_, _ | ⟨_, ⟨⟩⟩⟩) <;> simp [IsMarkFree, isOptionMark]
  refine ⟨hfamily, hdefault, hgiven, ?_⟩
  obtain ⟨hport, -⟩ | ⟨desc, trimmed, extra, options, hdesc, htrimmed, hextra, htext, -, -, -,
    hoptions, hsubname⟩ := no_separator_is_doubled seamDriver hfamily seamForm hdefault hgiven
  · have hwritable : (Value.int 1433).isWritable = true :=
      Number.isWritable_of_length_le (by decide)
    exact absurd (hwritable.symm.trans hport) nofun
  · obtain rfl := htrimmed.eq_trimWhile
    obtain rfl := hextra.eq_trimWhile
    obtain rfl : options = "loginTimeout=10;a=1;b=2;c=3".toList := htext.trans (by decide)
    exact ⟨desc, hdesc, hoptions.trans rfl, hsubname.trans rfl⟩

/-- **A port of 5001 digits has no seams**: the options hold no mark, but there
is no descriptor to hold them. -/
theorem long_port_has_no_seams :
    ∃ n : Nat, n = Number.power 10 5000 ∧
      (∀ e ∈ Driver.standard.defaultOptions.entries, IsMarkFree e) ∧ IsMarkFree ("a", "b") ∧
      ¬ ∃ desc, Driver.standard.descriptor
          (Form.toParameters { port := some n, options := .ofList [("a", "b")] }) = .ok desc ∧
        desc.options = "a=b" := by
  obtain ⟨n, hn, hlong⟩ := Number.exists_long_number
  refine ⟨n, hn, fun _ h => absurd h List.not_mem_nil, by simp [IsMarkFree, isOptionMark], ?_⟩
  rintro ⟨desc, hdesc, -⟩
  exact nomatch hdesc.symm.trans (descriptor_of_long_port nofun hlong)

end Driver

end SqlDialect
