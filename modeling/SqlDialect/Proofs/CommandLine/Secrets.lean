/-
  SqlDialect.Proofs.CommandLine.Secrets
  ────────────────────────────────
  **WHAT IS SHOWN OF SECRETS.**

  A connection that is added may be listed and its descriptor shown.  Both
  show no more than the connection with its password masked, so two
  connections that differ in the password only are shown alike.  But every
  option is listed as it is, also one that the form of the driver calls a
  password:

      connect add n hana tunnel-pass=v    is listed as    tunnel-pass=v
-/
import SqlDialect.CommandLine.Program
import SqlDialect.Proofs.Connection.Masked
import SqlDialect.Proofs.Store.Rewriting

namespace SqlDialect.CommandLine

open SqlDialect.Toml SqlDialect.NamedConnection

/-! ## §1. Words that differ in secrets. -/

/-- The words give the same, but for the value of a secret. -/
inductive DiffersInSecret : String → String → Prop
  | same (word : String) : DiffersInSecret word word
  | secret {word word' key value value' : String} (h : readPair? word = some (key, value))
      (h' : readPair? word' = some (key, value')) (hkey : isSecret key = true) :
      DiffersInSecret word word'

/-- A pair with its value masked if it is a secret. -/
def maskedPair (p : String × String) : String × Value :=
  (p.1, Descriptor.displayed (p.1, .text p.2))

/-- The settings that pairs make. -/
def settingsOfPairs (pairs : List (String × String)) : Settings Value :=
  .ofList (pairs.map fun p => (p.1, .text p.2))

/-- Pairs are settings whose values are texts. -/
theorem settingsOfPairs_eq (pairs : List (String × String)) :
    settingsOfPairs pairs = (Settings.ofList pairs).mapValues .text :=
  (Settings.mapValues_overlay Value.text pairs .empty).symm

/-- Masking the settings of pairs is masking the pairs. -/
theorem masked_settingsOfPairs (pairs : List (String × String)) :
    Descriptor.masked (settingsOfPairs pairs) = .ofList (pairs.map maskedPair) := by
  rw [settingsOfPairs, Descriptor.masked_ofList, List.map_map]
  rfl

/-- Words that are read as pairs. -/
theorem eq_map_of_pairsOfWords {words : List String} {pairs : List (String × String)}
    (h : pairsOfWords words = .ok pairs) : words.map readPair? = pairs.map some := by
  obtain ⟨rfl, hall⟩ := eq_map_of_mapM_eq_ok
    (g := fun word => (readPair? word).getD ("", "")) (fun word pair hpair => by
      split at hpair
      next hread =>
        rw [hread]
        exact (Except.ok.inj hpair).symm
      next => cases hpair) h
  rw [List.map_map]
  refine List.map_congr_left fun word hword => ?_
  -- a word that is no pair would have been refused
  have hok := hall word hword
  show readPair? word = some ((readPair? word).getD ("", ""))
  cases hread : readPair? word with
  | none =>
      rw [hread] at hok
      cases hok
  | some pair => rfl

/-- Words that differ in secrets give the same masked pairs. -/
theorem maskedPair_of_differInSecret {words words' : List String}
    (hwords : List.Forall₂ DiffersInSecret words words') {pairs pairs' : List (String × String)}
    (h : words.map readPair? = pairs.map some) (h' : words'.map readPair? = pairs'.map some) :
    pairs.map maskedPair = pairs'.map maskedPair := by
  induction hwords generalizing pairs pairs' with
  | nil =>
      obtain rfl := List.map_eq_nil_iff.1 h.symm
      obtain rfl := List.map_eq_nil_iff.1 h'.symm
      rfl
  | cons hword _ ih =>
      obtain ⟨pair, rest, rfl, hread, hrest⟩ := List.map_eq_cons_iff.1 h.symm
      obtain ⟨pair', rest', rfl, hread', hrest'⟩ := List.map_eq_cons_iff.1 h'.symm
      rw [List.map_cons, List.map_cons, ih hrest.symm hrest'.symm]
      congr 1
      -- the words are the same, or both are hidden by the mask
      cases hword with
      | same =>
          obtain rfl : pair = pair' := Option.some.inj (hread.trans hread'.symm)
          rfl
      | secret hkey hkey' hsecret =>
          obtain rfl := Option.some.inj (hread.trans hkey)
          obtain rfl := Option.some.inj (hread'.trans hkey')
          simp only [maskedPair, Descriptor.displayed, hsecret, if_true]

/-! ## §2. Parameters from words. -/

/-- Words fill in a form. -/
theorem parametersOfWords_eq_ok {words : List String} {p : Parameters}
    (h : parametersOfWords words = .ok p) :
    ∃ pairs form, words.map readPair? = pairs.map some ∧
      Form.ofSettings (settingsOfPairs pairs) = .ok form ∧ p = form.toParameters := by
  unfold parametersOfWords at h
  obtain ⟨pairs, hpairs, h⟩ := exists_of_bind_eq_ok h
  refine ⟨pairs, ?_⟩
  unfold parametersOfPairs at h
  cases hform : Form.ofSettings (settingsOfPairs pairs) with
  | error e =>
      unfold settingsOfPairs at hform
      rw [hform] at h
      exact absurd h nofun
  | ok form =>
      refine ⟨form, eq_map_of_pairsOfWords hpairs, rfl, ?_⟩
      unfold settingsOfPairs at hform
      rw [hform] at h
      exact (Except.ok.inj h).symm

/-- A form is accepted with a masked password where it is with the true one. -/
theorem ofSettings_masked_settingsOfPairs {pairs : List (String × String)} {f : Form}
    (h : Form.ofSettings (settingsOfPairs pairs) = .ok f) :
    Form.ofSettings (.ofList (pairs.map maskedPair)) = .ok f.masked := by
  rw [← masked_settingsOfPairs]
  refine Form.ofSettings_masked (fun v hv => ?_) h
  rw [settingsOfPairs_eq, Settings.get?_mapValues] at hv
  obtain ⟨t, -, rfl⟩ := Option.map_eq_some_iff.1 hv
  exact ⟨t, rfl⟩

/-- **Words that differ in secrets give the same masked parameters.** -/
theorem masked_of_differInSecret {words words' : List String} {p p' : Parameters}
    (hwords : List.Forall₂ DiffersInSecret words words') (h : parametersOfWords words = .ok p)
    (h' : parametersOfWords words' = .ok p') : p.masked = p'.masked := by
  obtain ⟨pairs, form, hpairs, hform, rfl⟩ := parametersOfWords_eq_ok h
  obtain ⟨pairs', form', hpairs', hform', rfl⟩ := parametersOfWords_eq_ok h'
  have hmasked := ofSettings_masked_settingsOfPairs hform
  have hmasked' := ofSettings_masked_settingsOfPairs hform'
  rw [maskedPair_of_differInSecret hwords hpairs hpairs', hmasked'] at hmasked
  rw [← Form.toParameters_masked, ← Form.toParameters_masked, Except.ok.inj hmasked]

/-- An option has the value that it was given last. -/
theorem get?_options_of_ofSettings {pairs : List (String × String)} {form : Form}
    {key value : String} (h : Form.ofSettings (settingsOfPairs pairs) = .ok form)
    (hkey : Parameter.ofKey? key = none)
    (hvalue : (Settings.ofList pairs).get? key = some value) :
    form.toParameters.options.get? key = some (.text value) := by
  have hwritable : ∀ e ∈ (settingsOfPairs pairs).entries, e.2.isWritable = true := by
    intro e he
    rw [settingsOfPairs_eq] at he
    obtain ⟨_, -, rfl⟩ := List.mem_map.1 he
    rfl
  -- texts can be written, so every other entry is an option
  have hoptions := (Form.ofSettings_eq_ok_iff.1 h).options
  rw [Form.optionsOf_of_isWritable hwritable] at hoptions
  show (form.options.mapValues Value.text).get? key = _
  rw [← Except.ok.inj hoptions]
  rw [Settings.get?_mapValues, Settings.get?_mapValues,
    Settings.get?_filterKeys_of_true _ (Option.isNone_iff_eq_none.2 hkey), settingsOfPairs_eq,
    Settings.get?_mapValues, hvalue]
  exact congrArg some (congrArg Value.text (Value.shown_text value))

/-! ## §3. A connection that has been added. -/

/-- The connection of a form, under the name and for the driver given. -/
def connectionOf (name id : String) (form : Form) : NamedConnection :=
  ⟨name, id, form.toParameters⟩

/-- Adding a connection ends well if the words fill in a form that is saved. -/
theorem addConnection_eq_result {s : Store} {name id : String} {words : List String}
    (h : (addConnection s name id words).ending.exitCode = 0) :
    ∃ pairs form s', words.map readPair? = pairs.map some ∧
      Form.ofSettings (settingsOfPairs pairs) = .ok form ∧
      parametersOfWords words = .ok form.toParameters ∧
      s.save (connectionOf name id form) = .ok s' ∧
      (addConnection s name id words).written = some s' := by
  unfold addConnection at h ⊢
  -- a refusal or a fault of the store would not end well
  cases hp : parametersOfWords words with
  | error e =>
      rw [hp] at h
      exact absurd h nofun
  | ok p =>
      obtain ⟨pairs, form, hpairs, hform, rfl⟩ := parametersOfWords_eq_ok hp
      rw [hp] at h
      dsimp only at h ⊢
      cases hsave : s.save ⟨name, id, form.toParameters⟩ with
      | error e =>
          rw [hsave] at h
          exact absurd h nofun
      | ok s' => exact ⟨pairs, form, s', hpairs, hform, rfl, hsave, rfl⟩

/-- An entry stored as a value is found again. -/
theorem entryIn_settingsValue (entry : Settings Value) :
    Store.entryIn (Parameters.settingsValue entry) = entry :=
  toSettings_namedTable entry

/-- What has been saved can be written, the port included. -/
theorem isProper_of_save {s s' : Store} {name id : String} {form : Form}
    (h : s.save (connectionOf name id form) = .ok s') : (connectionOf name id form).IsProper := by
  obtain ⟨doc, -, -, hw⟩ := Store.list_save h
  have hget : (doc.insert name (Parameters.settingsValue (connectionOf name id form).toEntry)).get?
      name = some (Parameters.settingsValue (connectionOf name id form).toEntry) := by
    rw [Settings.get?_insert, if_pos rfl]
  have hwritable := (hw _ (Settings.get?_eq_some_iff.1 hget)).2
  rw [entryIn_settingsValue] at hwritable
  -- the port is written if there is one, and it could be written
  refine ⟨⟨form, rfl⟩, ?_⟩
  show ((form.port.map Value.int).getD .null).isWritable = true
  cases hport : form.port with
  | none => rfl
  | some n =>
      refine isWritable_of_mem_plainEntries hwritable ("port", .int n) ?_
      rw [plainEntries_toEntry]
      refine List.mem_cons_of_mem _ (List.mem_map.2 ⟨.port, ?_, ?_⟩)
      · refine List.mem_filter.2 ⟨by decide, ?_⟩
        show isWritten .port ((form.port.map Value.int).getD .null) = true
        rw [hport]
        rfl
      · show ("port", (form.port.map Value.int).getD .null) = _
        rw [hport]
        rfl

/-! ## §4. The listing. -/

/-- A secret is shown as the mask, whatever its value. -/
theorem describeSetting_of_isSecret {k : String} (h : isSecret k = true) (v : Value) :
    describeSetting k v = [k ++ "=" ++ secretMask] := by
  have hk : k = "password" := beq_iff_eq.1 h
  have hdriver : k ≠ driverKey := by rw [hk]; decide
  have hoptions : (k == optionsName) = false := by rw [hk]; decide
  unfold describeSetting
  rw [if_neg hdriver, hoptions, h]
  rfl

/-- The line of a connection shows no more than its masked entry. -/
theorem connectionLine_masked (name : String) (entry : Settings Value) :
    connectionLine name (Descriptor.masked entry) = connectionLine name entry := by
  have hdriver : (Descriptor.masked entry).get? driverKey = entry.get? driverKey := by
    rw [Descriptor.get?_masked]
    cases entry.get? driverKey <;> rfl
  have hsettings : (Descriptor.masked entry).entries.flatMap
        (fun e => describeSetting e.1 e.2)
      = entry.entries.flatMap fun e => describeSetting e.1 e.2 := by
    show (entry.entries.map fun e => (e.1, Descriptor.displayed e)).flatMap _ = _
    rw [List.flatMap_map]
    refine List.flatMap_congr fun e _ => ?_
    by_cases hsecret : isSecret e.1 = true
    · rw [describeSetting_of_isSecret hsecret, describeSetting_of_isSecret hsecret]
    · rw [Descriptor.displayed_of_isSecret_eq_false (Bool.eq_false_iff.2 hsecret)]
  unfold connectionLine namedDriver
  rw [hdriver, hsettings]

/-- The line of a connection of the store as it is listed. -/
def listedLine (e : String × Settings Value) : String :=
  connectionLine e.1 e.2

/-- What is listed of a value that is stored. -/
def listedEntry (v : Value) : Settings Value :=
  Descriptor.masked (rewritten (Store.entryIn v))

/-- A driver that has been written is a simple value. -/
theorem isCollection_namedDriver_rewritten (entry : Settings Value) :
    (namedDriver (rewritten entry)).isCollection = false := by
  rw [namedDriver, get?_rewritten (by decide)]
  cases entry.get? driverKey with
  | none => rfl
  | some v => cases v <;> rfl

/-- What has been written has a line, that of its masked entry. -/
theorem lineOf_storedMap (name : String) (v : Value) :
    lineOf name (Store.storedMap v) = .ok (listedLine (name, listedEntry v)) := by
  have hsimple : (namedDriver (rewritten (Store.entryIn v))).isCollection = false :=
    isCollection_namedDriver_rewritten _
  show (if (namedDriver (rewritten (Store.entryIn v))).isCollection then _ else _) = _
  rw [hsimple, listedLine, listedEntry, connectionLine_masked]
  rfl

/-- Data that has been written is listed line by line, one for each masked entry. -/
theorem linesOf_storedMap (data : List (String × Value)) :
    linesOf (data.map fun e => (e.1, Store.storedMap e.2))
      = (data.map fun e => listedLine (e.1, listedEntry e.2), none) := by
  induction data with
  | nil => rfl
  | cons e data ih =>
      rw [List.map_cons, linesOf, lineOf_storedMap, ih]
      rfl

/-- **A listing shows no more of a connection than its masked entry.** -/
theorem listConnections_save {s s' : Store} {c : NamedConnection} (h : s.save c = .ok s')
    (hc : c.IsProper) : ∃ doc, s.list = .ok doc ∧
      listConnections s' = listing
        (((doc.mapValues listedEntry).insert c.name c.masked.toEntry).entries.map listedLine,
          none) := by
  obtain ⟨doc, hdoc, hlist, -⟩ := Store.list_save h
  refine ⟨doc, hdoc, ?_⟩
  have hentry : listedEntry (Parameters.settingsValue c.toEntry) = c.masked.toEntry := by
    rw [listedEntry, entryIn_settingsValue, hc.rewritten_toEntry, masked_toEntry]
  have hlines := linesOf_storedMap
    (doc.insert c.name (Parameters.settingsValue c.toEntry)).entries
  rw [listConnections, hlist, ← hentry, ← Settings.mapValues_insert]
  refine congrArg listing (hlines.trans (congrArg (·, none) ?_))
  show _ = List.map listedLine (List.map _ _)
  rw [List.map_map]
  rfl

/-! ## §5. The descriptor. -/

/-- What is shown of a descriptor, or of the fault that there is instead. -/
def shownDescriptor (format : OutputFormat) : Except SpecError Descriptor → Outcome
  | .ok desc =>
      .result (inFormat format (descriptorData desc) (joinLines (descriptorLines desc)))
  | .error e => .broken (.spec e)

/-- What is shown of a connection is a matter of its descriptor only. -/
theorem showDescriptor_eq (format : OutputFormat) (c : NamedConnection) (d : Driver) :
    showDescriptor format c d = shownDescriptor format (d.descriptor c.parameters) := by
  unfold showDescriptor shownDescriptor
  rfl

/-- Nothing that is hidden goes into the machine-readable output. -/
theorem descriptorData_redacted (desc : Descriptor) :
    descriptorData desc.redacted = descriptorData desc := by
  unfold descriptorData
  rw [desc.displayedProperties_redacted]
  rfl

/-- Nothing that is hidden goes into the lines for people. -/
theorem descriptorLines_redacted (desc : Descriptor) :
    descriptorLines desc.redacted = descriptorLines desc := by
  unfold descriptorLines
  rw [desc.displayedProperties_redacted]
  rfl

/-- What is shown of a descriptor is shown of its redacted form. -/
theorem shownDescriptor_redacted (format : OutputFormat) (x : Except SpecError Descriptor) :
    shownDescriptor format (Descriptor.redacted <$> x) = shownDescriptor format x := by
  cases x with
  | error e => rfl
  | ok desc =>
      show Outcome.result (inFormat format (descriptorData desc.redacted)
        (joinLines (descriptorLines desc.redacted))) = _
      rw [descriptorData_redacted, descriptorLines_redacted]
      rfl

/-- A masked connection is shown as the connection is. -/
theorem showDescriptor_masked (format : OutputFormat) (c : NamedConnection) (d : Driver) :
    showDescriptor format c.masked d = showDescriptor format c d := by
  rw [showDescriptor_eq, showDescriptor_eq, ← shownDescriptor_redacted,
    ← shownDescriptor_redacted format (d.descriptor c.parameters)]
  exact congrArg (shownDescriptor format) (d.redacted_descriptor_masked c.parameters)

/-- A connection that is stored under the word is the one meant. -/
theorem withConnection_of_get? {s : Store} {word : String} {c : NamedConnection}
    (h : s.get? driverIds word = .ok (some c)) (next : NamedConnection → Driver → Outcome) :
    withConnection s word next = withDriver c.driverId (next c) := by
  unfold withConnection
  rw [findConnection_of_get? h]

/-- Stores that answer alike for a word find the same connection. -/
theorem withConnection_congr {s t : Store} {word : String}
    (h : s.get? driverIds word = t.get? driverIds word)
    (next : NamedConnection → Driver → Outcome) :
    withConnection s word next = withConnection t word next := by
  unfold withConnection findConnection
  rw [h]

/-- **The shown descriptor of a connection that has been saved is that of the
masked connection**, if its driver is known; otherwise its name is no more than
a word. -/
theorem withConnection_save {s s' : Store} {c : NamedConnection} (h : s.save c = .ok s')
    (hc : c.IsProper) (format : OutputFormat) :
    withConnection s' c.name (showDescriptor format)
      = if driverIds.contains c.driverId
        then withDriver c.driverId (showDescriptor format c.masked)
        else withConnection {} c.name (showDescriptor format) := by
  obtain ⟨doc, -, hlist, -⟩ := Store.list_save h
  have hget : s'.get? driverIds c.name
      = .ok (if driverIds.contains c.driverId then some c else none) := by
    -- the entry of a proper connection is read back as it was written
    have hentry : Table.toSettings (storedTable
        (Store.entryIn (Parameters.settingsValue c.toEntry))) = c.toEntry := by
      rw [entryIn_settingsValue]
      exact hc.rewritten_toEntry
    rw [Store.get?_of_map hlist
      (by rw [Settings.get?_mapValues, Settings.get?_insert, if_pos rfl]; rfl),
      hentry, Store.entryLookup_of_ok hc.ofEntry_toEntry]
  by_cases hid : driverIds.contains c.driverId = true
  · rw [if_pos hid] at hget ⊢
    rw [withConnection_of_get? hget]
    exact congrArg (withDriver c.driverId) (funext (showDescriptor_masked format c)).symm
  · -- the name is not found, as in a store without a file
    rw [if_neg hid] at hget ⊢
    have hempty : Store.get? {} driverIds c.name = .ok none := Store.get?_of_missing rfl rfl
    exact withConnection_congr (hget.trans hempty.symm) _

/-! ## §6. Options in the listing. -/

/-- The part stands in the text. -/
def StandsIn (part text : String) : Prop :=
  ∃ front back, text = front ++ part ++ back

/-- What stands in a text stands in every longer one around it. -/
theorem StandsIn.around {part text : String} (h : StandsIn part text) (front back : String) :
    StandsIn part (front ++ text ++ back) := by
  obtain ⟨front', back', rfl⟩ := h
  exact ⟨front ++ front', back' ++ back, by simp only [String.append_assoc]⟩

/-- What stands in a part of a text stands in the text. -/
theorem StandsIn.trans {part text text' : String} (h : StandsIn part text)
    (h' : StandsIn text text') : StandsIn part text' := by
  obtain ⟨front, back, rfl⟩ := h'
  exact h.around front back

/-- A part stands among the parts that are put together. -/
theorem standsIn_intercalate {sep part : String} :
    ∀ {parts : List String}, part ∈ parts → StandsIn part (sep.intercalate parts)
  | [p], h => by
      obtain rfl := List.mem_singleton.1 h
      exact ⟨"", "", by simp⟩
  | p :: q :: parts, h => by
      rw [String.intercalate_cons_cons]
      obtain rfl | h := List.mem_cons.1 h
      · exact ⟨"", sep ++ sep.intercalate (q :: parts), by simp [String.append_assoc]⟩
      · have hrest : StandsIn part (sep.intercalate (q :: parts)) := standsIn_intercalate h
        have haround := hrest.around (p ++ sep) ""
        rwa [String.append_empty] at haround

/-- An option stands in the line of its connection. -/
theorem standsIn_connectionLine {name key value : String} {entry options : Settings Value}
    (hentry : entry.get? optionsName = some (Parameters.settingsValue options))
    (hvalue : options.get? key = some (.text value)) :
    StandsIn (key ++ "=" ++ value) (connectionLine name entry) := by
  have hsetting : key ++ "=" ++ value
      ∈ describeSetting optionsName (Parameters.settingsValue options) := by
    show _ ∈ List.map _ (List.map _ options.entries)
    rw [List.map_map]
    refine List.mem_map.2 ⟨(key, .text value), Settings.get?_eq_some_iff.1 hvalue, ?_⟩
    show (Value.text key).shown ++ "=" ++ (Value.text value).shown = _
    rw [Value.shown_text, Value.shown_text]
  have hmem : key ++ "=" ++ value ∈ entry.entries.flatMap fun e => describeSetting e.1 e.2 :=
    List.mem_flatMap.2 ⟨_, Settings.get?_eq_some_iff.1 hentry, hsetting⟩
  unfold connectionLine
  exact (standsIn_intercalate hmem).around _ _

/-- **An option stands in the listing as it is**, whatever its name. -/
theorem standsIn_listConnections {s s' : Store} {c : NamedConnection} {key value : String}
    (h : s.save c = .ok s') (hc : c.IsProper)
    (hvalue : c.parameters.options.get? key = some (.text value)) :
    ∃ text, (listConnections s').ending = .result text ∧ StandsIn (key ++ "=" ++ value) text := by
  obtain ⟨doc, -, hlisting⟩ := listConnections_save h hc
  have hline : listedLine (c.name, c.masked.toEntry)
      ∈ ((doc.mapValues listedEntry).insert c.name c.masked.toEntry).entries.map listedLine := by
    refine List.mem_map_of_mem (Settings.get?_eq_some_iff.1 ?_)
    rw [Settings.get?_insert, if_pos rfl]
  have hentry : c.masked.toEntry.get? optionsName
      = some (Parameters.settingsValue c.parameters.options) := by
    rw [get?_options_toEntry, options_masked, if_neg]
    intro hempty
    rw [Settings.get?, List.isEmpty_iff.1 hempty] at hvalue
    exact absurd hvalue.symm (Option.some_ne_none _)
  have hstands : StandsIn (key ++ "=" ++ value) (listedLine (c.name, c.masked.toEntry)) :=
    standsIn_connectionLine hentry hvalue
  rw [hlisting]
  -- some line is listed, so the text is that of the lines
  generalize ((doc.mapValues listedEntry).insert c.name c.masked.toEntry).entries.map listedLine
    = lines at hline
  cases lines with
  | nil => exact absurd hline List.not_mem_nil
  | cons line lines => exact ⟨_, rfl, hstands.trans (standsIn_intercalate hline)⟩

/-! ## §7. Runs of the program. -/

/-- What the words of a command line ask for. -/
def asked (s : Surroundings) (words : List String) : Except UsageError Command :=
  (Invocation.ofWords s.database driverIds words).command

/-- Words that are understood come to the outcome of their command. -/
theorem outcome_run {s : Surroundings} {words : List String} {command : Command}
    (h : asked s words = .ok command) : (Program.run s words).outcome = execute s command := by
  show Program.outcomeOf s (asked s words) = _
  rw [h]
  rfl

/-- The surroundings after a run. -/
def afterRun (s : Surroundings) (words : List String) : Surroundings :=
  { s with store := (Program.run s words).store }

/-- A connection that a run has added. -/
theorem exists_save_of_run {s : Surroundings} {line words : List String} {name id : String}
    (h : asked s line = .ok (.addConnection name id words))
    (hend : (Program.run s line).exitCode = 0) :
    ∃ pairs form, words.map readPair? = pairs.map some ∧
      Form.ofSettings (settingsOfPairs pairs) = .ok form ∧
      parametersOfWords words = .ok form.toParameters ∧
      s.store.save (connectionOf name id form) = .ok (afterRun s line).store ∧
      (connectionOf name id form).IsProper := by
  have houtcome := outcome_run h
  have hending : (addConnection s.store name id words).ending.exitCode = 0 := by
    rw [Program.exitCode, houtcome] at hend
    exact hend
  obtain ⟨pairs, form, s', hpairs, hform, hparameters, hsave, hwritten⟩ :=
    addConnection_eq_result hending
  -- the store afterwards is the one that the command has written
  have hstore : (afterRun s line).store = s' := by
    show (Program.run s line).outcome.written.getD s.store = s'
    rw [houtcome]
    show (addConnection s.store name id words).written.getD s.store = s'
    rw [hwritten]
    rfl
  exact ⟨pairs, form, hpairs, hform, hparameters, hstore ▸ hsave, isProper_of_save hsave⟩

/-- The built-in drivers. -/
def builtinDrivers : List Driver := [.standard, .hana, .duckdb]

/-- A field of the driver's form takes a password. -/
def IsPasswordField (d : Driver) (key : String) : Prop :=
  ∃ f ∈ d.formFields, f.kind = .password ∧ f.name = key

/-- A password field is a secret or an option of the driver. -/
theorem isSecret_or_option_of_isPasswordField {d : Driver} (hd : d ∈ builtinDrivers)
    {key : String} (h : IsPasswordField d key) :
    isSecret key = true ∨ Parameter.ofKey? key = none := by
  obtain ⟨f, hf, hkind, rfl⟩ := h
  have hall : ∀ d ∈ builtinDrivers, ∀ f ∈ d.formFields, f.kind = .password →
      isSecret f.name = true ∨ Parameter.ofKey? f.name = none := by decide
  exact hall d hd f hf hkind

/-- **Secrets are hidden, and all other passwords are listed.**  Two runs that
add the same connection but for the values of secrets are followed by the same
listing and the same descriptor, printed and reported.  A key that is no
parameter is an option, and its value stands in the listing.  Each password
field of a built-in driver is of one kind or the other, and the password of
the tunnel is an option. -/
theorem secrets_are_hidden_and_options_listed (s : Surroundings) (name id : String) :
    (∀ line line' words words' shown, asked s line = .ok (.addConnection name id words) →
      asked s line' = .ok (.addConnection name id words') →
      List.Forall₂ DiffersInSecret words words' →
      (Program.run s line).exitCode = 0 → (Program.run s line').exitCode = 0 →
      (asked s shown = .ok .listConnections ∨ ∃ format, asked s shown = .ok (.spec name format)) →
      (Program.run (afterRun s line) shown).printed
          = (Program.run (afterRun s line') shown).printed ∧
        (Program.run (afterRun s line) shown).reported
          = (Program.run (afterRun s line') shown).reported ∧
        (Program.run (afterRun s line) shown).exitCode
          = (Program.run (afterRun s line') shown).exitCode) ∧
    (∀ line words pairs key value shown, asked s line = .ok (.addConnection name id words) →
      (Program.run s line).exitCode = 0 → words.map readPair? = pairs.map some →
      Parameter.ofKey? key = none → (Settings.ofList pairs).get? key = some value →
      asked s shown = .ok .listConnections →
      ∃ text, (Program.run (afterRun s line) shown).outcome.ending = .result text ∧
        StandsIn (key ++ "=" ++ value) text) ∧
    (∀ d ∈ builtinDrivers, ∀ key, IsPasswordField d key →
      isSecret key = true ∨ Parameter.ofKey? key = none) ∧
    IsPasswordField .hana "tunnel-pass" ∧ Parameter.ofKey? "tunnel-pass" = none := by
  refine ⟨fun line line' words words' shown h h' hwords hend hend' hshown => ?_,
    fun line words pairs key value shown h hend hpairs hkey hvalue hshown => ?_,
    fun d hd key => isSecret_or_option_of_isPasswordField hd,
    ⟨_, List.mem_append_right _ (List.mem_of_getElem? (i := 4) rfl), rfl, rfl⟩, by decide⟩
  -- what the two commands saved differs under its mask in nothing
  · obtain ⟨_, form, -, -, hform, hsave, hproper⟩ := exists_save_of_run h hend
    obtain ⟨_, form', -, -, hform', hsave', hproper'⟩ := exists_save_of_run h' hend'
    have hmasked : (connectionOf name id form).masked = (connectionOf name id form').masked :=
      congrArg (NamedConnection.mk name id) (masked_of_differInSecret hwords hform hform')
    have houtcome : (Program.run (afterRun s line) shown).outcome
        = (Program.run (afterRun s line') shown).outcome := by
      obtain hlist | ⟨format, hspec⟩ := hshown
      · -- both listings show the masked connection beside what was there
        rw [outcome_run (s := afterRun s line) hlist, outcome_run (s := afterRun s line') hlist]
        obtain ⟨doc, hdoc, hlisting⟩ := listConnections_save hsave hproper
        obtain ⟨doc', hdoc', hlisting'⟩ := listConnections_save hsave' hproper'
        obtain rfl := Except.ok.inj (hdoc.symm.trans hdoc')
        show listConnections (afterRun s line).store = listConnections (afterRun s line').store
        rw [hlisting, hlisting', hmasked]
        rfl
      · rw [outcome_run (s := afterRun s line) hspec, outcome_run (s := afterRun s line') hspec]
        -- a descriptor shows the same for a connection and for its mask
        have hfirst := withConnection_save hsave hproper format
        rw [hmasked] at hfirst
        exact hfirst.trans (withConnection_save hsave' hproper' format).symm
    refine ⟨?_, ?_, ?_⟩
    · rw [Program.printed, Program.printed, houtcome]
    · rw [Program.reported, Program.reported, houtcome]
      rfl
    · rw [Program.exitCode, Program.exitCode, houtcome]
  · -- the words say which pairs there are
    obtain ⟨pairs', form, hpairs', hform, -, hsave, hproper⟩ := exists_save_of_run h hend
    obtain rfl : pairs = pairs' :=
      List.map_injective_iff.2 (Option.some_injective _) (hpairs.symm.trans hpairs')
    rw [outcome_run (s := afterRun s line) hshown]
    exact standsIn_listConnections hsave hproper (get?_options_of_ofSettings hform hkey hvalue)

/-- The built-in drivers, in the order they are offered. -/
theorem driverIds_eq : driverIds = ["duckdb", "hana", "sql"] := by
  have hids : (Registry.standard.table.keys ++ Registry.standard.builtins.keys).eraseDups
      = ["sql", "hana", "duckdb"] := rfl
  rw [driverIds, Registry.ids, hids]
  simp [List.mergeSort, List.MergeSort.Internal.splitInTwo]

/-- The words for a connection through a tunnel. -/
def tunnelWords (password : String) : List String :=
  ["host=h", "password=" ++ password, "tunnel-pass=t"]

/-- A line that adds the connection. -/
def tunnelLine (password : String) : List String :=
  ["connect", "add", "n", "hana"] ++ tunnelWords password

/-- The password of the database is hidden, and that of the tunnel is listed. -/
theorem tunnel_password_is_listed :
    (Program.run (afterRun {} (tunnelLine "a")) ["connect", "list"]).printed
      = (Program.run (afterRun {} (tunnelLine "b")) ["connect", "list"]).printed ∧
    ∃ text, (Program.run (afterRun {} (tunnelLine "a")) ["connect", "list"]).outcome.ending
        = .result text ∧ StandsIn ("tunnel-pass" ++ "=" ++ "t") text := by
  have hask : asked {} (tunnelLine "a") = .ok (.addConnection "n" "hana" (tunnelWords "a")) := by
    rw [asked, driverIds_eq]
    rfl
  have hask' : asked {} (tunnelLine "b") = .ok (.addConnection "n" "hana" (tunnelWords "b")) := by
    rw [asked, driverIds_eq]
    rfl
  have hlist : asked {} ["connect", "list"] = .ok .listConnections := by
    rw [asked, driverIds_eq]
    rfl
  have hend : (Program.run {} (tunnelLine "a")).exitCode = 0 := by
    rw [Program.exitCode, outcome_run hask]
    decide +kernel
  have hend' : (Program.run {} (tunnelLine "b")).exitCode = 0 := by
    rw [Program.exitCode, outcome_run hask']
    decide +kernel
  -- the passwords differ, the tunnel password does not
  have hwords : List.Forall₂ DiffersInSecret (tunnelWords "a") (tunnelWords "b") :=
    .cons (.same _) (.cons (.secret rfl rfl (by decide)) (.cons (.same _) .nil))
  have hpairs : (tunnelWords "a").map readPair?
      = [("host", "h"), ("password", "a"), ("tunnel-pass", "t")].map some := rfl
  obtain ⟨hhidden, hlisted, -⟩ := secrets_are_hidden_and_options_listed {} "n" "hana"
  exact ⟨(hhidden _ _ _ _ _ hask hask' hwords hend hend' (.inl hlist)).1,
    hlisted _ _ _ _ _ _ hask hend hpairs (by decide) (by decide) hlist⟩

end SqlDialect.CommandLine
