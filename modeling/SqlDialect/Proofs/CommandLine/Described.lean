/-
  SqlDialect.Proofs.CommandLine.Described
  ────────────────────────────────
  **DESCRIBED AND ADDED CONNECTIONS.**

  A connection is described where it is asked for, or it is added under a
  name and then asked for by the name.  Either way the same pairs of keys
  and values say what it is:

      spec --db hana:host=h,port=1
      connect add n hana host=h port=1  …  spec --db n

  The description is accepted exactly if the connection is added, and both
  show the same descriptor.
-/
import SqlDialect.Proofs.CommandLine.InPlace
import SqlDialect.Proofs.CommandLine.Words
import SqlDialect.Proofs.Store.Written
import SqlDialect.Proofs.Text.Segment

namespace SqlDialect.CommandLine

open SqlDialect.Text SqlDialect.NamedConnection

/-! ## §1. Pairs as words. -/

/-- A key and a value as one word. -/
def wordOf (p : String × String) : String := p.1 ++ "=" ++ p.2

/-- The connection of the given driver that pairs describe, as one word. -/
def description (id : String) (pairs : List (String × String)) : String :=
  id ++ ":" ++ ",".intercalate (pairs.map wordOf)

/-- The word of the pair is read alike by itself and in a description. -/
structure IsPlainPair (p : String × String) : Prop where
  key : '=' ∉ p.1.toList ∧ ',' ∉ p.1.toList
  value : ',' ∉ p.2.toList
  /-- There are no blanks around the key or the value. -/
  trimmed : trim p.1.toList = p.1.toList ∧ trim p.2.toList = p.2.toList
  word : IsPlainWord (wordOf p)

variable {p : String × String} {pairs : List (String × String)} {id name : String}

/-- A pair is told as its name, an equals sign and its value. -/
theorem toList_wordOf (p : String × String) :
    (wordOf p).toList = p.1.toList ++ '=' :: p.2.toList := by
  simp [wordOf]

/-- The first equals sign stands behind the name. -/
theorem IsPlainPair.cut?_wordOf (h : IsPlainPair p) :
    cut? '=' (wordOf p).toList = some (p.1.toList, p.2.toList) := by
  rw [toList_wordOf]
  exact cut?_append h.key.1 _

/-- A word on the command line is read as the pair it tells. -/
theorem IsPlainPair.readPair?_wordOf (h : IsPlainPair p) : readPair? (wordOf p) = some p := by
  rw [readPair?, h.cut?_wordOf, Option.map_some, String.ofList_toList, String.ofList_toList]

/-- Inside a description the pair is read alike, for nothing around it is
trimmed. -/
theorem IsPlainPair.readTrimmedPair?_wordOf (h : IsPlainPair p) :
    readTrimmedPair? (wordOf p) = some p := by
  rw [readTrimmedPair?, h.cut?_wordOf, Option.map_some, h.trimmed.1, h.trimmed.2,
    String.ofList_toList, String.ofList_toList]

/-- No comma in a pair ends it early. -/
theorem IsPlainPair.comma_notMem (h : IsPlainPair p) : ',' ∉ (wordOf p).toList := by
  rw [toList_wordOf, List.mem_append, List.mem_cons, not_or, not_or]
  exact ⟨h.key.2, by decide, h.value⟩

/-- Words without commas are cut apart at the commas between them. -/
theorem splitOn_intercalate : ∀ {words : List String}, words ≠ [] →
    (∀ word ∈ words, ',' ∉ word.toList) →
      splitOn ',' (",".intercalate words).toList = words.map String.toList
  | [], hne, _ => absurd rfl hne
  | [word], _, h => by
      rw [String.intercalate_singleton]
      exact splitOn_of_notMem (h word (by simp))
  | word :: next :: words, _, h => by
      have hword := h word (by simp)
      have ih : splitOn ',' (",".intercalate (next :: words)).toList
          = (next :: words).map String.toList :=
        splitOn_intercalate (List.cons_ne_nil next words) fun x hx =>
          h x (List.mem_cons_of_mem word hx)
      have hcut : (",".intercalate (word :: next :: words)).toList
          = word.toList ++ ',' :: (",".intercalate (next :: words)).toList := by
        rw [String.intercalate_cons_cons]
        simp
      rw [hcut, splitOn_append hword, ih]
      rfl

/-! ## §2. The two readings of pairs. -/

/-- The pairs of words by themselves. -/
theorem pairsOfWords_map (h : ∀ p ∈ pairs, IsPlainPair p) :
    pairsOfWords (pairs.map wordOf) = .ok pairs := by
  rw [pairsOfWords, List.mapM_map]
  refine (mapM_eq_pure (g := id) fun p hp => ?_).trans (congrArg Except.ok (List.map_id _))
  rw [Function.comp_apply, (h p hp).readPair?_wordOf]
  rfl

/-- The pairs of a description. -/
theorem readPairs_intercalate (hne : pairs ≠ []) (h : ∀ p ∈ pairs, IsPlainPair p) :
    readPairs (",".intercalate (pairs.map wordOf)).toList = .ok pairs := by
  have hsplit : splitOn ',' (",".intercalate (pairs.map wordOf)).toList
      = pairs.map fun p => (wordOf p).toList := by
    rw [splitOn_intercalate (by simpa using hne), List.map_map]
    · rfl
    · exact List.forall_mem_map.2 fun p hp => (h p hp).comma_notMem
  have hnonempty : (",".intercalate (pairs.map wordOf)).toList.isEmpty = false := by
    rw [List.isEmpty_eq_false_iff]
    intro hnil
    -- the empty text is cut into one empty piece, and no word is empty
    obtain ⟨p, rest, rfl⟩ := List.exists_cons_of_ne_nil hne
    rw [hnil] at hsplit
    have hword : (wordOf p).toList = [] := (List.cons.inj hsplit).1.symm
    exact absurd ((toList_wordOf p).symm.trans hword) (by simp)
  rw [readPairs, hnonempty, if_neg Bool.false_ne_true, hsplit, List.mapM_map]
  refine (mapM_eq_pure (g := id) fun p hp => ?_).trans (congrArg Except.ok (List.map_id _))
  rw [Function.comp_apply, String.ofList_toList]
  dsimp only
  rw [(h p hp).readTrimmedPair?_wordOf]
  rfl

/-- **A description is read as its pairs are.** -/
theorem readConnection_description {ids : List String} (hid : id ∈ ids) (hcolon : ':' ∉ id.toList)
    (hne : pairs ≠ []) (h : ∀ p ∈ pairs, IsPlainPair p) :
    readConnection ids (description id pairs)
      = (do return ⟨id, id, ← (parametersOfPairs pairs).mapError fun e =>
          databaseFault e.message⟩) := by
  -- the id holds no colon, so the first one stands behind it
  have hcut : cut? ':' (description id pairs).toList
      = some (id.toList, (",".intercalate (pairs.map wordOf)).toList) := by
    have htext : (description id pairs).toList
        = id.toList ++ ':' :: (",".intercalate (pairs.map wordOf)).toList := by
      simp [description]
    rw [htext]
    exact cut?_append hcolon _
  have hknown : (!ids.contains id) = false := by simp [hid]
  unfold readConnection
  rw [hcut]
  dsimp only
  rw [String.ofList_toList, hknown, readPairs_intercalate hne h]
  rfl

/-- The words of plain pairs give the parameters of the pairs, or their fault as
one about the argument. -/
theorem parametersOfWords_map (h : ∀ p ∈ pairs, IsPlainPair p) :
    parametersOfWords (pairs.map wordOf)
      = (parametersOfPairs pairs).mapError fun e => .unusable "PARAMS" e.message := by
  rw [parametersOfWords, pairsOfWords_map h]
  rfl

/-- Parameters of pairs are those of a form. -/
theorem parametersOfPairs_eq_ok {q : Parameters} (h : parametersOfPairs pairs = .ok q) :
    ∃ form, Form.ofSettings (settingsOfPairs pairs) = .ok form ∧ q = form.toParameters := by
  have hpairs : parametersOfPairs pairs
      = (·.toParameters) <$> Form.ofSettings (settingsOfPairs pairs) := rfl
  rw [hpairs] at h
  cases hform : Form.ofSettings (settingsOfPairs pairs) with
  | error e =>
      rw [hform] at h
      exact absurd h nofun
  | ok form =>
      rw [hform] at h
      exact ⟨form, rfl, (Except.ok.inj h).symm⟩

/-- A port that has been read from a text can be written. -/
theorem isWritable_of_readPort {s : String} {n : Int}
    (h : Form.readPort (.text s) = .ok (some n)) : (Value.int n).isWritable = true := by
  unfold Form.readPort at h
  dsimp only at h
  split at h
  next => exact absurd h nofun
  next =>
    split at h
    next m hm =>
      obtain rfl := Option.some.inj (Except.ok.inj h)
      exact Number.isWritable_of_readInt? hm
    next => exact absurd h nofun

/-- **What pairs fill in can be stored**, for only the port could fail to be. -/
theorem isProper_connectionOf {form : Form}
    (h : Form.ofSettings (settingsOfPairs pairs) = .ok form) :
    (connectionOf name id form).IsProper := by
  have hport := (Form.ofSettings_eq_ok_iff.1 h).port
  rw [Form.givenValue_port, settingsOfPairs_eq, Settings.get?_mapValues] at hport
  refine ⟨⟨form, rfl⟩, ?_⟩
  show ((form.port.map Value.int).getD .null).isWritable = true
  cases hform : form.port with
  | none => rfl
  | some n =>
      rw [hform] at hport
      cases hgiven : (Settings.ofList pairs).get? "port" with
      | none =>
          rw [hgiven] at hport
          exact absurd hport nofun
      | some s =>
          rw [hgiven] at hport
          exact isWritable_of_readPort hport

/-! ## §3. One connection in two ways. -/

/-- A name, a driver and pairs that can be told in both ways. -/
structure IsTellable (name id : String) (pairs : List (String × String)) : Prop where
  driver : id ∈ driverIds
  name : IsPlainWord name
  some : pairs ≠ []
  plain : ∀ p ∈ pairs, IsPlainPair p

/-- The line that adds the connection. -/
def tellingLine (name id : String) (pairs : List (String × String)) : List String :=
  addLine name id (pairs.map wordOf)

/-- No id of a driver is an option or holds a colon. -/
theorem plain_of_mem_driverIds (h : id ∈ driverIds) : IsPlainWord id ∧ ':' ∉ id.toList := by
  rw [driverIds_eq] at h
  have hall : ∀ id ∈ ["duckdb", "hana", "sql"], IsPlainWord id ∧ ':' ∉ id.toList := by decide
  exact hall id h

/-- The program runs as the line says. -/
theorem outcome_tellingLine (h : IsTellable name id pairs) (s : Surroundings) :
    (Program.run s (tellingLine name id pairs)).outcome
      = addConnection s.store name id (pairs.map wordOf) := by
  have hwords : ∀ word ∈ pairs.map wordOf, IsPlainWord word :=
    List.forall_mem_map.2 fun p hp => (h.plain p hp).word
  have hask : asked s (tellingLine name id pairs)
      = .ok (.addConnection name id (pairs.map wordOf)) := by
    rw [asked, tellingLine, ofWords_addLine _ h.driver (plain_of_mem_driverIds h.driver).1 h.name
      (by simpa using h.some) hwords]
  rw [outcome_run hask]
  rfl

/-- Two runs show the same. -/
structure ShowsAlike (p q : Program) : Prop where
  printed : p.printed = q.printed
  reported : p.reported = q.reported
  exitCode : p.exitCode = q.exitCode

/-- A descriptor is shown of what the database is found to be. -/
theorem showsAlike_specLine {s t : Surroundings} {database database' : String}
    {c c' : NamedConnection} (h : findConnection s.store driverIds database = .ok c)
    (h' : findConnection t.store driverIds database' = .ok c')
    (hid : c.driverId = c'.driverId) (hparameters : c.parameters = c'.parameters)
    (format : OutputFormat) :
    ShowsAlike (Program.run s (specLine database format))
      (Program.run t (specLine database' format)) := by
  have houtcome : ∀ {s : Surroundings} {database : String} {c : NamedConnection},
      findConnection s.store driverIds database = .ok c →
        (Program.run s (specLine database format)).outcome
            = withDriver c.driverId (showDescriptor format c) ∧
          (Program.run s (specLine database format)).isVerbose = false := by
    intro s database c h
    have hline := ofWords_specLine s.database driverIds database format
    refine ⟨?_, by rw [Program.run, hline]⟩
    have hask : asked s (specLine database format) = .ok (.spec database format) := by
      rw [asked, hline]
    rw [outcome_run hask]
    show withConnection s.store database (showDescriptor format) = _
    rw [withConnection, h]
  obtain ⟨ho, hv⟩ := houtcome h
  obtain ⟨ho', hv'⟩ := houtcome h'
  -- the name of a connection is not shown, only its parameters
  have hshow : showDescriptor format c = showDescriptor format c' := by
    funext d
    rw [showDescriptor_eq, showDescriptor_eq, hparameters]
  have hsame : (Program.run s (specLine database format)).outcome
      = (Program.run t (specLine database' format)).outcome := by
    rw [ho, ho', hid, hshow]
  refine ⟨?_, ?_, ?_⟩
  · rw [Program.printed, Program.printed, hsame]
  · rw [Program.reported, Program.reported, hsame, hv, hv']
  · rw [Program.exitCode, Program.exitCode, hsame]

/-! ## §4. What both ways say. -/

/-- A description that no connection has as its name is read. -/
theorem findConnection_description {s : Store} (hs : s.IsWritten)
    (hfree : ∀ c, s.get? driverIds (description id pairs) ≠ .ok (some c)) :
    findConnection s driverIds (description id pairs)
      = (readConnection driverIds (description id pairs)).mapError .refused := by
  have hnone : s.get? driverIds (description id pairs) = .ok none := by
    obtain ⟨_ | c, hget⟩ := hs.exists_get? driverIds (description id pairs)
    · exact hget
    · exact absurd hget (hfree c)
  unfold findConnection
  rw [hnone]

/-- A description is accepted or refused as its pairs are. -/
theorem readConnection_of_isTellable (h : IsTellable name id pairs) :
    readConnection driverIds (description id pairs)
      = (do return ⟨id, id, ← (parametersOfPairs pairs).mapError fun e =>
          databaseFault e.message⟩) :=
  readConnection_description h.driver (plain_of_mem_driverIds h.driver).2 h.some h.plain

/-- Pairs that are refused are refused in both ways. -/
theorem refused_of_parametersOfPairs (h : IsTellable name id pairs) {e : FormError}
    (he : parametersOfPairs pairs = .error e) (s : Surroundings) :
    (Program.run s (tellingLine name id pairs)).outcome
      = .refused (.unusable "PARAMS" e.message) := by
  rw [outcome_tellingLine h, addConnection, parametersOfWords_map h.plain, he]
  rfl

/-- **Pairs that are accepted are stored as they are described**: the name
then stands for the connection, and every other word for what it did. -/
theorem added_of_parametersOfPairs (h : IsTellable name id pairs) {q : Parameters}
    (hq : parametersOfPairs pairs = .ok q) {s : Surroundings} (hs : s.store.IsWritten) :
    (Program.run s (tellingLine name id pairs)).exitCode = 0 ∧
      findConnection (afterRun s (tellingLine name id pairs)).store driverIds name
        = .ok ⟨name, id, q⟩ ∧
      ∀ word, word ≠ name →
        findConnection (afterRun s (tellingLine name id pairs)).store driverIds word
          = findConnection s.store driverIds word := by
  obtain ⟨form, hform, rfl⟩ := parametersOfPairs_eq_ok hq
  have hproper : (connectionOf name id form).IsProper := isProper_connectionOf hform
  obtain ⟨s', hsave, hget, hother⟩ := hs.get?_save hproper
  have houtcome : (Program.run s (tellingLine name id pairs)).outcome
      = { Outcome.result ("Saved connection '" ++ name ++ "' (" ++ id ++ ") to " ++ Store.path) with
          written := some s' } := by
    replace hsave : s.store.save ⟨name, id, form.toParameters⟩ = .ok s' := hsave
    rw [outcome_tellingLine h, addConnection, parametersOfWords_map h.plain, hq]
    dsimp only [Except.mapError]
    rw [hsave]
  have hstore : (afterRun s (tellingLine name id pairs)).store = s' := by
    show (Program.run s (tellingLine name id pairs)).outcome.written.getD s.store = s'
    rw [houtcome]
    rfl
  -- a lookup finds what was saved, for the driver is a known one
  have hknown : driverIds.contains id = true := List.contains_iff_mem.2 h.driver
  rw [hstore]
  refine ⟨?_, findConnection_of_get? ?_, fun word hword => ?_⟩
  · rw [Program.exitCode, houtcome]
    rfl
  · exact (hget driverIds).trans (congrArg Except.ok (if_pos hknown))
  · unfold findConnection
    rw [hother driverIds word hword]

/-- **A connection may be described or added.**  A description in a file that
has been written, with no connection of that name, is accepted exactly if the
line adds the connection, and what is not accepted is refused in both ways.  If
it is accepted, then the name stands for the driver and the parameters that are
described, and the descriptors of both are shown alike. -/
theorem described_and_added_alike {s : Surroundings} (hs : s.store.IsWritten)
    (h : IsTellable name id pairs)
    (hfree : ∀ c, s.store.get? driverIds (description id pairs) ≠ .ok (some c)) :
    ((Program.run s (tellingLine name id pairs)).exitCode = 0 ↔
      ∃ c, findConnection s.store driverIds (description id pairs) = .ok c) ∧
    ((Program.run s (tellingLine name id pairs)).exitCode ≠ 0 →
      (∃ e, (Program.run s (tellingLine name id pairs)).outcome.ending = .refused e) ∧
      ∃ e, findConnection s.store driverIds (description id pairs) = .error (.refused e)) ∧
    ∀ c, findConnection s.store driverIds (description id pairs) = .ok c →
      c.driverId = id ∧
      ∃ c', findConnection (afterRun s (tellingLine name id pairs)).store driverIds name = .ok c' ∧
        c'.driverId = c.driverId ∧ c'.parameters = c.parameters ∧
        ∀ format,
          ShowsAlike (Program.run (afterRun s (tellingLine name id pairs)) (specLine name format))
            (Program.run s (specLine (description id pairs) format)) ∧
          ShowsAlike (Program.run (afterRun s (tellingLine name id pairs)) (specLine name format))
            (Program.run (afterRun s (tellingLine name id pairs))
              (specLine (description id pairs) format)) := by
  have hdescribed := findConnection_description hs hfree
  rw [readConnection_of_isTellable h] at hdescribed
  -- either side comes to the parameters of the pairs, or to their fault
  cases hq : parametersOfPairs pairs with
  | error e =>
      rw [hq] at hdescribed
      replace hdescribed : findConnection s.store driverIds (description id pairs)
        = .error (.refused (databaseFault e.message)) := hdescribed
      have houtcome := refused_of_parametersOfPairs h hq s
      have hexit : (Program.run s (tellingLine name id pairs)).exitCode = 2 := by
        rw [Program.exitCode, houtcome]
        rfl
      have hrefused : ∀ c, findConnection s.store driverIds (description id pairs) ≠ .ok c := by
        intro c hc
        rw [hdescribed] at hc
        cases hc
      refine ⟨⟨fun hzero => ?_, ?_⟩, fun _ => ⟨⟨_, by rw [houtcome]; rfl⟩, _, hdescribed⟩, ?_⟩
      · rw [hexit] at hzero
        exact absurd hzero (by decide)
      · rintro ⟨c, hc⟩
        exact absurd hc (hrefused c)
      · intro c hc
        exact absurd hc (hrefused c)
  | ok q =>
      rw [hq] at hdescribed
      replace hdescribed : findConnection s.store driverIds (description id pairs)
        = .ok ⟨id, id, q⟩ := hdescribed
      obtain ⟨hzero, hnamed, hother⟩ := added_of_parametersOfPairs h hq hs
      refine ⟨⟨fun _ => ⟨_, hdescribed⟩, fun _ => hzero⟩, fun hne => absurd hzero hne, ?_⟩
      intro c hc
      obtain rfl : NamedConnection.mk id id q = c := Except.ok.inj (hdescribed.symm.trans hc)
      refine ⟨rfl, _, hnamed, rfl, rfl, fun format => ⟨?_, ?_⟩⟩
      · exact showsAlike_specLine hnamed hdescribed rfl rfl format
      · -- the description is a name now if it is the one under which it was added
        by_cases hword : description id pairs = name
        · rw [hword]
          exact showsAlike_specLine hnamed hnamed rfl rfl format
        · exact showsAlike_specLine hnamed ((hother _ hword).trans hdescribed) rfl rfl format

/-- Pairs with another name of a key, a port, and options that are named as the
keys of an entry are. -/
def awkwardPairs : List (String × String) :=
  [("port", "030015"), ("driver", "x"), ("options", "=y"), ("dbname", "a"), ("port", "7"),
    ("ssl", "yes")]

theorem isTellable_awkwardPairs : IsTellable "n" "hana" awkwardPairs where
  driver := by rw [driverIds_eq]; decide
  name := by decide
  some := by decide
  plain := by
    have hall : ∀ p ∈ awkwardPairs, ('=' ∉ p.1.toList ∧ ',' ∉ p.1.toList) ∧ ',' ∉ p.2.toList ∧
        (trim p.1.toList = p.1.toList ∧ trim p.2.toList = p.2.toList) ∧
        IsPlainWord (wordOf p) := by decide +kernel
    intro p hp
    obtain ⟨hkey, hvalue, htrim, hword⟩ := hall p hp
    exact ⟨hkey, hvalue, htrim, hword⟩

/-- They are added to a store without a file, and are then what they describe. -/
theorem awkwardPairs_alike :
    ∃ c c', findConnection {} driverIds (description "hana" awkwardPairs) = .ok c ∧
      findConnection (afterRun {} (tellingLine "n" "hana" awkwardPairs)).store driverIds "n"
        = .ok c' ∧ c'.parameters = c.parameters := by
  have hnone : Store.get? {} driverIds (description "hana" awkwardPairs) = .ok none :=
    Store.get?_of_missing rfl rfl
  obtain ⟨haccept, -, hsame⟩ := described_and_added_alike (s := {}) (.inl rfl)
    isTellable_awkwardPairs fun c hc => absurd (hnone.symm.trans hc) nofun
  have hzero : (Program.run {} (tellingLine "n" "hana" awkwardPairs)).exitCode = 0 := by
    rw [Program.exitCode, outcome_tellingLine isTellable_awkwardPairs]
    decide +kernel
  obtain ⟨c, hc⟩ := haccept.1 hzero
  obtain ⟨-, c', hc', -, hparameters, -⟩ := hsame c hc
  exact ⟨c, c', hc, hc', hparameters⟩

/-- A host that is a byte and no text. -/
def strayHost : String := String.ofList [Char.ofNat 0x10fcff]

def strayPairs : List (String × String) := [("host", strayHost)]

theorem isTellable_strayPairs : IsTellable "n" "hana" strayPairs where
  driver := by rw [driverIds_eq]; decide
  name := by decide
  some := by decide
  plain := by
    have hall : ∀ p ∈ strayPairs, ('=' ∉ p.1.toList ∧ ',' ∉ p.1.toList) ∧ ',' ∉ p.2.toList ∧
        (trim p.1.toList = p.1.toList ∧ trim p.2.toList = p.2.toList) ∧
        IsPlainWord (wordOf p) := by decide +kernel
    intro p hp
    obtain ⟨hkey, hvalue, htrim, hword⟩ := hall p hp
    exact ⟨hkey, hvalue, htrim, hword⟩

/-- Described, such a host is accepted; but it cannot be added, since the file
cannot hold it and is empty by then. -/
theorem stray_byte_is_not_added :
    IsTellable "n" "hana" strayPairs ∧
      (∃ c, findConnection {} driverIds (description "hana" strayPairs) = .ok c) ∧
      (Program.runIn .textOnly {} (tellingLine "n" "hana" strayPairs)).exitCode = 1 ∧
      (Program.runIn .textOnly {} (tellingLine "n" "hana" strayPairs)).store.file.map (·.text)
        = some "" := by
  have hnone : Store.get? {} driverIds (description "hana" strayPairs) = .ok none :=
    Store.get?_of_missing rfl rfl
  have hdescribed := findConnection_description (.inl rfl)
    fun c hc => absurd (hnone.symm.trans hc) nofun
  rw [readConnection_of_isTellable isTellable_strayPairs] at hdescribed
  -- the run would write the host into its file
  have hwritten : (Program.run {} (tellingLine "n" "hana" strayPairs)).writtenText?
      = some ("[\"n\"]\n\"driver\" = \"hana\"\n\"host\" = \"" ++ strayHost ++ "\"\n") := by
    rw [Program.writtenText?, outcome_tellingLine isTellable_strayPairs]
    decide +kernel
  have hstray : ∀ front back : String,
      Char.ofNat 0x10fcff ∈ (front ++ strayHost ++ back).toList := by
    intro front back
    simp [strayHost]
  -- the encoding lacks the last character of the host
  have hstops := (runIn_eq .textOnly {} (tellingLine "n" "hana" strayPairs)).2 _ hwritten
    ⟨_, hstray _ _, by decide +kernel⟩
  exact ⟨isTellable_strayPairs, ⟨_, hdescribed⟩, hstops⟩

end SqlDialect.CommandLine
