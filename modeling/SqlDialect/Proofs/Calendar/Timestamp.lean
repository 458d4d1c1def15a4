/-
  SqlDialect.Proofs.Calendar.Timestamp
  ────────────────────────────────
  **WALL CLOCKS AS DATABASES WRITE THEM.**

  Fields of fixed width and one to six places behind the second,

      YYYY-MM-DD HH:MM:SS.f

  are a time text of the wall clock that they are written for, if its
  microseconds show in the places.  With the same number of places the texts
  sort as the instants do.
-/
import SqlDialect.Proofs.Calendar.Periods
import SqlDialect.Proofs.Calendar.TimeText

namespace SqlDialect.Calendar

open SqlDialect.Text SqlDialect.Number

/-! ## §1. Texts. -/

/-- The time of day with `k` places behind the second. -/
def Clock.textWithPlaces (c : Clock) (k : Nat) : List Char :=
  paddedText 2 c.hour ++ ':' :: paddedText 2 c.minute ++ ':' :: paddedText 2 c.second
    ++ '.' :: paddedText k (c.microsecond / power 10 (6 - k))

/-- The text `YYYY-MM-DD HH:MM:SS.f` with `k` places. -/
def timestampText (k : Nat) (d : Date) (c : Clock) : List Char :=
  d.text ++ ' ' :: c.textWithPlaces k

/-- No microseconds are lost in `k` places. -/
def Clock.ShowsIn (c : Clock) (k : Nat) : Prop :=
  power 10 (6 - k) ∣ c.microsecond

/-- The parts of the text. -/
def timestampParts (k : Nat) (d : Date) (c : Clock) : TimeParts where
  year := paddedText 4 d.year
  month := paddedText 2 d.month
  day := paddedText 2 d.day
  gap := [' ']
  hour := paddedText 2 c.hour
  minute := paddedText 2 c.minute
  second := paddedText 2 c.second
  places := paddedText k (c.microsecond / power 10 (6 - k))

/-- The text of a timestamp is that of its parts. -/
theorem timestampText_eq (k : Nat) (d : Date) (c : Clock) :
    timestampText k d c = (timestampParts k d c).text := by
  simp only [timestampText, Date.text, Clock.textWithPlaces, TimeParts.text, timestampParts,
    List.append_assoc, List.cons_append, List.nil_append]

/-! ## §2. Reading the text. -/

/-- Each decimal digit has its value. -/
theorem filterMap_digit? {s : List Char} (h : ∀ c ∈ s, c.isDigit = true) :
    s.filterMap digit? = s.map fun c => c.toNat - '0'.toNat := by
  rw [← List.filterMap_eq_map]
  exact List.filterMap_congr fun c hc => digit?_of_isDigit (h c hc)

/-- A padded number has the value of the number. -/
theorem ofDigits_paddedText (width n : Nat) :
    ofDigits ((paddedText width n).filterMap digit?) = n := by
  rw [filterMap_digit? fun c => isDigit_of_mem_paddedText, ofDigits, List.foldl_map]
  exact foldl_paddedText width n

/-- Digits fit places for digits. -/
theorem fits_digits {t : List Char} (h : ∀ c ∈ t, c.isDigit = true) :
    Fits (List.replicate t.length .digit) t := by
  induction t with
  | nil => exact .nil
  | cons c t ih =>
      refine .cons ?_ (ih fun x hx => h x (List.mem_cons_of_mem c hx))
      show (digit? c).isSome = true
      rw [digit?_of_isDigit (h c List.mem_cons_self)]
      rfl

/-- A number of two digits is one that the field takes. -/
def Field.takesTwo (f : Field) (n : Nat) : Bool :=
  (f.take (paddedText 2 n)).contains (paddedText 2 n, [])

/-- Two digits are taken by the fields whose numbers they are. -/
theorem takesTwo_of_range : (∀ n < 13, 1 ≤ n → Field.month.takesTwo n = true) ∧
    (∀ n < 32, 1 ≤ n → Field.day.takesTwo n = true) ∧
    (∀ n < 24, Field.hour.takesTwo n = true) ∧ (∀ n < 60, Field.minute.takesTwo n = true) ∧
    ∀ n < 60, Field.second.takesTwo n = true := by
  decide +kernel

/-- A field that takes a number of two digits takes its padded text. -/
theorem takes_of_takesTwo {f : Field} (hf : (Piece.field f).isPlain = true) {n : Nat}
    (h : f.takesTwo n = true) : (Piece.field f).Takes (paddedText 2 n) :=
  ((Piece.mem_take_iff hf).1 (List.contains_iff_mem.1 h)).2

variable {k : Nat} {d d' : Date} {c c' : Clock}

/-- The places are at most as many as are asked for. -/
theorem places_lt (hk : k ≤ 6) (c : Clock) : c.microsecond / power 10 (6 - k) < power 10 k := by
  have hsix : power 10 (6 - k) * power 10 k = 1000000 := by
    show 10 ^ (6 - k) * 10 ^ k = 10 ^ 6
    rw [← Nat.pow_add]
    congr 1
    omega
  rw [Nat.div_lt_iff_lt_mul (power_pos (by decide) _), Nat.mul_comm, hsix]
  exact c.isClock.2.2.2

/-- The parts of a timestamp are each as wide as the format asks. -/
theorem isWellFormed_timestampParts (hk : 1 ≤ k ∧ k ≤ 6) :
    (timestampParts k d c).IsWellFormed := by
  obtain ⟨⟨-, hyear⟩, ⟨hmonth, hmonth'⟩, hday, hday'⟩ := d.isDate
  obtain ⟨hhour, hminute, hsecond, -⟩ := c.isClock
  obtain ⟨months, days, hours, minutes, seconds⟩ := takesTwo_of_range
  -- one goal for each part, in the order of the text
  constructor
  case year =>
    have hlength : (paddedText 4 d.year).length = 4 :=
      length_paddedText (by decide) (Nat.lt_succ_of_le hyear)
    have hfits : Fits (List.replicate (paddedText 4 d.year).length .digit) (paddedText 4 d.year) :=
      fits_digits fun _ => isDigit_of_mem_paddedText
    rw [hlength] at hfits
    exact .number (List.mem_singleton_self _) hfits
  case month => exact takes_of_takesTwo rfl (months _ (Nat.lt_succ_of_le hmonth') hmonth)
  case day =>
    have hlast := daysInMonth_le d.year d.month
    exact takes_of_takesTwo rfl (days _ (by omega) hday)
  case gap =>
    refine .blanks nofun fun x hx => ?_
    obtain rfl := List.mem_singleton.1 hx
    rfl
  case hour => exact takes_of_takesTwo rfl (hours _ hhour)
  case minute => exact takes_of_takesTwo rfl (minutes _ hminute)
  case second => exact takes_of_takesTwo rfl (seconds _ hsecond)
  case places =>
    have hlength := length_paddedText hk.1 (places_lt hk.2 c)
    refine .fraction (fun hnil => ?_) ?_ fun x hx => isDigit_of_mem_paddedText hx
    · have hzero : k = 0 := hlength.symm.trans (congrArg List.length hnil)
      omega
    · exact Nat.le_trans (Nat.le_of_eq hlength) hk.2

/-- Zeros behind digits are powers of ten. -/
theorem ofDigits_append_zeros (ds : List Nat) (n : Nat) :
    ofDigits (ds ++ List.replicate n 0) = ofDigits ds * power 10 n := by
  induction n with
  | zero =>
      show ofDigits (ds ++ []) = ofDigits ds * 1
      rw [List.append_nil, Nat.mul_one]
  | succ n ih =>
      rw [List.replicate_succ', ← List.append_assoc, ofDigits_append_singleton, ih, power_succ,
        Nat.add_zero, Nat.mul_comm 10, Nat.mul_assoc]

/-- Fewer than six places are filled up with zeros. -/
theorem microseconds_eq {places : List Nat} (h : places.length ≤ 6) :
    microseconds places = ofDigits places * power 10 (6 - places.length) := by
  rw [microseconds, List.take_append, List.take_of_length_le h, List.take_replicate,
    Nat.min_eq_left (Nat.sub_le _ _), ofDigits_append_zeros]

/-- Microseconds are read from the places that show them. -/
theorem microseconds_of_places (hk : 1 ≤ k ∧ k ≤ 6) (hc : c.ShowsIn k) :
    microseconds ((paddedText k (c.microsecond / power 10 (6 - k))).filterMap digit?)
      = c.microsecond := by
  have hlength : ((paddedText k (c.microsecond / power 10 (6 - k))).filterMap digit?).length
      = k := by
    rw [filterMap_digit? fun c => isDigit_of_mem_paddedText, List.length_map,
      length_paddedText hk.1 (places_lt hk.2 c)]
  rw [microseconds_eq (Nat.le_trans (Nat.le_of_eq hlength) hk.2), hlength, ofDigits_paddedText]
  exact Nat.div_mul_cancel hc

/-- The parts of a timestamp tell its date and, as far as the digits go, its
clock. -/
theorem tells_timestampParts (hk : 1 ≤ k ∧ k ≤ 6) (hc : c.ShowsIn k) :
    (timestampParts k d c).Tells d c where
  year := (ofDigits_paddedText 4 d.year).symm
  month := (ofDigits_paddedText 2 d.month).symm
  day := (ofDigits_paddedText 2 d.day).symm
  hour := (ofDigits_paddedText 2 c.hour).symm
  minute := (ofDigits_paddedText 2 c.minute).symm
  second := (ofDigits_paddedText 2 c.second).symm
  microsecond := (microseconds_of_places hk hc).symm

/-- **What a database writes is a time text of what it stands for.** -/
theorem isTimeText_timestampText (hk : 1 ≤ k ∧ k ≤ 6) (hc : c.ShowsIn k) :
    IsTimeText (timestampText k d c) d c :=
  ⟨timestampParts k d c, isWellFormed_timestampParts hk, timestampText_eq k d c,
    tells_timestampParts hk hc⟩

/-- The wall clocks of one text are the same. -/
theorem IsTimeText.unique {text : List Char} (h : IsTimeText text d c)
    (h' : IsTimeText text d' c') : d = d' ∧ c = c' := by
  have hread := ofFormat_usual_eq_ok_iff.2 ⟨d, c, h, rfl⟩
  have hread' := ofFormat_usual_eq_ok_iff.2 ⟨d', c', h', rfl⟩
  obtain ⟨hdate, hclock, -⟩ := Moment.mk.inj (Except.ok.inj (hread.symm.trans hread'))
  exact ⟨hdate, hclock⟩

/-! ## §3. The order of texts. -/

/-- Later days have later fields, the year first. -/
theorem Date.fields_lt (h : d.dayNumber < d'.dayNumber) :
    d.year < d'.year ∨ d.year = d'.year ∧
      (d.month < d'.month ∨ d.month = d'.month ∧ d.day < d'.day) := by
  obtain hyear | hyear := Nat.lt_or_eq_of_le (Date.year_le_of_dayNumber_le (Nat.le_of_lt h))
  · exact .inl hyear
  refine .inr ⟨hyear, ?_⟩
  have hmonth : d.month ≤ d'.month := Nat.le_of_not_lt fun hlt =>
    absurd (Date.dayNumber_lt_of_month_lt hyear.symm hlt) (Nat.lt_asymm h)
  obtain hmonth | hmonth := Nat.lt_or_eq_of_le hmonth
  · exact .inl hmonth
  refine .inr ⟨hmonth, ?_⟩
  -- within a month the number of the day decides
  unfold Date.dayNumber at h
  rw [hyear, hmonth] at h
  omega

/-- Later times of day have later fields, the hour first. -/
theorem Clock.fields_lt (h : c.sinceMidnight < c'.sinceMidnight) :
    c.hour < c'.hour ∨ c.hour = c'.hour ∧
      (c.minute < c'.minute ∨ c.minute = c'.minute ∧
        (c.second < c'.second ∨ c.second = c'.second ∧ c.microsecond < c'.microsecond)) := by
  have hclock := c.isClock
  have hclock' := c'.isClock
  unfold Clock.sinceMidnight at h
  omega

/-- Numbers of a fixed width come first in the order of texts. -/
theorem field_lt {width n m : Nat} {mark : Char} {s t : List Char} (hwidth : 0 < width)
    (hn : n < power 10 width) (hm : m < power 10 width) (h : n < m ∨ n = m ∧ s < t) :
    paddedText width n ++ mark :: s < paddedText width m ++ mark :: t := by
  obtain hlt | ⟨rfl, hlt⟩ := h
  · refine append_lt_append ?_ (paddedText_lt_paddedText hwidth hlt hm) _ _
    rw [length_paddedText hwidth hn, length_paddedText hwidth hm]
  · exact List.append_left_lt (List.cons_lt_cons_iff.2 (.inr ⟨rfl, hlt⟩))

/-- Later days have later texts. -/
theorem Date.text_lt (h : d.dayNumber < d'.dayNumber) : d.text < d'.text := by
  obtain ⟨⟨-, hyear⟩, ⟨-, hmonth⟩, -, hday⟩ := d.isDate
  obtain ⟨⟨-, hyear'⟩, ⟨-, hmonth'⟩, -, hday'⟩ := d'.isDate
  have hlast' := daysInMonth_le d'.year d'.month
  have htwo : ∀ {n : Nat}, n < 100 → n < power 10 2 := id
  unfold Date.text
  rw [List.append_assoc, List.append_assoc]
  refine field_lt (by decide) (Nat.lt_succ_of_le hyear) (Nat.lt_succ_of_le hyear')
    ((Date.fields_lt h).imp_right (And.imp_right fun hfields => ?_))
  refine field_lt (by decide) (htwo (by omega)) (htwo (by omega))
    (hfields.imp_right (And.imp_right fun hfields => ?_))
  exact paddedText_lt_paddedText (by decide) hfields (htwo (by omega))

/-- The text of every date has ten characters. -/
theorem Date.length_text (d : Date) : d.text.length = 10 := by
  obtain ⟨⟨-, hyear⟩, ⟨-, hmonth⟩, -, hday⟩ := d.isDate
  have hlast := daysInMonth_le d.year d.month
  have htwo : ∀ {n : Nat}, n < 100 → (paddedText 2 n).length = 2 :=
    fun hn => length_paddedText (by decide) hn
  have hfour : (paddedText 4 d.year).length = 4 :=
    length_paddedText (by decide) (Nat.lt_succ_of_le hyear)
  unfold Date.text
  simp only [List.length_append, List.length_cons, hfour, htwo (show d.month < 100 by omega),
    htwo (show d.day < 100 by omega)]

/-- Later times of day have later texts, if their places show all. -/
theorem Clock.textWithPlaces_lt (hk : 1 ≤ k ∧ k ≤ 6) (hc' : c'.ShowsIn k)
    (h : c.sinceMidnight < c'.sinceMidnight) : c.textWithPlaces k < c'.textWithPlaces k := by
  obtain ⟨hhour, hminute, hsecond, -⟩ := c.isClock
  obtain ⟨hhour', hminute', hsecond', -⟩ := c'.isClock
  have htwo : ∀ {n : Nat}, n < 100 → n < power 10 2 := id
  unfold Clock.textWithPlaces
  rw [List.append_assoc, List.append_assoc, List.append_assoc, List.append_assoc]
  refine field_lt (by decide) (htwo (by omega)) (htwo (by omega))
    ((Clock.fields_lt h).imp_right (And.imp_right fun hfields => ?_))
  refine field_lt (by decide) (htwo (by omega)) (htwo (by omega))
    (hfields.imp_right (And.imp_right fun hfields => ?_))
  refine field_lt (by decide) (htwo (by omega)) (htwo (by omega))
    (hfields.imp_right (And.imp_right fun hfields => ?_))
  -- the places show all microseconds of the later time, so they differ as well
  exact paddedText_lt_paddedText hk.1 (Nat.div_lt_div_of_lt_of_dvd hc' hfields) (places_lt hk.2 c')

/-- A later instant is on a later day, or later on the same day. -/
theorem lt_of_instant_lt (h : Timestamp.instant ⟨d, c⟩ < Timestamp.instant ⟨d', c'⟩) :
    d.dayNumber < d'.dayNumber ∨ d = d' ∧ c.sinceMidnight < c'.sinceMidnight := by
  have hc := c.sinceMidnight_lt
  have hc' := c'.sinceMidnight_lt
  unfold Timestamp.instant at h
  dsimp only at h
  obtain hlt | heq | hgt := Nat.lt_trichotomy d.dayNumber d'.dayNumber
  · exact .inl hlt
  · rw [heq] at h
    exact .inr ⟨Date.eq_of_dayNumber_eq heq, Nat.lt_of_add_lt_add_left h⟩
  · rw [microsecondsInDay] at h hc hc'
    omega

/-- **Later instants have later texts.** -/
theorem timestampText_lt (hk : 1 ≤ k ∧ k ≤ 6) (hc' : c'.ShowsIn k)
    (h : Timestamp.instant ⟨d, c⟩ < Timestamp.instant ⟨d', c'⟩) :
    timestampText k d c < timestampText k d' c' := by
  obtain hday | ⟨rfl, hclock⟩ := lt_of_instant_lt h
  · -- dates have one width, so the time of day does not count
    have hlength : d.text.length = d'.text.length := by rw [d.length_text, d'.length_text]
    exact append_lt_append hlength (Date.text_lt hday) _ _
  · have hlt := Clock.textWithPlaces_lt hk hc' hclock
    exact List.append_left_lt (List.cons_lt_cons_iff.2 (.inr ⟨rfl, hlt⟩))

/-- Two timestamps with the same number of digits are written alike only if they
are the same. -/
theorem timestampText_eq_iff (hk : 1 ≤ k ∧ k ≤ 6) (hc : c.ShowsIn k) (hc' : c'.ShowsIn k) :
    timestampText k d c = timestampText k d' c' ↔ d = d' ∧ c = c' := by
  refine ⟨fun h => ?_, fun ⟨hdate, hclock⟩ => by rw [hdate, hclock]⟩
  have htext : IsTimeText (timestampText k d' c') d c := h ▸ isTimeText_timestampText hk hc
  exact htext.unique (isTimeText_timestampText hk hc')

/-- **Texts with the same number of places sort as the instants do.** -/
theorem timestampText_lt_iff (hk : 1 ≤ k ∧ k ≤ 6) (hc : c.ShowsIn k) (hc' : c'.ShowsIn k) :
    timestampText k d c < timestampText k d' c' ↔
      Timestamp.instant ⟨d, c⟩ < Timestamp.instant ⟨d', c'⟩ := by
  refine ⟨fun h => ?_, timestampText_lt hk hc'⟩
  refine Nat.not_le.1 fun hle => ?_
  obtain hlt | heq := Nat.lt_or_eq_of_le hle
  · exact List.lt_asymm h (timestampText_lt hk hc hlt)
  · obtain ⟨rfl, rfl⟩ := Timestamp.mk.inj (Timestamp.eq_of_instant_eq heq)
    exact List.lt_irrefl _ h

/-! ## §4. Moments in universal time. -/

/-- The instant of a wall clock in universal time. -/
theorem instant?_utc (d : Date) (c : Clock) :
    (⟨d, c, some .utc⟩ : Moment).instant? = some (Timestamp.instant ⟨d, c⟩ : Int) := by
  show some ((d.dayNumber : Int) * Offset.day + c.sinceMidnight - 0) = _
  rw [Int.sub_zero, Timestamp.instant, Int.natCast_add, Int.natCast_mul]
  rfl

/-- Wall clocks in universal time are the same moment if they are equal only. -/
theorem same_utc_iff :
    Moment.same ⟨d, c, some .utc⟩ ⟨d', c', some .utc⟩ = true ↔ d = d' ∧ c = c' := by
  rw [Moment.same, instant?_utc, instant?_utc]
  show (_ == _) = true ↔ _
  rw [beq_iff_eq, Int.ofNat_inj]
  constructor
  · exact fun h => Timestamp.mk.inj (Timestamp.eq_of_instant_eq h)
  · rintro ⟨rfl, rfl⟩
    rfl

end SqlDialect.Calendar
