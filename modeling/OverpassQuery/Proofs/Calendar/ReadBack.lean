import OverpassQuery.Data.Toml.Scalar
import OverpassQuery.Proofs.Binary64.Numeral
import OverpassQuery.Proofs.Calendar.Gregorian
import OverpassQuery.Proofs.Statement.ClauseText
import OverpassQuery.Setting

/-!
# Instants that are read back

The form of RFC 3339 has fields of a fixed width, a mark after each, and a fraction in front of
its end; it is read field by field (`Instant.ofRfc3339?`). An instant of the years from 0 to 9999
is read back from its text (`Instant.ofRfc3339?_rfc3339Chars`). An instant before these is written
as a whole number, in which no field could end, so the two forms cannot be mistaken for each other
(`Instant.seconds_eq_of_text_eq`).

A setting for a date quotes the text of an instant, however the clock was set that
showed it, and a setting for changes quotes one or two (`Setting.dates_keep_instants`).
-/

set_option autoImplicit false

namespace OverpassQuery

namespace Instant

/-! ## Reading -/

/-- The nanoseconds of a fraction of a second: of nothing, or of a point and up to nine digits. -/
def ofFraction? : List Char → Option Nat
  | [] => some 0
  | point :: digits =>
      if point = '.' ∧ digits ≠ [] ∧ digits.length ≤ 9 ∧ digits.all Char.isDigit then
        some (Decimal.ofDigits digits * 10 ^ (9 - digits.length))
      else none

/-- The date and the time of day in a timestamp in UTC of the form of RFC 3339. -/
def fields? (chars : List Char) : Option (Date × TimeOfDay) := do
  let (year, rest) ← Toml.fixedDigits? 4 chars
  let (month, rest) ← Toml.fixedDigits? 2 (← Toml.after? '-' rest)
  let (day, rest) ← Toml.fixedDigits? 2 (← Toml.after? '-' rest)
  let (hour, rest) ← Toml.fixedDigits? 2 (← Toml.after? 'T' rest)
  let (minute, rest) ← Toml.fixedDigits? 2 (← Toml.after? ':' rest)
  let (second, rest) ← Toml.fixedDigits? 2 (← Toml.after? ':' rest)
  let nanosecond ← ofFraction? (rest.takeWhile (· ≠ 'Z'))
  if (Date.mk year month day).Exists ∧ hour < 24 ∧ minute < 60 ∧ second < 60
      ∧ rest.dropWhile (· ≠ 'Z') = ['Z'] then
    return (⟨year, month, day⟩, ⟨hour, minute, second, nanosecond⟩)
  else none

/-- The instant of a timestamp in UTC of the form of RFC 3339. -/
def ofRfc3339? (chars : List Char) : Option Instant :=
  (fields? chars).map fun (date, time) => (Timestamp.ofClock date time 0).instant

/-! ## Digits of a fixed width -/

theorem isDigit_of_mem_padded {width value : Nat} :
    ∀ char ∈ padded width value, char.isDigit = true :=
  List.forall_mem_append.mpr ⟨Decimal.isDigit_of_mem_zeros, Decimal.isDigit_of_mem_toDigits⟩

theorem length_padded {width value : Nat} (wide : 0 < width) (fits : value < 10 ^ width) :
    (padded width value).length = width := by
  have short : (Nat.toDigits 10 value).length ≤ width :=
    (Nat.length_toDigits_le_iff (by decide) wide).mpr fits
  rw [padded, List.length_append, List.length_replicate, Nat.sub_add_cancel short]

theorem ofDigits_padded (width value : Nat) : Decimal.ofDigits (padded width value) = value := by
  rw [padded, Decimal.ofDigits_zeros_append, Decimal.ofDigits_toDigits]

/-- A field of a fixed width is read back, whatever follows it. -/
theorem fixedDigits?_padded {width value : Nat} (wide : 0 < width) (fits : value < 10 ^ width)
    (rest : List Char) :
    Toml.fixedDigits? width (padded width value ++ rest) = some (value, rest) := by
  have length := length_padded wide fits
  have digits : (padded width value).all Char.isDigit = true :=
    List.all_eq_true.mpr isDigit_of_mem_padded
  rw [Toml.fixedDigits?, List.take_left' length, List.drop_left' length]
  simp [length, digits, ofDigits_padded]

theorem after?_cons (mark : Char) (rest : List Char) :
    Toml.after? mark (mark :: rest) = some rest :=
  if_pos rfl

/-! ## Fractions -/

/-- A fraction of a second in its shortest form: nothing if it is zero, else a point and at most
nine digits, the last of which is not zero. -/
def IsShortFraction (nanoseconds : Nat) (chars : List Char) : Prop :=
  (nanoseconds = 0 ∧ chars = []) ∨
    (nanoseconds ≠ 0 ∧ ∃ digits, chars = '.' :: digits ∧ digits ≠ [] ∧ digits.length ≤ 9 ∧
      (∀ char ∈ digits, char.isDigit = true) ∧ digits.getLast? ≠ some '0' ∧
      Decimal.ofDigits digits * 10 ^ (9 - digits.length) = nanoseconds)

/-- Digits without the zeros at their end. -/
def trimmed (digits : List Char) : List Char := (digits.reverse.dropWhile (· = '0')).reverse

theorem trimmed_append_zeros (digits : List Char) :
    ∃ zeros, trimmed digits ++ List.replicate zeros '0' = digits := by
  have zeros : digits.reverse.takeWhile (· = '0')
      = List.replicate (digits.reverse.takeWhile (· = '0')).length '0' := by
    refine List.eq_replicate_of_mem fun char occurs => ?_
    simpa using List.mem_takeWhile_imp occurs
  refine ⟨(digits.reverse.takeWhile (· = '0')).length, ?_⟩
  rw [trimmed, ← List.reverse_replicate, ← zeros, ← List.reverse_append,
    List.takeWhile_append_dropWhile, List.reverse_reverse]

theorem getLast?_trimmed_ne_zero (digits : List Char) : (trimmed digits).getLast? ≠ some '0' := by
  intro last
  rw [trimmed, List.getLast?_reverse] at last
  have stopped := head?_dropWhile_stops (fun char => decide (char = '0')) digits.reverse '0' last
  exact absurd stopped (by decide)

/-- **A fraction is written in its shortest form.** -/
theorem isShortFraction_fractionChars {nanoseconds : Nat} (inSecond : nanoseconds < 10 ^ 9) :
    IsShortFraction nanoseconds (fractionChars nanoseconds) := by
  by_cases whole : nanoseconds = 0
  · exact .inl ⟨whole, if_pos whole⟩
  · refine .inr ⟨whole, trimmed (padded 9 nanoseconds), if_neg whole, ?_⟩
    obtain ⟨zeros, split⟩ := trimmed_append_zeros (padded 9 nanoseconds)
    have length := length_padded (by decide) inSecond
    have value := ofDigits_padded 9 nanoseconds
    rw [← split, List.length_append, List.length_replicate] at length
    rw [← split, Decimal.ofDigits_append_zeros] at value
    have left : zeros = 9 - (trimmed (padded 9 nanoseconds)).length := by omega
    refine ⟨?_, Nat.le.intro length, fun char occurs => ?_, getLast?_trimmed_ne_zero _,
      left ▸ value⟩
    · intro nothing
      rw [nothing] at value
      exact whole (value.symm.trans (Nat.zero_mul _))
    · exact isDigit_of_mem_padded char (split ▸ List.mem_append_left _ occurs)

theorem ofFraction?_of_isShortFraction {nanoseconds : Nat} {chars : List Char}
    (short : IsShortFraction nanoseconds chars) : ofFraction? chars = some nanoseconds := by
  rcases short with ⟨rfl, rfl⟩ | ⟨_, digits, rfl, nonempty, length, isDigit, _, value⟩
  · rfl
  · rw [ofFraction?, if_pos ⟨rfl, nonempty, length, List.all_eq_true.mpr isDigit⟩, value]

theorem IsShortFraction.isNumeral_of_mem {nanoseconds : Nat} {chars : List Char}
    (short : IsShortFraction nanoseconds chars) : ∀ char ∈ chars, isNumeral char = true := by
  rcases short with ⟨_, rfl⟩ | ⟨_, digits, rfl, _, _, isDigit, _⟩
  · exact nofun
  · rw [List.forall_mem_cons]
    exact ⟨rfl, fun char occurs => isNumeral_of_isDigit (isDigit char occurs)⟩

/-! ## Timestamps of RFC 3339 -/

theorem fraction_lt (instant : Instant) : instant.fraction < 10 ^ 9 := by
  unfold fraction perSecond
  omega

theorem secondOfDay_lt (instant : Instant) : instant.secondOfDay < 86400 := by
  unfold secondOfDay secondsPerDay
  omega

/-- The time of day of an instant in UTC. -/
def timeOfDay (instant : Instant) : TimeOfDay :=
  ⟨instant.secondOfDay / 3600, instant.secondOfDay / 60 % 60, instant.secondOfDay % 60,
    instant.fraction⟩

/-- An instant is put together again from its date and its time of day. -/
theorem instant_ofClock (instant : Instant) :
    (Timestamp.ofClock instant.date instant.timeOfDay 0).instant = instant := by
  obtain ⟨nanoseconds⟩ := instant
  simp only [Timestamp.instant, Timestamp.ofClock, date, Date.toDays_ofDays, timeOfDay, secondOfDay,
    fraction, seconds, perSecond, secondsPerDay]
  congr 1
  omega

/-- The date and the time of an instant, as far as the seconds. -/
def clockChars (instant : Instant) : List Char :=
  padded 4 instant.date.year.toNat ++ '-' :: padded 2 instant.date.month
    ++ '-' :: padded 2 instant.date.day ++ 'T' :: padded 2 (instant.secondOfDay / 3600)
    ++ ':' :: padded 2 (instant.secondOfDay / 60 % 60)
    ++ ':' :: padded 2 (instant.secondOfDay % 60)

theorem rfc3339Chars_eq (instant : Instant) :
    instant.rfc3339Chars = instant.clockChars ++ fractionChars instant.fraction ++ ['Z'] := rfl

section Held

variable {instant : Instant}

theorem date_exists (instant : Instant) : instant.date.Exists := Date.ofDays_exists _

theorem two_digits (instant : Instant) :
    instant.date.month < 10 ^ 2 ∧ instant.date.day < 10 ^ 2 ∧ instant.secondOfDay / 3600 < 10 ^ 2
      ∧ instant.secondOfDay / 60 % 60 < 10 ^ 2 ∧ instant.secondOfDay % 60 < 10 ^ 2 := by
  have month := instant.date_exists.month_le
  have day := instant.date_exists.day_le.trans (Date.daysInMonth_bounds _ _).2
  have ofDay := instant.secondOfDay_lt
  omega

/-- The fraction of a timestamp begins after its nineteenth character. -/
theorem length_clockChars (last : instant.date.year ≤ 9999) : instant.clockChars.length = 19 := by
  have year : instant.date.year.toNat < 10 ^ 4 := by omega
  obtain ⟨month, day, hour, minute, second⟩ := instant.two_digits
  have two : 0 < 2 := by decide
  simp only [clockChars, List.length_append, List.length_cons, length_padded (by decide) year,
    length_padded two month, length_padded two day, length_padded two hour,
    length_padded two minute, length_padded two second]

/-- **An instant's date and time are read from its text in the form of RFC 3339.** -/
theorem fields?_rfc3339Chars (first : 0 ≤ instant.date.year) (last : instant.date.year ≤ 9999) :
    fields? instant.rfc3339Chars = some (instant.date, instant.timeOfDay) := by
  have year : instant.date.year.toNat < 10 ^ 4 := by omega
  obtain ⟨month, day, hour, minute, second⟩ := instant.two_digits
  have two : 0 < 2 := by decide
  have inDay : instant.secondOfDay / 3600 < 24 := Nat.div_lt_of_lt_mul instant.secondOfDay_lt
  have short := isShortFraction_fractionChars instant.fraction_lt
  have noEnd : ∀ char ∈ fractionChars instant.fraction, decide (char ≠ 'Z') = true := by
    intro char occurs
    refine decide_eq_true ?_
    rintro rfl
    cases short.isNumeral_of_mem 'Z' occurs
  have ends : ∀ char ∈ ['Z'].head?, decide (char ≠ 'Z') = false := by simp
  have sameDate : Date.mk instant.date.year.toNat instant.date.month instant.date.day
      = instant.date := by
    rw [Int.toNat_of_nonneg first]
  simp only [rfc3339Chars, List.append_assoc, List.cons_append, fields?,
    fixedDigits?_padded (by decide) year, fixedDigits?_padded two month,
    fixedDigits?_padded two day, fixedDigits?_padded two hour, fixedDigits?_padded two minute,
    fixedDigits?_padded two second, after?_cons, takeWhile_append_of_stops noEnd ends,
    dropWhile_append_of_stops noEnd ends, ofFraction?_of_isShortFraction short,
    Option.bind_eq_bind, Option.bind_some, sameDate]
  exact if_pos ⟨instant.date_exists, inDay, Nat.mod_lt _ (by decide), Nat.mod_lt _ (by decide),
    trivial⟩

theorem ofRfc3339?_rfc3339Chars (first : 0 ≤ instant.date.year)
    (last : instant.date.year ≤ 9999) : ofRfc3339? instant.rfc3339Chars = some instant := by
  rw [ofRfc3339?, fields?_rfc3339Chars first last, Option.map_some]
  exact congrArg some instant.instant_ofClock

end Held

/-! ## Texts -/

theorem text_of_neg {instant : Instant} (early : instant.date.year < 0) :
    instant.text = toString instant.seconds :=
  if_pos early

theorem text_of_nonneg {instant : Instant} (first : 0 ≤ instant.date.year) :
    instant.text.toList = instant.rfc3339Chars := by
  rw [text, if_neg (Int.not_lt.mpr first), String.toList_ofList]

theorem year_le_of_inCalendar {instant : Instant} (held : instant.inCalendar = true) :
    instant.date.year ≤ 9999 := by
  rw [inCalendar, Bool.and_eq_true, decide_eq_true_iff, decide_eq_true_iff] at held
  exact held.2

/-- The letter in the middle of a timestamp is in no number. -/
theorem ne_of_neg_of_nonneg {first second : Instant} (early : first.date.year < 0)
    (late : 0 ≤ second.date.year) : first.text ≠ second.text := by
  intro same
  have middle : 'T' ∈ second.text.toList := by
    rw [text_of_nonneg late, rfc3339Chars]
    simp
  rw [← same, text_of_neg early] at middle
  cases isNumeral_of_mem_id _ 'T' middle

/-- **Instants with the same text are in the same second.** -/
theorem seconds_eq_of_text_eq {first second : Instant} (firstHeld : first.inCalendar = true)
    (secondHeld : second.inCalendar = true) (same : first.text = second.text) :
    first.seconds = second.seconds := by
  rcases lt_or_ge first.date.year 0 with early | late
  · rcases lt_or_ge second.date.year 0 with early' | late'
    · have read := congrArg (fun text => Decimal.integerOfChars? text.toList) same
      simp only [text_of_neg early, text_of_neg early', Decimal.integerOfChars?_toString] at read
      exact Option.some.inj read
    · exact absurd same (ne_of_neg_of_nonneg early late')
  · rcases lt_or_ge second.date.year 0 with early' | late'
    · exact absurd same.symm (ne_of_neg_of_nonneg early' late)
    · have read := congrArg (fun text => ofRfc3339? text.toList) same
      simp only [text_of_nonneg late, text_of_nonneg late',
        ofRfc3339?_rfc3339Chars late (year_le_of_inCalendar firstHeld),
        ofRfc3339?_rfc3339Chars late' (year_le_of_inCalendar secondHeld)] at read
      rw [Option.some.inj read]

theorem comma_not_mem_text (instant : Instant) : ',' ∉ instant.text.toList := by
  intro occurs
  rcases lt_or_ge instant.date.year 0 with early | late
  · rw [text_of_neg early] at occurs
    cases isNumeral_of_mem_id _ ',' occurs
  · rw [text_of_nonneg late, rfc3339Chars] at occurs
    have noField : ∀ {width value : Nat}, ',' ∉ padded width value :=
      fun field => nomatch isDigit_of_mem_padded ',' field
    have noFraction : ',' ∉ fractionChars instant.fraction := fun fraction =>
      nomatch (isShortFraction_fractionChars instant.fraction_lt).isNumeral_of_mem ',' fraction
    simp [noField, noFraction] at occurs

theorem date_eq_of_onDay {instant : Instant} {date : Date}
    (onDay : Date.OnDay (instant.nanoseconds / (86400 * 10 ^ 9)) date) : instant.date = date := by
  have day : instant.seconds / secondsPerDay = instant.nanoseconds / (86400 * 10 ^ 9) := by
    unfold seconds perSecond secondsPerDay
    omega
  rw [Instant.date, day]
  exact (Date.onDay_iff.mp onDay).symm

/-- A text that tells which instant it is written for, in one of two ways. -/
structure ToldBy (instant : Instant) (date : Date) (text : String) : Prop where
  /-- From the year 0 on, the text is a timestamp in UTC of the form of RFC 3339, which is read as
  the date and as the instant. Its fraction is in its shortest form. -/
  timestamp : 0 ≤ date.year → ofRfc3339? text.toList = some instant ∧
    (∃ time, fields? text.toList = some (date, time)) ∧
    ∃ clock fraction, text.toList = clock ++ fraction ++ ['Z'] ∧ clock.length = 19 ∧
      IsShortFraction (instant.nanoseconds % 10 ^ 9).toNat fraction
  /-- Before, the text is the number of whole seconds, rounded towards the past. -/
  seconds : date.year < 0 → ∃ seconds : Int, text = toString seconds ∧
    seconds * 10 ^ 9 ≤ instant.nanoseconds ∧ instant.nanoseconds < (seconds + 1) * 10 ^ 9

/-- **An instant is told by its text.** -/
theorem toldBy_text {instant : Instant} (latest : instant.date.year ≤ 9999) :
    instant.ToldBy instant.date instant.text where
  timestamp := by
    intro first
    rw [text_of_nonneg first]
    exact ⟨ofRfc3339?_rfc3339Chars first latest, ⟨_, fields?_rfc3339Chars first latest⟩,
      _, _, instant.rfc3339Chars_eq, length_clockChars latest,
      isShortFraction_fractionChars instant.fraction_lt⟩
  seconds := by
    intro early
    refine ⟨instant.seconds, text_of_neg early, ?_, ?_⟩
    · unfold Instant.seconds perSecond
      omega
    · unfold Instant.seconds perSecond
      omega

end Instant

/-! ## Settings -/

namespace Setting

theorem date?_eq_some_iff {time : Timestamp} {setting : Setting} :
    date? time = some setting ↔ time.instant.inCalendar = true
      ∧ setting = ⟨.date, "\"" ++ time.instant.text ++ "\"", ""⟩ := by
  unfold date? Timestamp.quoted?
  split
  · next held => simp [held, eq_comm]
  · next missing => simp [missing]

/-- A setting for changes has the value of one date, or of two with a comma between them. -/
theorem diff?_of_date? {start : Timestamp} {first : Setting} (dated : date? start = some first) :
    diff? start none = some ⟨.diff, first.value, ""⟩ ∧
      ∀ {stop : Timestamp} {second : Setting}, date? stop = some second →
        diff? start (some stop) = some ⟨.diff, first.value ++ "," ++ second.value, ""⟩ := by
  obtain ⟨quoted, from_start, rfl⟩ := Option.map_eq_some_iff.mp dated
  refine ⟨by simp [diff?, from_start], fun {stop second} datedStop => ?_⟩
  obtain ⟨quotedStop, from_stop, rfl⟩ := Option.map_eq_some_iff.mp datedStop
  simp [diff?, from_start, from_stop]

/-- The value of a date has no comma. -/
theorem comma_not_mem_of_date? {time : Timestamp} {setting : Setting}
    (dated : date? time = some setting) : ',' ∉ setting.value.toList := by
  obtain ⟨_, rfl⟩ := date?_eq_some_iff.mp dated
  simp [time.instant.comma_not_mem_text]

/-- **Settings for dates keep instants.** Let the calendar have a date of the years from -9999 to
9999 on the day of an instant. The setting for its date quotes one text, whatever the offset of the
clock that shows the instant, and the text tells which instant it is. Instants in other seconds have
other texts. A setting for changes from the instant has the value of its date, or is cut at its only
comma into the values of two dates. -/
theorem dates_keep_instants {instant : Instant} {date : Date}
    (onDay : Date.OnDay (instant.nanoseconds / (86400 * 10 ^ 9)) date)
    (earliest : -9999 ≤ date.year) (latest : date.year ≤ 9999) :
    ∃ text : String, instant.ToldBy date text ∧
      let value := "\"" ++ text ++ "\""
      (∀ time : Timestamp, time.instant = instant → date? time = some ⟨.date, value, ""⟩) ∧
        (∀ (other : Timestamp) (setting : Setting), date? other = some setting →
          other.instant.nanoseconds / 10 ^ 9 ≠ instant.nanoseconds / 10 ^ 9 →
          setting.value ≠ value) ∧
        ∀ start : Timestamp, start.instant = instant →
          (diff? start none = some ⟨.diff, value, ""⟩ ∧
            value.toList.splitOn ',' = [value.toList]) ∧
          ∀ (stop : Timestamp) (setting : Setting), date? stop = some setting →
            ∃ both, diff? start (some stop) = some ⟨.diff, both, ""⟩ ∧
              both.toList.splitOn ',' = [value.toList, setting.value.toList] := by
  obtain rfl := Instant.date_eq_of_onDay onDay
  have held : instant.inCalendar = true := by
    rw [Instant.inCalendar, decide_eq_true earliest, decide_eq_true latest, Bool.and_self]
  have dated : ∀ time : Timestamp, time.instant = instant →
      date? time = some ⟨.date, "\"" ++ instant.text ++ "\"", ""⟩ := by
    rintro time rfl
    exact date?_eq_some_iff.mpr ⟨held, rfl⟩
  refine ⟨instant.text, Instant.toldBy_text latest, dated, ?_, fun start shows => ?_⟩
  · intro other setting datedOther elsewhere sameValue
    obtain ⟨otherHeld, rfl⟩ := date?_eq_some_iff.mp datedOther
    have sameText : other.instant.text = instant.text :=
      (String.append_right_inj _).mp ((String.append_left_inj _).mp sameValue)
    exact elsewhere (Instant.seconds_eq_of_text_eq otherHeld held sameText)
  · have noComma := comma_not_mem_of_date? (dated start shows)
    obtain ⟨alone, withStop⟩ := diff?_of_date? (dated start shows)
    refine ⟨⟨alone, List.splitOn_eq_singleton noComma⟩, fun stop setting datedStop => ?_⟩
    refine ⟨_, withStop datedStop, ?_⟩
    have noCommas : ∀ part ∈ [("\"" ++ instant.text ++ "\"").toList, setting.value.toList],
        ',' ∉ part := by
      rw [List.forall_mem_cons, List.forall_mem_singleton]
      exact ⟨noComma, comma_not_mem_of_date? datedStop⟩
    have joined : ("\"" ++ instant.text ++ "\"" ++ "," ++ setting.value).toList
        = [','].intercalate [("\"" ++ instant.text ++ "\"").toList, setting.value.toList] := by
      simp [List.intercalate]
    rw [joined]
    exact List.splitOn_intercalate ',' noCommas (List.cons_ne_nil _ _)

/-- A clock that is ahead of UTC by half an hour and a second shows the year 0, when in UTC the year
before is in its last second. The changes up to the end of the first February are asked for. -/
theorem changes_into_year_zero :
    let start := Timestamp.ofClock ⟨0, 1, 1⟩ ⟨0, 30, 0, 500000000⟩ 1801
    let stop := Timestamp.ofClock ⟨0, 2, 29⟩ ⟨23, 59, 59, 250000000⟩ 0
    Date.OnDay (start.instant.nanoseconds / (86400 * 10 ^ 9)) ⟨-1, 12, 31⟩ ∧
      date? start = some ⟨.date, "\"-62167219201\"", ""⟩ ∧
      ∃ both, diff? start (some stop) = some ⟨.diff, both, ""⟩ ∧ both.toList.splitOn ','
        = ["\"-62167219201\"".toList, "\"0000-02-29T23:59:59.25Z\"".toList] := by
  intro start stop
  have onDay : Date.OnDay (start.instant.nanoseconds / (86400 * 10 ^ 9)) ⟨-1, 12, 31⟩ :=
    Date.onDay_iff.mpr (by decide +kernel)
  obtain ⟨text, told, dated, _, changes⟩ := dates_keep_instants onDay (by decide) (by decide)
  obtain ⟨seconds, rfl, lower, upper⟩ := told.seconds (by decide)
  have shown : start.instant.nanoseconds = -62167219200500000000 := by decide +kernel
  obtain rfl : seconds = -62167219201 := by omega
  have stopDated : date? stop = some ⟨.date, "\"0000-02-29T23:59:59.25Z\"", ""⟩ := by
    decide +kernel
  exact ⟨onDay, dated start rfl, (changes start rfl).2 stop _ stopDated⟩

end Setting

end OverpassQuery
