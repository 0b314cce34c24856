import Mathlib.Tactic.IntervalCases
import OverpassQuery.Calendar.Date

/-!
# The Gregorian calendar

The calendar is given by the length of its months (`Date.daysInMonth`): after a day comes the next
of its month, or the first of the next month (`Date.next`), and the day with the number 0 is
1970-01-01 (`Date.OnDay`). No formula for the number of a day is part of this.

The formulas count years from March. A day of an era of 400 years is in a century of the era, in
a cycle of four years and in a year of the cycle, where the last century, cycle and year may be a
day longer (`Date.exists_place`, `Date.yearOfEra_eq`). A day of a year that begins in March is in
one of twelve months that begin on fixed days (`Date.ofDays_ofMarch`, `Date.exists_ofMarch`).
Thus the date of a number is the date that the calendar has on that day (`Date.onDay_iff`), and
the number is counted back from the date (`Date.toDays_of_onDay`).
-/

set_option autoImplicit false

namespace OverpassQuery

namespace Date

/-! ## The calendar -/

/-- Every fourth year has a leap day, but of the full centuries only every fourth. -/
def IsLeap (year : Int) : Prop := year % 4 = 0 ∧ (year % 100 = 0 → year % 400 = 0)

instance (year : Int) : Decidable (IsLeap year) := inferInstanceAs (Decidable (_ ∧ _))

/-- The number of days of a month. -/
def daysInMonth (year : Int) (month : Nat) : Nat :=
  if month = 2 then if IsLeap year then 29 else 28
  else if month = 4 ∨ month = 6 ∨ month = 9 ∨ month = 11 then 30
  else 31

/-- A month and a day in it that there are. -/
structure Exists (date : Date) : Prop where
  one_le_month : 1 ≤ date.month
  month_le : date.month ≤ 12
  one_le_day : 1 ≤ date.day
  day_le : date.day ≤ daysInMonth date.year date.month

instance (date : Date) : Decidable date.Exists :=
  decidable_of_iff (1 ≤ date.month ∧ date.month ≤ 12 ∧ 1 ≤ date.day
      ∧ date.day ≤ daysInMonth date.year date.month)
    ⟨fun ⟨first, last, one, most⟩ => ⟨first, last, one, most⟩,
      fun ⟨first, last, one, most⟩ => ⟨first, last, one, most⟩⟩

/-- The day after. -/
def next (date : Date) : Date :=
  if date.day < daysInMonth date.year date.month then ⟨date.year, date.month, date.day + 1⟩
  else if date.month < 12 then ⟨date.year, date.month + 1, 1⟩
  else ⟨date.year + 1, 1, 1⟩

/-- The calendar: the date on a day with a given number, the days before 1970 having negative
ones. -/
inductive OnDay : Int → Date → Prop
  | epoch : OnDay 0 ⟨1970, 1, 1⟩
  | next {days : Int} {date : Date} (today : OnDay days date) : OnDay (days + 1) date.next
  | previous {days : Int} {date : Date} (isDate : date.Exists)
      (tomorrow : OnDay (days + 1) date.next) : OnDay days date

theorem daysInMonth_bounds (year : Int) (month : Nat) :
    28 ≤ daysInMonth year month ∧ daysInMonth year month ≤ 31 := by
  unfold daysInMonth
  split
  · split
    · decide
    · decide
  · split
    · decide
    · decide

/-! ## Years from March -/

/-- Days from 0000-03-01 to the first of March of a year. -/
def marchDays (year : Int) : Int := 365 * year + year / 4 - year / 100 + year / 400

/-- Days from the first of March to the first of a month, the months being counted from March. -/
def monthStart (month : Nat) : Nat := (153 * month + 2) / 5

/-- The date in a year that begins in March, its month and its day being counted from zero. -/
def ofMarch (year : Int) (month day : Nat) : Date :=
  if month < 10 then ⟨year, month + 3, day + 1⟩ else ⟨year + 1, month - 9, day + 1⟩

/-- The number of days of a month in a year that begins in March. -/
def marchMonthDays (year : Int) (month : Nat) : Nat :=
  daysInMonth (ofMarch year month 0).year (ofMarch year month 0).month

theorem ofMarch_of_lt (year : Int) {month : Nat} (day : Nat) (early : month < 10) :
    ofMarch year month day = ⟨year, month + 3, day + 1⟩ :=
  if_pos early

theorem ofMarch_of_le (year : Int) {month : Nat} (day : Nat) (late : 10 ≤ month) :
    ofMarch year month day = ⟨year + 1, month - 9, day + 1⟩ :=
  if_neg (Nat.not_lt.mpr late)

@[simp] theorem day_ofMarch (year : Int) (month day : Nat) :
    (ofMarch year month day).day = day + 1 := by
  unfold ofMarch
  split
  · rfl
  · rfl

theorem marchMonthDays_of_lt (year : Int) {month : Nat} (early : month < 11) :
    monthStart month + marchMonthDays year month = monthStart (month + 1) := by
  interval_cases month <;> rfl

theorem marchMonthDays_last (year : Int) :
    marchMonthDays year 11 = if IsLeap (year + 1) then 29 else 28 := rfl

theorem marchMonthDays_pos (year : Int) (month : Nat) : 0 < marchMonthDays year month :=
  Nat.lt_of_lt_of_le (by decide) (daysInMonth_bounds _ _).1

theorem daysInMonth_ofMarch (year : Int) (month day : Nat) :
    daysInMonth (ofMarch year month day).year (ofMarch year month day).month
      = marchMonthDays year month := by
  unfold marchMonthDays ofMarch
  split
  · rfl
  · rfl

theorem ofMarch_exists {year : Int} {month day : Nat} (isMonth : month < 12)
    (isDay : day < marchMonthDays year month) : (ofMarch year month day).Exists := by
  have one_le_day : 1 ≤ (ofMarch year month day).day := by simp
  have day_le : (ofMarch year month day).day ≤ daysInMonth (ofMarch year month day).year
      (ofMarch year month day).month := by
    rw [day_ofMarch, daysInMonth_ofMarch]
    exact isDay
  rcases Nat.lt_or_ge month 10 with early | late
  · rw [ofMarch_of_lt year day early] at *
    exact ⟨Nat.le_add_left 1 _, Nat.add_le_of_le_sub (by decide) (Nat.le_of_lt_succ early),
      one_le_day, day_le⟩
  · rw [ofMarch_of_le year day late] at *
    exact ⟨Nat.le_sub_of_add_le late, by simp only; omega, one_le_day, day_le⟩

/-- Every date is in a year that begins in March. -/
theorem exists_eq_ofMarch {date : Date} (isDate : date.Exists) :
    ∃ year month day, month < 12 ∧ day < marchMonthDays year month
      ∧ date = ofMarch year month day := by
  obtain ⟨year, month, day⟩ := date
  obtain ⟨first, last, one, most⟩ := isDate
  simp only at first last one most
  by_cases winter : month ≤ 2
  · have same : ofMarch (year - 1) (month + 9) (day - 1) = ⟨year, month, day⟩ := by
      rw [ofMarch_of_le _ _ (by omega), Nat.add_sub_cancel, Nat.sub_add_cancel one,
        Int.sub_add_cancel]
    refine ⟨year - 1, month + 9, day - 1, by omega, ?_, same.symm⟩
    rw [← daysInMonth_ofMarch _ _ (day - 1), same]
    exact Nat.sub_one_lt_of_le one most
  · have same : ofMarch year (month - 3) (day - 1) = ⟨year, month, day⟩ := by
      rw [ofMarch_of_lt _ _ (by omega), Nat.sub_add_cancel (by omega), Nat.sub_add_cancel one]
    refine ⟨year, month - 3, day - 1, by omega, ?_, same.symm⟩
    rw [← daysInMonth_ofMarch _ _ (day - 1), same]
    exact Nat.sub_one_lt_of_le one most

/-! ### The next day -/

theorem next_ofMarch {year : Int} {month day : Nat} (more : day + 1 < marchMonthDays year month) :
    (ofMarch year month day).next = ofMarch year month (day + 1) := by
  rw [next, daysInMonth_ofMarch, day_ofMarch, if_pos more]
  unfold ofMarch
  split
  · rfl
  · rfl

/-- After the last day of a month comes the first of the next. -/
theorem next_ofMarch_last {year : Int} {month day : Nat} (early : month < 11)
    (last : day + 1 = marchMonthDays year month) :
    (ofMarch year month day).next = ofMarch year (month + 1) 0 := by
  rw [next, daysInMonth_ofMarch, day_ofMarch, if_neg (Nat.not_lt_of_le last.ge)]
  clear last
  interval_cases month <;> rfl

/-- After the last day of February comes the first of March. -/
theorem next_ofMarch_year {year : Int} {day : Nat} (last : day + 1 = marchMonthDays year 11) :
    (ofMarch year 11 day).next = ofMarch (year + 1) 0 0 := by
  rw [next, daysInMonth_ofMarch, day_ofMarch, if_neg (Nat.not_lt_of_le last.ge)]
  rfl

/-! ### The number of a day -/

theorem marchDays_succ (year : Int) :
    marchDays (year + 1) = marchDays year + monthStart 11 + marchMonthDays year 11 := by
  rw [marchMonthDays_last, marchDays, marchDays, monthStart]
  by_cases leap : IsLeap (year + 1)
  · rw [if_pos leap]
    unfold IsLeap at leap
    omega
  · rw [if_neg leap]
    unfold IsLeap at leap
    omega

theorem toDays_ofMarch {year : Int} {month : Nat} (isMonth : month < 12) (day : Nat) :
    (ofMarch year month day).toDays = marchDays year + monthStart month + day - epochOffset := by
  unfold marchDays monthStart
  rcases Nat.lt_or_ge month 10 with early | late
  · simp only [ofMarch_of_lt year day early, toDays, daysPerEra]
    rw [if_neg (by omega)]
    omega
  · simp only [ofMarch_of_le year day late, toDays, daysPerEra]
    rw [if_pos (by omega)]
    omega

/-! ## Eras -/

/-- The year of an era that a day of the era is in. -/
def yearOfEra (day : Nat) : Nat := (day - day / 1460 + day / 36524 - day / 146096) / 365

/-- A day of an era by its place: the century, the cycle of four years in it, the year in that and
the day in that. The last year of a cycle has a leap day, unless the cycle ends a century that does
not end the era. -/
structure Place where
  century : Nat
  cycle : Nat
  year : Nat
  day : Nat
  century_lt : century < 4
  cycle_lt : cycle < 25
  year_lt : year < 4
  day_lt : day < 365 ∨ day = 365 ∧ year = 3 ∧ (cycle = 24 → century = 3)

namespace Place

/-- The day of the era. -/
def dayOfEra (place : Place) : Nat :=
  36524 * place.century + 1461 * place.cycle + 365 * place.year + place.day

/-- The year of the era. -/
def yearInEra (place : Place) : Nat := 100 * place.century + 4 * place.cycle + place.year

end Place

/-- Every day of an era has a place. -/
theorem exists_place {days : Nat} (inEra : days < 146097) :
    ∃ place : Place, place.dayOfEra = days := by
  obtain ⟨century, inCentury, rfl, centuryLt, centuryEnd⟩ : ∃ century inCentury,
      days = 36524 * century + inCentury ∧ century < 4 ∧
        (inCentury < 36524 ∨ inCentury = 36524 ∧ century = 3) :=
    ⟨min (days / 36524) 3, days - 36524 * min (days / 36524) 3, by omega, by omega, by omega⟩
  obtain ⟨cycle, inCycle, rfl, inCycleLt, cycleLt⟩ : ∃ cycle inCycle,
      inCentury = 1461 * cycle + inCycle ∧ inCycle < 1461 ∧ cycle < 25 :=
    ⟨inCentury / 1461, inCentury % 1461, by omega, by omega, by omega⟩
  obtain ⟨year, day, rfl, yearLt, yearEnd⟩ : ∃ year day,
      inCycle = 365 * year + day ∧ year < 4 ∧ (day < 365 ∨ day = 365 ∧ year = 3) :=
    ⟨min (inCycle / 365) 3, inCycle - 365 * min (inCycle / 365) 3, by omega, by omega, by omega⟩
  refine ⟨⟨century, cycle, year, day, centuryLt, cycleLt, yearLt, by omega⟩, ?_⟩
  simp only [Place.dayOfEra]
  omega

/-- **The formula for the year of an era finds the year.** It makes up for the leap days so far,
and is at most one day off. -/
theorem yearOfEra_eq (place : Place) : yearOfEra place.dayOfEra = place.yearInEra := by
  obtain ⟨century, cycle, year, day, centuryLt, cycleLt, yearLt, dayLt⟩ := place
  simp only [Place.dayOfEra, Place.yearInEra, yearOfEra]
  generalize total : 36524 * century + 1461 * cycle + 365 * year + day = days
  -- The last day of an era is the only one that the last correction is for.
  by_cases last : days = 146096
  · subst last
    omega
  · have eras : days / 146096 = 0 := by omega
    have centuries : days / 36524 = century := by omega
    have leaps : days / 1460
        = 25 * century + cycle + (24 * century + cycle + 365 * year + day) / 1460 := by omega
    rw [eras, centuries, leaps]
    omega

/-- Whether a year that begins in March has a day with a given number, from zero. -/
def InMarchYear (year : Int) (day : Nat) : Prop := day < 365 ∨ day = 365 ∧ IsLeap (year + 1)

theorem marchDays_place (era : Int) (place : Place) :
    marchDays (400 * era + place.yearInEra) + place.day = 146097 * era + place.dayOfEra := by
  obtain ⟨century, cycle, year, day, centuryLt, cycleLt, yearLt, _⟩ := place
  simp only [marchDays, Place.yearInEra, Place.dayOfEra]
  omega

theorem inMarchYear_place (era : Int) (place : Place) :
    InMarchYear (400 * era + place.yearInEra) place.day := by
  obtain ⟨century, cycle, year, day, centuryLt, cycleLt, yearLt, dayLt⟩ := place
  simp only [InMarchYear, IsLeap, Place.yearInEra]
  omega

/-- Every day of a year has a place in an era. -/
theorem exists_place_of_inMarchYear {year : Int} {day : Nat} (inYear : InMarchYear year day) :
    ∃ (era : Int) (place : Place), year = 400 * era + place.yearInEra ∧ day = place.day := by
  unfold InMarchYear IsLeap at inYear
  refine ⟨year / 400, ⟨(year % 400 / 100).toNat, (year % 100 / 4).toNat, (year % 4).toNat, day,
    by omega, by omega, by omega, by omega⟩, ?_, rfl⟩
  simp only [Place.yearInEra]
  omega

/-- The date of a day of an era is found from its place: the month is read off the day of the
year. -/
theorem ofDays_place (era : Int) (place : Place) :
    ofDays (146097 * era + place.dayOfEra - epochOffset)
      = ofMarch (400 * era + place.yearInEra) ((5 * place.day + 2) / 153)
          (place.day - monthStart ((5 * place.day + 2) / 153)) := by
  have found := yearOfEra_eq place
  obtain ⟨century, cycle, year, day, centuryLt, cycleLt, yearLt, dayLt⟩ := place
  simp only [Place.dayOfEra, Place.yearInEra] at found ⊢
  generalize total : 36524 * century + 1461 * cycle + 365 * year + day = dayOfEra at *
  generalize yearTotal : 100 * century + 4 * cycle + year = yearOfEra' at *
  have shifted : 146097 * era + (dayOfEra : Int) - epochOffset + epochOffset
      = 146097 * era + dayOfEra := Int.sub_add_cancel _ _
  have inEra : (146097 * era + (dayOfEra : Int)) % daysPerEra = dayOfEra := by
    unfold daysPerEra
    omega
  have eras : (146097 * era + (dayOfEra : Int)) / daysPerEra = era := by
    unfold daysPerEra
    omega
  have inYear : dayOfEra - (365 * yearOfEra' + yearOfEra' / 4 - yearOfEra' / 100) = day := by omega
  unfold yearOfEra at found
  simp only [ofDays, shifted, inEra, eras, Int.toNat_natCast, found, inYear, ofMarch, monthStart]
  rw [Int.add_comm, Int.mul_comm]

/-- A day of a year in its month. -/
theorem inMarchYear_monthStart {year : Int} {month day : Nat} (isMonth : month < 12)
    (isDay : day < marchMonthDays year month) :
    InMarchYear year (monthStart month + day) ∧
      (5 * (monthStart month + day) + 2) / 153 = month := by
  by_cases early : month < 11
  · have before := marchMonthDays_of_lt year early
    unfold monthStart InMarchYear at *
    exact ⟨.inl (by omega), by omega⟩
  · obtain rfl : month = 11 := by omega
    rw [marchMonthDays_last] at isDay
    unfold monthStart InMarchYear
    split at isDay
    · next leap =>
      refine ⟨?_, by omega⟩
      rcases Nat.lt_or_eq_of_le (Nat.le_of_lt_succ isDay) with short | rfl
      · exact .inl (by omega)
      · exact .inr ⟨by omega, leap⟩
    · exact ⟨.inl (by omega), by omega⟩

/-- Every day of a year is in a month. -/
theorem monthStart_of_inMarchYear {year : Int} {day : Nat} (inYear : InMarchYear year day) :
    (5 * day + 2) / 153 < 12 ∧ monthStart ((5 * day + 2) / 153) ≤ day ∧
      day - monthStart ((5 * day + 2) / 153) < marchMonthDays year ((5 * day + 2) / 153) := by
  have most : day ≤ 365 := inYear.elim Nat.le_of_lt fun last => last.1.le
  generalize isIn : (5 * day + 2) / 153 = month
  have start : monthStart month ≤ day := by
    unfold monthStart
    omega
  refine ⟨by omega, start, ?_⟩
  by_cases early : month < 11
  · have before := marchMonthDays_of_lt year early
    unfold monthStart at *
    omega
  · obtain rfl : month = 11 := by omega
    rw [marchMonthDays_last]
    unfold monthStart
    rcases inYear with short | ⟨rfl, leap⟩
    · split
      · omega
      · omega
    · rw [if_pos leap]
      decide

/-! ## Dates of numbers -/

/-- **The date of a day in a year from March.** -/
theorem ofDays_ofMarch {year : Int} {month day : Nat} (isMonth : month < 12)
    (isDay : day < marchMonthDays year month) :
    ofDays (marchDays year + monthStart month + day - epochOffset) = ofMarch year month day := by
  obtain ⟨inYear, isIn⟩ := inMarchYear_monthStart isMonth isDay
  obtain ⟨era, place, rfl, dayOfYear⟩ := exists_place_of_inMarchYear inYear
  have number := marchDays_place era place
  rw [← dayOfYear, Int.natCast_add, ← Int.add_assoc] at number
  rw [number, ofDays_place, ← dayOfYear, isIn, Nat.add_sub_cancel_left]

/-- Every number is that of a day in a year from March. -/
theorem exists_ofMarch (days : Int) : ∃ year month day, month < 12 ∧ day < marchMonthDays year month
    ∧ days = marchDays year + monthStart month + day - epochOffset := by
  have inEra : ((days + epochOffset) % 146097).toNat < 146097 := by omega
  obtain ⟨place, inEra⟩ := exists_place inEra
  have number := marchDays_place ((days + epochOffset) / 146097) place
  obtain ⟨isMonth, start, isDay⟩ :=
    monthStart_of_inMarchYear (inMarchYear_place ((days + epochOffset) / 146097) place)
  exact ⟨_, _, _, isMonth, isDay, by omega⟩

theorem ofDays_exists (days : Int) : (ofDays days).Exists := by
  obtain ⟨year, month, day, isMonth, isDay, rfl⟩ := exists_ofMarch days
  rw [ofDays_ofMarch isMonth isDay]
  exact ofMarch_exists isMonth isDay

/-- **The number of a day is counted back from its date.** -/
theorem toDays_ofDays (days : Int) : (ofDays days).toDays = days := by
  obtain ⟨year, month, day, isMonth, isDay, rfl⟩ := exists_ofMarch days
  rw [ofDays_ofMarch isMonth isDay, toDays_ofMarch isMonth]

theorem ofDays_toDays {date : Date} (isDate : date.Exists) : ofDays date.toDays = date := by
  obtain ⟨year, month, day, isMonth, isDay, rfl⟩ := exists_eq_ofMarch isDate
  rw [toDays_ofMarch isMonth, ofDays_ofMarch isMonth isDay]

/-- The dates that are valid are those that there are. -/
theorem isValid_iff_exists {date : Date} : date.isValid = true ↔ date.Exists := by
  rw [isValid, decide_eq_true_iff]
  exact ⟨fun same => same ▸ ofDays_exists _, ofDays_toDays⟩

/-- **After the date of a number comes the date of the next number.** -/
theorem ofDays_succ (days : Int) : ofDays (days + 1) = (ofDays days).next := by
  obtain ⟨year, month, day, isMonth, isDay, rfl⟩ := exists_ofMarch days
  rw [ofDays_ofMarch isMonth isDay]
  rcases Nat.lt_or_eq_of_le (Nat.succ_le_of_lt isDay) with more | last
  · rw [next_ofMarch more, ← ofDays_ofMarch isMonth more]
    congr 1
    omega
  · by_cases early : month < 11
    · have before := marchMonthDays_of_lt year early
      have isMonth : month + 1 < 12 := Nat.add_lt_of_lt_sub early
      rw [next_ofMarch_last early last, ← ofDays_ofMarch isMonth (marchMonthDays_pos _ _)]
      congr 1
      omega
    · obtain rfl : month = 11 := by omega
      have after := marchDays_succ year
      have begins : monthStart 0 = 0 := rfl
      rw [next_ofMarch_year last, ← ofDays_ofMarch (by decide) (marchMonthDays_pos _ _)]
      congr 1
      omega

/-! ## The calendar's dates -/

/-- **The date of a number is the date that the calendar has on that day.** -/
theorem onDay_iff {days : Int} {date : Date} : OnDay days date ↔ date = ofDays days := by
  constructor
  · intro onDay
    induction onDay with
    | epoch => decide
    | next today ih => rw [ih, ofDays_succ]
    | @previous days date isDate tomorrow ih =>
        have same : ofDays (date.toDays + 1) = ofDays (days + 1) := by
          rw [ofDays_succ, ofDays_toDays isDate, ih]
        have number := congrArg toDays same
        rw [toDays_ofDays, toDays_ofDays] at number
        rw [← (Int.add_left_inj 1).mp number, ofDays_toDays isDate]
  · rintro rfl
    induction days using Int.induction_on with
    | zero => exact .epoch
    | succ days ih =>
        rw [ofDays_succ]
        exact .next ih
    | pred days ih =>
        refine .previous (ofDays_exists _) ?_
        rw [← ofDays_succ, Int.sub_add_cancel]
        exact ih

theorem toDays_of_onDay {days : Int} {date : Date} (onDay : OnDay days date) :
    date.toDays = days := by
  rw [onDay_iff.mp onDay, toDays_ofDays]

end Date

end OverpassQuery
