import OverpassQuery.Calendar.Date

/-!
# Instants

A timestamp is a reading of a clock together with the clock's offset from UTC;
the instant it stands for is the reading less the offset. Instants are written
in UTC in the form of RFC 3339, with as many digits after the seconds as are
needed. That form has no negative years; such instants are written as whole
seconds since 1970. The calendar ends with the years -9999 and 9999.
-/

set_option autoImplicit false

namespace OverpassQuery

/-- Nanoseconds since the start of 1970 in UTC. -/
structure Instant where
  nanoseconds : Int
  deriving DecidableEq

/-- A clock's reading, in nanoseconds since the start of 1970 as that clock shows it,
and the number of seconds by which the clock is ahead of UTC. -/
structure Timestamp where
  clock : Int
  offset : Int
  deriving DecidableEq

/-- A time of day. -/
structure TimeOfDay where
  hour : Nat
  minute : Nat
  second : Nat
  nanosecond : Nat
  deriving DecidableEq

namespace Instant

/-- Nanoseconds in a second. -/
def perSecond : Int := 1000000000

/-- Seconds in a day. -/
def secondsPerDay : Int := 86400

/-- Whole seconds since 1970, rounded towards the past. -/
def seconds (instant : Instant) : Int := instant.nanoseconds / perSecond

/-- Nanoseconds past the whole second. -/
def fraction (instant : Instant) : Nat := (instant.nanoseconds % perSecond).toNat

/-- The date of an instant in UTC. -/
def date (instant : Instant) : Date := Date.ofDays (instant.seconds / secondsPerDay)

/-- The seconds of the day of an instant in UTC. -/
def secondOfDay (instant : Instant) : Nat := (instant.seconds % secondsPerDay).toNat

/-! ## Text -/

/-- A natural number with zeros in front up to a width. -/
def padded (width value : Nat) : List Char :=
  let digits := Nat.toDigits 10 value
  List.replicate (width - digits.length) '0' ++ digits

/-- The fraction of a second: nothing for zero, else a point and the digits up to the
last that is not zero. -/
def fractionChars (nanoseconds : Nat) : List Char :=
  if nanoseconds = 0 then []
  else '.' :: ((padded 9 nanoseconds).reverse.dropWhile (· = '0')).reverse

/-- The form of RFC 3339 for a year that is not negative. -/
def rfc3339Chars (instant : Instant) : List Char :=
  let date := instant.date
  let second := instant.secondOfDay
  padded 4 date.year.toNat ++ '-' :: padded 2 date.month ++ '-' :: padded 2 date.day
    ++ 'T' :: padded 2 (second / 3600) ++ ':' :: padded 2 (second / 60 % 60)
    ++ ':' :: padded 2 (second % 60) ++ fractionChars instant.fraction ++ ['Z']

/-- Whether the calendar holds an instant. -/
def inCalendar (instant : Instant) : Bool :=
  -9999 ≤ instant.date.year && instant.date.year ≤ 9999

/-- The text of an instant, without quotes. -/
def text (instant : Instant) : String :=
  if instant.date.year < 0 then toString instant.seconds
  else String.ofList instant.rfc3339Chars

end Instant

namespace Timestamp

/-- The instant that a timestamp stands for. -/
def instant (timestamp : Timestamp) : Instant :=
  ⟨timestamp.clock - timestamp.offset * Instant.perSecond⟩

/-- An instant as shown by a clock that is ahead of UTC by the given seconds. -/
def ofInstant (instant : Instant) (offset : Int) : Timestamp :=
  ⟨instant.nanoseconds + offset * Instant.perSecond, offset⟩

/-- The date and time that a clock shows, with the clock's offset. -/
def ofClock (date : Date) (time : TimeOfDay) (offset : Int) : Timestamp :=
  let seconds : Int := date.toDays * Instant.secondsPerDay
    + (time.hour * 3600 + time.minute * 60 + time.second : Nat)
  ⟨seconds * Instant.perSecond + time.nanosecond, offset⟩

/-- The quoted text of the instant of a timestamp, if the calendar holds it. -/
def quoted? (timestamp : Timestamp) : Option String :=
  if timestamp.instant.inCalendar then some ("\"" ++ timestamp.instant.text ++ "\"") else none

example : (ofInstant ⟨-1⟩ 3600).quoted? = some "\"1969-12-31T23:59:59.999999999Z\"" := by
  decide +kernel
example : (ofClock ⟨0, 1, 1⟩ ⟨0, 30, 0, 0⟩ 3600).quoted? = some "\"-62167221000\"" := by
  decide +kernel
example : (ofClock ⟨9999, 12, 31⟩ ⟨23, 30, 0, 0⟩ (-3600)).quoted? = none := by decide +kernel

end Timestamp

end OverpassQuery
