import TagSearch.Text.Numeral

/-!
# Civil dates

Dates of the proleptic Gregorian calendar and their day numbers, day 0 being 1970-01-01.  The
calendar is counted in years that begin in March, so that a leap day ends its year: 400 such years
have 146097 days, and the month lengths from March on follow `(153 * m + 2) / 5`.
-/

namespace TagSearch.Calendar

/-- A year, a month from 1 to 12 and a day of the month. -/
structure Date where
  /-- The year; year 0 comes before year 1. -/
  year : Int
  /-- The month, January being 1. -/
  month : Nat
  /-- The day of the month, from 1. -/
  day : Nat
deriving DecidableEq

/-- Every fourth year has a leap day, but of the full centuries only every fourth. -/
def isLeap (year : Int) : Bool :=
  year % 4 == 0 && (year % 100 != 0 || year % 400 == 0)

/-- The length of a month. -/
def daysInMonth (year : Int) (month : Nat) : Nat :=
  match month with
  | 2 => if isLeap year then 29 else 28
  | 4 | 6 | 9 | 11 => 30
  | _ => 31

namespace Date

/-- The month exists and has the day. -/
def isValid (d : Date) : Bool :=
  1 ≤ d.month && d.month ≤ 12 && 1 ≤ d.day && d.day ≤ daysInMonth d.year d.month

/-- The day with number 0. -/
def epoch : Date := ⟨1970, 1, 1⟩

/-- Days from 0000-03-01 to 1970-01-01. -/
def epochOffset : Int := 719468

/-- The day number; a day beyond the end of its month counts on into the next. -/
def dayNumber (d : Date) : Int :=
  let year := if d.month ≤ 2 then d.year - 1 else d.year
  let month := (d.month + 9) % 12
  365 * year + year / 4 - year / 100 + year / 400 + ((153 * month + 2) / 5 + d.day : Nat) - 1
    - epochOffset

/-- The date with a day number. -/
def ofDayNumber (n : Int) : Date :=
  let days := n + epochOffset
  let era := days / 146097
  let dayOfEra := (days % 146097).toNat
  let yearOfEra := (dayOfEra - dayOfEra / 1460 + dayOfEra / 36524 - dayOfEra / 146096) / 365
  let dayOfYear := dayOfEra - (365 * yearOfEra + yearOfEra / 4 - yearOfEra / 100)
  let month := (5 * dayOfYear + 2) / 153
  let year := era * 400 + yearOfEra
  { year := if month < 10 then year else year + 1
    month := if month < 10 then month + 3 else month - 9
    day := dayOfYear - (153 * month + 2) / 5 + 1 }

end Date

/-- A time of day in whole seconds. -/
structure Time where
  hour : Nat
  minute : Nat
  second : Nat
deriving DecidableEq

/-- Seconds since midnight. -/
def Time.seconds (t : Time) : Nat := 3600 * t.hour + 60 * t.minute + t.second

/-- The time of day so many seconds after midnight. -/
def Time.ofSeconds (s : Nat) : Time := ⟨s / 3600, s / 60 % 60, s % 60⟩

theorem Time.seconds_ofSeconds (s : Nat) : (Time.ofSeconds s).seconds = s := by
  simp only [Time.seconds, Time.ofSeconds]
  omega

end TagSearch.Calendar
