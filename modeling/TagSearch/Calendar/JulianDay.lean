import TagSearch.Calendar.Date

/-!
# Dates by Julian day

The database takes a date to the milliseconds of the Julian day count, which begins at noon of
24 November 4714 BC, and back.  Its count follows the calendar except far in the past, where it rounds
centuries toward year 0: some years are counted a day late, and some first days of March are given
back as the last of February.  A date of year 0 or later is counted as the calendar does.
-/

namespace TagSearch.Calendar

/-- Milliseconds from the beginning of the Julian day count to 1970-01-01. -/
def julianEpoch : Int := 210866760000000

/-- The last millisecond of the Julian day count that has a date. -/
def lastJulian : Int := 464269060799999

/-- A year that begins in March is counted a day late if it is a full century before year 0 and not
a fourth one, -1300 for instance. -/
def isCountedLate (marchYear : Int) : Bool :=
  marchYear < 0 && marchYear % 100 == 0 && marchYear % 400 != 0

namespace Date

/-- The day number as the database counts it. -/
def countedDay (d : Date) : Int :=
  let marchYear := if d.month ≤ 2 then d.year - 1 else d.year
  if isCountedLate marchYear then d.dayNumber + 1 else d.dayNumber

/-- The date that the database gives to a day number.  The day after 28 February is 29 February in
the year 300 and in every four hundredth year before it. -/
def ofCountedDay (n : Int) : Date :=
  let d := ofDayNumber n
  if d.month = 3 ∧ d.day = 1 ∧ d.year ≤ 300 ∧ d.year % 400 = 300 then ⟨d.year, 2, 29⟩ else d

theorem countedDay_of_nonneg {d : Date} (h : 0 ≤ d.year) : d.countedDay = d.dayNumber := by
  have hlate : isCountedLate (if d.month ≤ 2 then d.year - 1 else d.year) = false := by
    simp only [isCountedLate, Bool.and_eq_false_iff, decide_eq_false_iff_not, beq_eq_false_iff_ne]
    split <;> omega
  simp [countedDay, hlate]

/-- A date of the Julian day count and a time on it, as milliseconds of the count. -/
def julianMilliseconds (d : Date) (sinceMidnight : Int) : Int :=
  d.countedDay * 86400000 + julianEpoch + sinceMidnight

/-- The date in which a millisecond of the Julian day count falls. -/
def ofJulianMilliseconds? (milliseconds : Int) : Option Date :=
  if 0 ≤ milliseconds ∧ milliseconds ≤ lastJulian then
    some (ofCountedDay ((milliseconds - julianEpoch) / 86400000))
  else none

end Date

end TagSearch.Calendar
