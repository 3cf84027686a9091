import TagSearch.Calendar.Pattern

/-!
# Moments of a date operand

The operand of a date filter names a day, or a day and a time.  Digits alone are seconds since
1970-01-01 00:00:00; anything else is tried against the patterns, those with a time first.  Whatever
was written, a moment has one text: `YYYY-MM-DD`, with `HH:MM:SS` behind it if there is a time.
-/

namespace TagSearch.Calendar

open Text

/-- A day, or a time on a day. -/
inductive Moment where
  | day (date : Date)
  | instant (date : Date) (time : Time)
deriving DecidableEq

/-- The year in at least four characters, a minus sign counting as one of them. -/
def yearText (year : Int) : List Char :=
  if year < 0 then '-' :: paddedDigits 3 year.natAbs else paddedDigits 4 year.natAbs

/-- Year, month and day with hyphens between them. -/
def Date.text (d : Date) : List Char :=
  yearText d.year ++ '-' :: (paddedDigits 2 d.month ++ '-' :: paddedDigits 2 d.day)

/-- Hour, minute and second with colons between them. -/
def Time.text (t : Time) : List Char :=
  paddedDigits 2 t.hour ++ ':' :: (paddedDigits 2 t.minute ++ ':' :: paddedDigits 2 t.second)

namespace Moment

/-- The normal form of a moment. -/
def text : Moment → List Char
  | .day d => d.text
  | .instant d t => d.text ++ ' ' :: t.text

/-- The last second that a number of seconds may name: 9999-12-30 22:00:00. -/
def lastSecond : Nat := 253402207200

/-- The moment so many seconds after 1970-01-01 00:00:00. -/
def ofSeconds? (n : Nat) : Option Moment :=
  if n ≤ lastSecond then
    some (.instant (Date.ofDayNumber (n / 86400 : Nat)) (Time.ofSeconds (n % 86400)))
  else none

/-- Year, month and day in this order. -/
def yearFirst (separator : Char) : List Part :=
  [.year, .literal separator, .month, .literal separator, .day]

/-- Month, day and year in this order. -/
def monthFirst (separator : Char) : List Part :=
  [.month, .literal separator, .day, .literal separator, .year]

/-- Day, month and year in this order. -/
def dayFirst (separator : Char) : List Part :=
  [.day, .literal separator, .month, .literal separator, .year]

/-- Hours and minutes behind a date. -/
def toTheMinute : List Part := [.blank, .hour, .literal ':', .minute]

/-- Hours, minutes and seconds behind a date. -/
def toTheSecond : List Part := toTheMinute ++ [.literal ':', .second]

/-- The patterns with a time of day, in the order in which they are tried. -/
def instantPatterns : List (List Part) :=
  [yearFirst '-', yearFirst '/', monthFirst '-', dayFirst '-'].flatMap fun date =>
    [date ++ toTheSecond, date ++ toTheMinute]

/-- The patterns without a time of day, in the order in which they are tried. -/
def dayPatterns : List (List Part) :=
  [yearFirst '-', yearFirst '/', monthFirst '-', monthFirst '/', dayFirst '-', dayFirst '/',
    [.year, .month, .day]]

/-- The moment that a text names by the first pattern it fits. -/
def ofWritten? (cs : List Char) : Option Moment :=
  match instantPatterns.findSome? (readPattern? · cs) with
  | some fs => some (.instant fs.date fs.time)
  | none => (dayPatterns.findSome? (readPattern? · cs)).map fun fs => .day fs.date

end Moment

end TagSearch.Calendar
