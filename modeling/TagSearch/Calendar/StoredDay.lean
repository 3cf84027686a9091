import TagSearch.Calendar.JulianDay
import TagSearch.Calendar.Moment
import TagSearch.Double.Extended

/-!
# The day of a stored text

Dates are stored as plain text, and the database reads such a text when a day is asked for.  It
understands a date with an optional time behind it, a time alone, which is on 2000-01-01, a number of
days of the Julian day count, and words for the day on which it is asked.  A time may carry a zone,
and the day is then that of the time in UTC.  A day of a month up to 28 without a zone is taken as
written.  Everything else is counted in milliseconds and converted back, so 30 February becomes 1 or
2 March.

A text is read up to its first null character.
-/

namespace TagSearch.Calendar

open Text

/-- The white space that separates the parts of a stored date. -/
def isDateBlank (c : Char) : Bool := isAsciiBlank c || c == '\x0b'

/-- What stands between a date and its time. -/
def isDateSeparator (c : Char) : Bool := isDateBlank c || c == 'T'

/-- Exactly `count` digits of a number between two bounds. -/
def takeExactly? (count least most : Nat) (cs : List Char) : Option (Nat × List Char) :=
  let ds := cs.take count
  let n := digitsValue ds
  if ds.length = count ∧ ds.all Char.isDigit ∧ least ≤ n ∧ n ≤ most then some (n, cs.drop count)
  else none

/-- This very character. -/
def takeChar? (c : Char) : List Char → Option (List Char)
  | d :: rest => if c == d then some rest else none
  | [] => none

/-- A date in ten characters, or eleven with a minus sign. -/
def takeStoredDate? (cs : List Char) : Option (Date × List Char) := do
  let (negative, cs) := match cs with
    | '-' :: rest => (true, rest)
    | _ => (false, cs)
  let (year, cs) ← takeExactly? 4 0 9999 cs
  let cs ← takeChar? '-' cs
  let (month, cs) ← takeExactly? 2 1 12 cs
  let cs ← takeChar? '-' cs
  let (day, cs) ← takeExactly? 2 1 31 cs
  return (⟨if negative then -(year : Int) else year, month, day⟩, cs)

/-- A zone as minutes ahead of UTC; nothing is UTC, and the text ends behind the zone. -/
def readZone? (cs : List Char) : Option Int :=
  match cs.dropWhile isDateBlank with
  | [] => some 0
  | c :: rest =>
    if c == 'Z' || c == 'z' then ended? 0 rest
    else if c == '+' || c == '-' then do
      let (hours, rest) ← takeExactly? 2 0 14 rest
      let rest ← takeChar? ':' rest
      let (minutes, rest) ← takeExactly? 2 0 59 rest
      let ahead : Int := (60 * hours + minutes : Nat)
      ended? (if c == '-' then -ahead else ahead) rest
    else none
where
  /-- The minutes, if only blanks follow. -/
  ended? (minutes : Int) (rest : List Char) : Option Int :=
    if rest.all isDateBlank then some minutes else none

/-- A time of day in milliseconds and the minutes by which its zone is ahead of UTC. -/
structure ZonedTime where
  /-- Milliseconds since midnight; nothing if the fraction of a second is not a number. -/
  milliseconds : Option Int
  ahead : Int

/-- The fraction of a second behind a point, if a digit follows, as its digits. -/
def takeFraction : List Char → List Char × List Char
  | '.' :: rest =>
    let ds := rest.takeWhile Char.isDigit
    if ds.isEmpty then ([], '.' :: rest) else (ds, rest.dropWhile Char.isDigit)
  | cs => ([], cs)

/-- A fraction of a second as a double, which grows digit by digit and is then divided by as many
tens; it is not a number if both have grown beyond every double. -/
def fractionOfSecond (fraction : List Char) : Double :=
  let (n, scale) := fraction.foldl
    (fun (n, scale) c =>
      (((n.mul (.ofInt 10)).add (.ofInt c.toNat)).add (.ofInt (-48)), scale.mul (.ofInt 10)))
    (Double.zero, .ofInt 1)
  n.div scale

/-- Seconds with a decimal fraction in milliseconds, rounded half up in doubles. -/
def secondsInMilliseconds? (seconds : Nat) (fraction : List Char) : Option Int :=
  let x := ((Double.ofInt seconds).add (fractionOfSecond fraction)).mul (.ofInt 1000)
  if x = .nan then none else some (x.add (.ofRatio false 1 2)).truncInt64

/-- Hours and minutes, seconds with an optional fraction, and a zone up to the end of the text. -/
def readZonedTime? (cs : List Char) : Option ZonedTime := do
  let (hour, cs) ← takeExactly? 2 0 24 cs
  let cs ← takeChar? ':' cs
  let (minute, cs) ← takeExactly? 2 0 59 cs
  let (milliseconds, cs) ← match cs with
    | ':' :: rest => do
      let (second, rest) ← takeExactly? 2 0 59 rest
      let (fraction, rest) := takeFraction rest
      pure (secondsInMilliseconds? second fraction, rest)
    | _ => pure (some 0, cs)
  let ahead ← readZone? cs
  let minutes : Int := (3600000 * hour + 60000 * minute : Nat)
  return ⟨milliseconds.map (minutes + ·), ahead⟩

/-- The date of a day and a time on it, as written or counted out. -/
def resolve? (date : Date) (time : ZonedTime) (asWritten : Bool) : Option Date :=
  let counted := time.milliseconds.bind fun milliseconds =>
    Date.ofJulianMilliseconds? (date.julianMilliseconds (milliseconds - time.ahead * 60000))
  if date.year < -4713 then none
  else if asWritten && date.day ≤ 28 && time.ahead == 0 then counted.map fun _ => date
  else counted

/-- A date with nothing or a time behind it. -/
def readStoredDate? (cs : List Char) : Option (Option Date) :=
  (takeStoredDate? cs).bind fun (date, rest) =>
    let rest := rest.dropWhile isDateSeparator
    match readZonedTime? rest with
    | some time => some (resolve? date time true)
    | none => if rest.isEmpty then some (resolve? date ⟨some 0, 0⟩ true) else none

/-- A number of days of the Julian day count. -/
def readJulian? (cs : List Char) : Option Date :=
  let (negative, body) := Double.takeSign (stripEnds isDateBlank cs)
  (Double.readLiteral? body).bind fun l =>
    let days := (Extended.ofLiteral l).toDouble negative
    match days.compare? .zero, days.compare? lastDays with
    | some .lt, _ => none
    | some _, some .lt =>
      Date.ofJulianMilliseconds? ((days.mul (.ofInt 86400000)).add (.ofRatio false 1 2)).truncInt64
    | _, _ => none
where
  /-- The first number of days without a date. -/
  lastDays : Double := .ofRatio false 10746969 2

/-- The words, in any letter case, that stand for the day on which they are read. -/
def wordsForToday : List String := ["now", "subsec", "subsecond"]

/-- The day that a stored text stands for on a given day. -/
def storedDay? (today : Date) (cs : List Char) : Option Date :=
  let cs := cs.takeWhile (· != '\x00')
  match readStoredDate? cs with
  | some date => date
  | none =>
    match readZonedTime? cs with
    | some time => resolve? ⟨2000, 1, 1⟩ time false
    | none =>
      if wordsForToday.contains (String.ofList (cs.map Char.toLower)) then some today
      else readJulian? cs

/-- A stored day as text: the year has four digits, behind a minus sign if it is negative. -/
def Date.storedText (d : Date) : List Char :=
  let year := paddedDigits 4 d.year.natAbs
  (if d.year < 0 then '-' :: year else year) ++
    '-' :: (paddedDigits 2 d.month ++ '-' :: paddedDigits 2 d.day)

end TagSearch.Calendar
