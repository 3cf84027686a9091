import TagSearch.Calendar.Date
import TagSearch.Text.White

/-!
# Patterns of written dates

A pattern is a list of parts that are read one after the other and must use up the whole text.
Numbers may have blanks in front of them, a blank in a pattern stands for any number of blanks, and
a leap second is read as the last ordinary second of its minute.
-/

namespace TagSearch.Calendar

open Text

/-- One part of a pattern. -/
inductive Part where
  /-- An optional sign and at most four digits. -/
  | year
  /-- At most two digits, from 1 to 12. -/
  | month
  /-- At most two digits, from 1 to 31. -/
  | day
  /-- At most two digits, below 24. -/
  | hour
  /-- At most two digits, below 60. -/
  | minute
  /-- At most two digits, at most 60. -/
  | second
  /-- Blanks, possibly none. -/
  | blank
  /-- This very character. -/
  | literal (c : Char)
deriving DecidableEq

/-- What the parts read so far have set. -/
structure Fields where
  /-- The date, which need not exist. -/
  date : Date
  /-- The time of day, midnight until a part says otherwise. -/
  time : Time

/-- Nothing read yet. -/
def Fields.start : Fields := ⟨⟨0, 1, 1⟩, ⟨0, 0, 0⟩⟩

/-- Blanks, then between one and `most` digits. -/
def takeNumber? (most : Nat) (cs : List Char) : Option (Nat × List Char) :=
  let rest := cs.dropWhile isAsciiBlank
  let ds := (rest.take most).takeWhile Char.isDigit
  if ds.isEmpty then none else some (digitsValue ds, rest.drop ds.length)

/-- A number of at most two digits between two bounds. -/
def takeTwoDigits? (least most : Nat) (cs : List Char) : Option (Nat × List Char) :=
  match takeNumber? 2 cs with
  | some (n, rest) => if least ≤ n && n ≤ most then some (n, rest) else none
  | none => none

/-- A year with an optional sign. -/
def takeYear? (cs : List Char) : Option (Int × List Char) :=
  match cs with
  | '-' :: rest => (takeNumber? 4 rest).map fun (n, rest) => (-(n : Int), rest)
  | '+' :: rest => (takeNumber? 4 rest).map fun (n, rest) => ((n : Int), rest)
  | _ => (takeNumber? 4 cs).map fun (n, rest) => ((n : Int), rest)

/-- Reads one part and keeps what it sets. -/
def Part.take? (fs : Fields) (cs : List Char) : Part → Option (Fields × List Char)
  | .year => (takeYear? cs).map fun (n, rest) => ({ fs with date.year := n }, rest)
  | .month => (takeTwoDigits? 1 12 cs).map fun (n, rest) => ({ fs with date.month := n }, rest)
  | .day => (takeTwoDigits? 1 31 cs).map fun (n, rest) => ({ fs with date.day := n }, rest)
  | .hour => (takeTwoDigits? 0 23 cs).map fun (n, rest) => ({ fs with time.hour := n }, rest)
  | .minute => (takeTwoDigits? 0 59 cs).map fun (n, rest) => ({ fs with time.minute := n }, rest)
  | .second =>
    (takeTwoDigits? 0 60 cs).map fun (n, rest) => ({ fs with time.second := min n 59 }, rest)
  | .blank => some (fs, cs.dropWhile isAsciiBlank)
  | .literal c =>
    match cs with
    | d :: rest => if c == d then some (fs, rest) else none
    | [] => none

/-- Reads a whole text by the parts of a pattern. -/
def readParts? (fs : Fields) (cs : List Char) : List Part → Option Fields
  | [] => if cs.isEmpty then some fs else none
  | p :: ps =>
    match p.take? fs cs with
    | some (fs, rest) => readParts? fs rest ps
    | none => none

/-- The fields that a pattern finds in a text, if they name a date that exists. -/
def readPattern? (parts : List Part) (cs : List Char) : Option Fields :=
  match readParts? .start cs parts with
  | some fs => if fs.date.isValid then some fs else none
  | none => none

end TagSearch.Calendar
