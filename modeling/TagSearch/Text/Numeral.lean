/-!
# Integers in decimal

A numeral is an optional sign and one or more ASCII digits.  It is read from the left, and reading
ends at the first character that decides the outcome: a character that is no digit makes the text
malformed, and a digit that leads out of the signed 64-bit range ends the reading there, whatever
follows.
-/

namespace TagSearch.Text

/-- Ten multiplied by itself: what a digit is worth `n` places further to the left. -/
def powerOfTen (n : Nat) : Nat := Nat.pow 10 n

/-- The least signed 64-bit integer. -/
def int64Min : Int := -9223372036854775808

/-- The greatest signed 64-bit integer. -/
def int64Max : Int := 9223372036854775807

/-- The nearest integer of the signed 64-bit range. -/
def clampInt64 (n : Int) : Int := max int64Min (min int64Max n)

/-- The value of a decimal digit. -/
def digitValue (c : Char) : Nat := c.toNat - '0'.toNat

/-- The number that a run of decimal digits denotes. -/
def digitsValue (ds : List Char) : Nat := ds.foldl (fun n d => 10 * n + digitValue d) 0

/-- What reading a text as a signed 64-bit integer comes to. -/
inductive Int64Reading where
  | value (n : Int)
  /-- The digits read so far denote a number above the range. -/
  | above
  /-- The digits read so far denote a number below the range. -/
  | below
  | malformed
deriving DecidableEq

/-- Reads further digits behind those that denote `n`; `negative` tells the sign. -/
def readDigits (negative : Bool) (n : Nat) : List Char → Int64Reading
  | [] => .value (if negative then -(n : Int) else n)
  | c :: rest =>
    if !c.isDigit then .malformed
    else
      let next := 10 * n + digitValue c
      if negative then
        if -(next : Int) < int64Min then .below else readDigits negative next rest
      else
        if int64Max < (next : Int) then .above else readDigits negative next rest

/-- Reads an optional sign and at least one digit. -/
def readInt64 (cs : List Char) : Int64Reading :=
  match cs with
  | [] => .malformed
  | '+' :: rest => if rest.isEmpty then .malformed else readDigits false 0 rest
  | '-' :: rest => if rest.isEmpty then .malformed else readDigits true 0 rest
  | c :: rest => readDigits false 0 (c :: rest)

/-- The signed 64-bit integer that a text denotes. -/
def int64? (cs : List Char) : Option Int :=
  match readInt64 cs with
  | .value n => some n
  | _ => none

/-- The decimal digits of a natural number. -/
def natText (n : Nat) : String := String.ofList (Nat.toDigits 10 n)

/-- The decimal text of an integer, with a minus sign if it is negative. -/
def intText (n : Int) : String :=
  if n < 0 then "-" ++ natText n.natAbs else natText n.natAbs

/-- The decimal digits of a number, with zeros in front up to the width. -/
def paddedDigits (width n : Nat) : List Char :=
  let ds := Nat.toDigits 10 n
  List.replicate (width - ds.length) '0' ++ ds

end TagSearch.Text
